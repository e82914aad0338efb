import LiveSearch.Proofs.Service.Subscriptions
import LiveSearch.Proofs.Service.Thriving

/-! # What keeps the session of an entry alive

As long as nothing is made to fail and the list of a name is not deleted, the session of its entry
thrives, whatever else happens (`LiveSearch.Service.Sustains`,
`LiveSearch.Provider.perform_sustains`).
-/

namespace LiveSearch

/-- An act makes nothing fail. -/
def Act.IsHarmless : Act → Prop
  | .request asked => asked.isFault = false
  | .failWrites failure => failure = none
  | _ => True

namespace Service

/-- Nothing is made to fail at present. -/
def IsFaultless (service : Service) : Prop :=
  service.database.failQuery = none ∧ service.database.failSubscribe = none ∧
    service.board.failure = none

instance (service : Service) : Decidable service.IsFaultless :=
  decidable_of_iff (service.database.failQuery.isNone = true ∧
      service.database.failSubscribe.isNone = true ∧ service.board.failure.isNone = true) <| by
    simp only [IsFaultless, Option.isNone_iff_eq_none]

/-- The table that the query of a name asks for exists. -/
def HasTable (service : Service) (name : String) : Prop :=
  ∀ descriptor, Descriptor.ofName name = .ok descriptor →
    ∃ table, service.database.tables[descriptor.table]? = some table

/-- If a name has an entry, its session thrives. -/
def Sustains (service : Service) (name : String) : Prop :=
  ∀ entry : Entry, service.entries[name]? = some entry →
    ∃ running : Running, service.running[entry.session]? = some running ∧
      running.Thrives service.board service.database

variable {service : Service} {name : String} {id : Nat}

/-- The session of an entry that is sustained has not reported that it is detached. -/
theorem Sustains.unreported (sustains : service.Sustains name) (sound : service.IsSound) :
    ∀ report ∈ service.detachments, ∀ entry, service.entries[name]? = some entry →
      entry.session ≠ report.session := by
  intro report member entry found same
  obtain ⟨running, held, thrives⟩ := sustains entry found
  obtain ⟨another, there, stopped⟩ := sound.reported report member
  obtain rfl := Option.some.inj (held.symm.trans (same ▸ there))
  have going := thrives.going
  rw [stopped] at going
  exact absurd going.symm Bool.false_ne_true

/-- A step of a session does not end the session of the entry. -/
private theorem Sustains.step? (sustains : service.Sustains name) (sound : service.IsSound)
    (faultless : service.IsFaultless) {next : Service} (stepped : service.step? id = some next) :
    next.Sustains name := by
  obtain ⟨queries, opens, working⟩ := faultless
  obtain ⟨running, behind, between, signal, found, told, rfl⟩ := step?_cases stepped
  have passes := told.passes (sound.sessions id running found) sound.board sound.database
  have unclosed := told.unclosed (sound.sessions id running found).tends
  intro entry entered
  obtain ⟨session, held, thrives⟩ := sustains entry entered
  obtain ⟨_, same, there, _, unended, kept⟩ := sound.entered name entry entered
  obtain rfl := Option.some.inj (held.symm.trans there)
  change ∃ running : Running, (service.running.insert id _)[entry.session]? = some running ∧ _
  rw [lookup_insert]
  by_cases own : id = entry.session
  · rw [← own] at held
    obtain rfl := Option.some.inj (found.symm.trans held)
    rw [if_pos own]
    exact ⟨_, rfl, told.thrives (sound.sessions id running found) sound.board sound.database
      unclosed kept working queries opens thrives⟩
  · rw [if_neg own]
    refine ⟨session, held, thrives.frame (passes.writes.lists _ fun equal => own ?_)
      (fun address box feed placed => ⟨box, ?_, rfl⟩) fun other table stored => ?_⟩
    · exact sound.alone id entry.session running session found held unclosed unended equal
    · have known : address < service.database.feedRoom.next := by
        have reads := (sound.sessions entry.session session held).reads
        rw [Running.Reads, feed] at reads
        exact Database.Serves.known reads sound.database
      have keeps := passes.spares.keeps address known fun equal =>
        own (sound.apart id entry.session running session address found held equal feed)
      exact keeps.box.symm.trans placed
    · obtain ⟨feeds, still⟩ := passes.spares.tables other table stored
      exact ⟨_, still⟩

/-- A request that makes nothing fail does not disturb the session of the entry. -/
private theorem Sustains.answer (sustains : service.Sustains name) {database : Database}
    {admits : Json → Prop} (answer : Database.Answer admits service.database false database) :
    Sustains { service with database } name := by
  obtain ⟨_, _, lasting⟩ := answer.lasting
  intro entry entered
  obtain ⟨running, held, thrives⟩ := sustains entry entered
  exact ⟨running, held, thrives.frame rfl (fun address box _ placed => lasting address box placed)
    fun _ _ found => answer.tables found⟩

/-- What happens to lists of other names does not disturb the session of the entry. -/
private theorem Sustains.withBoard (sustains : service.Sustains name) (sound : service.IsSound)
    {board : Board} (lists : board.lists[name]? = service.board.lists[name]?) :
    Sustains { service with board } name := by
  intro entry entered
  obtain ⟨running, held, thrives⟩ := sustains entry entered
  obtain ⟨_, same, there, named, _⟩ := sound.entered name entry entered
  obtain rfl := Option.some.inj (held.symm.trans there)
  rw [← named] at lists
  exact ⟨running, held, thrives.frame lists (fun _ box _ placed => ⟨box, placed, rfl⟩)
    fun _ table found => ⟨table, found⟩⟩

/-- The closing of a session does not disturb the session of the entry. -/
private theorem Sustains.finishClosing (sustains : service.Sustains name) (sound : service.IsSound)
    {running : Running} (found : service.running[id]? = some running)
    (stopped : running.session.phase.isStopped = true) (unclosed : running.session.closed = false)
    (cancelled : running.session.cancelled = true) : (service.finishClosing id).Sustains name := by
  have own := sound.sessions id running found
  have lists := Session.lists_finishClosing sound.board own.fits (own.owns unclosed) stopped
  rw [finishClosing_eq found]
  intro entry entered
  obtain ⟨session, held, thrives⟩ := sustains entry entered
  obtain ⟨_, same, there, named, unended, kept⟩ := sound.entered name entry entered
  obtain rfl := Option.some.inj (held.symm.trans there)
  have different : id ≠ entry.session := by
    intro equal
    rw [← equal] at held
    rw [Option.some.inj (held.symm.trans found), cancelled] at kept
    exact absurd kept.symm Bool.false_ne_true
  refine ⟨session, ?_, thrives.frame ?_ (fun _ box _ placed => ⟨box, placed, rfl⟩)
    fun _ table found => ⟨table, found⟩⟩
  · change (service.running.insert id _)[entry.session]? = _
    rw [lookup_insert, if_neg different, held]
  · change (running.session.finishClosing service.board).2.lists[session.session.name]? = _
    rw [lists, if_neg fun equal => different ?_]
    exact sound.alone id entry.session running session found held unclosed unended equal

/-- A session that has just been opened thrives if its table exists. -/
theorem thrives_of_opened {descriptor : Descriptor} (has : service.HasTable name)
    (parsed : Descriptor.ofName name = .ok descriptor) :
    Running.Thrives ⟨Session.start name service.primaryKey, descriptor.plan service.primaryKey,
      none, [], none⟩ service.board service.database where
  going := rfl
  answered _ refused := nomatch refused
  stored := has descriptor parsed
  lasting _ _ feed := nomatch feed
  listed late := absurd late.symm Bool.false_ne_true

/-- The registry does not disturb the session of an entry that it keeps. -/
private theorem Sustains.registers (sustains : service.Sustains name) (sound : service.IsSound)
    {opening : Option String} {result : Service × Option Nat}
    (registers : service.Registers opening result)
    (has : opening = some name → service.HasTable name) :
    result.1.Sustains name := by
  cases registers with
  | unchanged => exact sustains
  | counted _ other entry subscribers found some =>
      intro present entered
      rcases lookup_insert_cases entered with ⟨rfl, rfl⟩ | ⟨_, earlier⟩
      · exact sustains entry found
      · exact sustains present earlier
  | removed _ other entry found =>
      obtain ⟨_, running, held, _⟩ := sound.entered other entry found
      rw [removeEntry_eq held]
      intro present entered
      obtain ⟨different, earlier⟩ := lookup_erase_cases entered
      obtain ⟨session, there, thrives⟩ := sustains present earlier
      refine ⟨session, ?_, thrives⟩
      change (service.running.insert entry.session _)[present.session]? = _
      rw [lookup_insert, if_neg fun equal => different ?_, there]
      exact sound.name_of_session found earlier equal.symm
  | opened other descriptor absent parsed =>
      intro present entered
      change ∃ running : Running,
        (service.running.insert service.nextSession _)[present.session]? = some running ∧ _
      rw [lookup_insert]
      rcases lookup_insert_cases entered with ⟨rfl, rfl⟩ | ⟨_, earlier⟩
      · rw [if_pos rfl]
        exact ⟨_, rfl, thrives_of_opened (has rfl) parsed⟩
      · obtain ⟨session, there, thrives⟩ := sustains present earlier
        rw [if_neg (Nat.ne_of_gt (sound.known _ session there))]
        exact ⟨session, there, thrives⟩

end Service

namespace Provider

variable {provider : Provider} {regex : Pattern.Regex} {field name : String}

/-- The provider touches neither the store nor the writing of lists. -/
private theorem step?_keeps (sound : provider.IsSound regex field) {next : Provider}
    (stepped : provider.step? = some next) :
    next.service.database = provider.service.database ∧
      next.service.board.failure = provider.service.board.failure := by
  have goOn {base : Provider} {opening : Option String} {result : Service × Option Nat}
      (registers : base.service.Registers opening result) :
      (base.goOn result).service.database = base.service.database ∧
        (base.goOn result).service.board = base.service.board := by
    obtain ⟨service, pending⟩ := result
    cases pending <;> exact registers.keeps
  rcases step?_cases sound stepped with
    ⟨id, _, _, _, _, rfl⟩ | ⟨report, rest, _, _, rfl⟩ | ⟨notice, rest, _, _, _, rfl⟩
  · obtain ⟨database, _, failure, _⟩ := provider.afterClosing_keeps id
    exact ⟨database, failure⟩
  · obtain ⟨database, board⟩ := goOn (Service.dropDetached_registers
      (provider.afterReport rest).service report)
    exact ⟨database, congrArg Board.failure board⟩
  · have read : provider.afterNotice.service.board.failure = provider.service.board.failure := by
      unfold afterNotice findNotice
      split <;> rfl
    split
    · obtain ⟨database, board⟩ := goOn (Service.addSubscriber_registers
        provider.afterNotice.service notice.name)
      exact ⟨database, (congrArg Board.failure board).trans read⟩
    · obtain ⟨database, board⟩ := goOn (Service.dropSubscriber_registers
        provider.afterNotice.service notice.name)
      exact ⟨database, (congrArg Board.failure board).trans read⟩

/-- A step of a session leaves the store and the writing of lists as they are, up to its own
feed. -/
private theorem stepSession_keeps (sound : provider.IsSound regex field) {id : Nat}
    {service : Service} (stepped : provider.service.step? id = some service) :
    (∃ own, Database.Spares own provider.service.database service.database) ∧
      service.board.failure = provider.service.board.failure := by
  obtain ⟨running, behind, between, signal, found, told, rfl⟩ := Service.step?_cases stepped
  have passes := told.passes (sound.service.sessions id running found) sound.service.board
    sound.service.database
  exact ⟨⟨_, passes.spares⟩, passes.writes.failure⟩

/-- Nothing is made to fail by harmless acts. -/
theorem perform_isFaultless (sound : provider.IsSound regex field) {act : Act}
    (plain : act.IsPlain field) (harmless : act.IsHarmless)
    (faultless : provider.service.IsFaultless) : (provider.perform act).service.IsFaultless := by
  obtain ⟨queries, opens, working⟩ := faultless
  cases act with
  | subscribe other => exact ⟨queries, opens, working⟩
  | unsubscribe other => exact ⟨queries, opens, working⟩
  | request request =>
      have answer := sound.answer request plain
      rw [(harmless : request.isFault = false)] at answer
      obtain ⟨failQuery, failSubscribe, _⟩ := answer.lasting
      exact ⟨failQuery.trans queries, failSubscribe.trans opens, working⟩
  | failWrites failure => exact ⟨queries, opens, harmless⟩
  | deleteList other => exact ⟨queries, opens, (Board.failure_deleteList _ other).trans working⟩
  | provider =>
      change (provider.step?.getD provider).service.IsFaultless
      cases stepped : provider.step? with
      | none => exact ⟨queries, opens, working⟩
      | some next =>
          obtain ⟨database, failure⟩ := step?_keeps sound stepped
          refine ⟨?_, ?_, failure.trans working⟩
          · rw [Option.getD_some, database, queries]
          · rw [Option.getD_some, database, opens]
  | session id =>
      change ((provider.stepSession? id).getD provider).service.IsFaultless
      unfold stepSession?
      cases stepped : provider.service.step? id with
      | none => exact ⟨queries, opens, working⟩
      | some service =>
          obtain ⟨⟨_, spares⟩, failure⟩ := stepSession_keeps sound stepped
          exact ⟨spares.failQuery queries, spares.failSubscribe opens, failure.trans working⟩

/-- A table that exists goes on existing. -/
theorem perform_hasTable (sound : provider.IsSound regex field) {act : Act}
    (plain : act.IsPlain field) (has : provider.service.HasTable name) :
    (provider.perform act).service.HasTable name := by
  intro descriptor parsed
  obtain ⟨table, found⟩ := has descriptor parsed
  cases act with
  | request request =>
      exact (sound.answer request plain).tables found
  | provider =>
      change ∃ table, (provider.step?.getD provider).service.database.tables[descriptor.table]? = _
      cases stepped : provider.step? with
      | none => exact ⟨table, found⟩
      | some next =>
          rw [Option.getD_some, (step?_keeps sound stepped).1]
          exact ⟨table, found⟩
  | session id =>
      change ∃ table, ((provider.stepSession? id).getD provider).service.database.tables[
        descriptor.table]? = _
      unfold stepSession?
      cases stepped : provider.service.step? id with
      | none => exact ⟨table, found⟩
      | some service =>
          obtain ⟨⟨_, spares⟩, _⟩ := stepSession_keeps sound stepped
          obtain ⟨feeds, still⟩ := spares.tables _ table found
          exact ⟨_, still⟩
  | _ => exact ⟨table, found⟩

theorem run_hasTable (sound : provider.IsSound regex field) {acts : List Act}
    (plain : ∀ act ∈ acts, act.IsPlain field) (has : provider.service.HasTable name) :
    (provider.run acts).service.HasTable name := by
  induction acts generalizing provider with
  | nil => exact has
  | cons act rest ih =>
      obtain ⟨first, others⟩ := List.forall_mem_cons.mp plain
      exact ih (perform_isSound sound first) others (perform_hasTable sound first has)

/-- What the registry decides does not disturb the session of an entry that it keeps. -/
private theorem sustains_goOn {opening : Option String} {result : Service × Option Nat}
    (sustains : provider.service.Sustains name) (sound : provider.service.IsSound)
    (registers : provider.service.Registers opening result)
    (has : opening = some name → provider.service.HasTable name) :
    (provider.goOn result).service.Sustains name := by
  have after := sustains.registers sound registers has
  obtain ⟨service, pending⟩ := result
  cases pending <;> exact after

/-- As long as nothing is made to fail and the list of a name is not deleted, the session of its
entry thrives. -/
theorem perform_sustains (sound : provider.IsSound regex field) {act : Act}
    (plain : act.IsPlain field) (harmless : act.IsHarmless) (kept : act ≠ .deleteList name)
    (faultless : provider.service.IsFaultless)
    (has : ⟨name, true⟩ ∈ provider.waiting → provider.service.HasTable name)
    (sustains : provider.service.Sustains name) :
    (provider.perform act).service.Sustains name := by
  cases act with
  | subscribe other => exact sustains.withBoard sound.service rfl
  | unsubscribe other => exact sustains.withBoard sound.service rfl
  | request request =>
      have answer := sound.answer request plain
      rw [(harmless : request.isFault = false)] at answer
      exact sustains.answer answer
  | failWrites failure => exact sustains.withBoard sound.service rfl
  | deleteList other =>
      refine sustains.withBoard sound.service ?_
      rw [Board.lists_deleteList, if_neg fun same => kept (congrArg Act.deleteList same)]
  | session id =>
      change ((provider.stepSession? id).getD provider).service.Sustains name
      unfold stepSession?
      cases stepped : provider.service.step? id with
      | none => exact sustains
      | some service => exact sustains.step? sound.service faultless stepped
  | provider =>
      change (provider.step?.getD provider).service.Sustains name
      cases stepped : provider.step? with
      | none => exact sustains
      | some next =>
          rcases step?_cases sound stepped with
            ⟨id, running, closing, found, stopped, rfl⟩ | ⟨report, rest, _, reports, rfl⟩ |
              ⟨notice, rest, _, _, waits, rfl⟩
          · obtain ⟨same, held, unclosed, cancelled, _⟩ := sound.closing id closing
            obtain rfl := Option.some.inj (found.symm.trans held)
            exact sustains.finishClosing sound.service found stopped unclosed cancelled
          · have read : (provider.afterReport rest).service.Sustains name := sustains
            exact sustains_goOn read (sound.service.readReport reports)
              (Service.dropDetached_registers _ report) nofun
          · have read : provider.afterNotice.service.Sustains name := by
              refine sustains.withBoard sound.service ?_
              unfold findNotice
              split <;> rfl
            have readSound := (sound.afterNotice).service
            rw [Option.getD_some]
            obtain ⟨other, subscribed⟩ := notice
            cases subscribed with
            | true =>
                rw [if_pos rfl]
                refine sustains_goOn read readSound (Service.addSubscriber_registers _ other) ?_
                intro same
                rw [Option.some.inj same] at waits
                exact has (waits ▸ List.mem_cons_self)
            | false =>
                rw [if_neg Bool.false_ne_true]
                exact sustains_goOn read readSound (Service.dropSubscriber_registers _ other) nofun

end Provider

end LiveSearch
