import LiveSearch.Proofs.Service.Agreement

/-! # What becomes of a name whose list has been deleted

A session that has published its list does not bring it back. So when the list of a name has been
deleted, the name goes without a list, whatever happens, until the provider reads a subscription to
it while it has no entry (`LiveSearch.Provider.OpensNext`, `LiveSearch.Provider.Misses.perform`).
From then on the name is upheld (`LiveSearch.Provider.Misses.upholds`).
-/

namespace LiveSearch

namespace Service

/-- The list of a name is gone, and no session that is not closed is about to publish it. -/
structure Misses (service : Service) (name : String) : Prop where
  absent : service.board.lists[name]? = none
  late : ∀ (id : Nat) (running : Running), service.running[id]? = some running →
    running.session.name = name → running.session.closed = false →
      running.session.phase.isEarly = false

variable {service : Service} {name : String} {id : Nat}

/-- A list that has been deleted is missed: it was that of the only session of its name. -/
theorem misses_of_deleteList (sound : service.IsSound)
    (deleted : (service.board.deleteList name).2 = true) :
    Misses { service with board := (service.board.deleteList name).1 } name where
  absent := by rw [Board.lists_deleteList, if_pos rfl]
  late other running held named unclosed := by
    unfold Board.deleteList at deleted
    cases found : service.board.lists[name]? with
    | none =>
        rw [found] at deleted
        exact absurd deleted Bool.false_ne_true
    | some list =>
        rw [← named] at found
        obtain ⟨_, handle, holds, _⟩ :=
          (sound.sessions other running held).owns unclosed list found
        cases early : running.session.phase.isEarly with
        | false => rfl
        | true => exact nomatch (Phase.handle?_of_isEarly early).symm.trans holds

/-- The table of a name exists when its list exists. -/
theorem hasTable_of_deleteList (sound : service.IsSound)
    (deleted : (service.board.deleteList name).2 = true) : service.HasTable name := by
  intro descriptor parsed
  unfold Board.deleteList at deleted
  cases found : service.board.lists[name]? with
  | none =>
      rw [found] at deleted
      exact absurd deleted Bool.false_ne_true
  | some list =>
      obtain ⟨id, running, held, rfl, unclosed⟩ := sound.owned name list found
      have own := sound.sessions id running held
      obtain ⟨_, handle, holds, _⟩ := own.owns unclosed list found
      obtain ⟨other, read, planned⟩ := own.planned
      obtain rfl := Except.ok.inj (parsed.symm.trans read)
      have stored := own.stored (by rw [holds]; rfl)
      rw [planned] at stored
      exact stored

namespace Misses

/-- A step of a session does not bring the list back. -/
theorem step? (misses : service.Misses name) (sound : service.IsSound) {next : Service}
    (stepped : service.step? id = some next) : next.Misses name := by
  obtain ⟨running, behind, between, signal, found, told, rfl⟩ := step?_cases stepped
  have own := sound.sessions id running found
  have passes := told.passes own sound.board sound.database
  have unclosed := told.unclosed own.tends
  have outcome := running.session.receive_outcome service.board signal
  have becomes := told.session_tell
  refine ⟨?_, fun other another held named still => ?_⟩
  · by_cases same : running.session.name = name
    · subst same
      exact (outcome.stays_absent own.fits (misses.late id running found rfl unclosed)
        misses.absent).2
    · exact (passes.writes.lists name same).trans misses.absent
  · rcases lookup_insert_cases held with ⟨rfl, rfl⟩ | ⟨_, earlier⟩
    · have called : running.session.name = name := passes.name.symm.trans named
      subst called
      rw [becomes]
      exact (outcome.stays_absent own.fits (misses.late id running found rfl unclosed)
        misses.absent).1
    · exact misses.late other another earlier named still

/-- The closing of a session does not bring the list back. -/
theorem finishClosing (misses : service.Misses name) (sound : service.IsSound) {running : Running}
    (found : service.running[id]? = some running)
    (stopped : running.session.phase.isStopped = true) (unclosed : running.session.closed = false) :
    (service.finishClosing id).Misses name := by
  have own := sound.sessions id running found
  rw [finishClosing_eq found]
  refine ⟨?_, fun other another held named still => ?_⟩
  · change (running.session.finishClosing service.board).2.lists[name]? = none
    rw [Session.lists_finishClosing sound.board own.fits (own.owns unclosed) stopped]
    split
    · rfl
    · exact misses.absent
  · rcases lookup_insert_cases held with ⟨_, rfl⟩ | ⟨_, earlier⟩
    · exact absurd still.symm Bool.false_ne_true
    · exact misses.late other another earlier named still

/-- The registry does not bring the list back unless it opens a session for it. -/
theorem registers (misses : service.Misses name) (sound : service.IsSound) {opening : Option String}
    {result : Service × Option Nat} (registers : service.Registers opening result)
    (known : opening = some name → service.entries[name]? ≠ none) : result.1.Misses name := by
  cases registers with
  | unchanged => exact misses
  | counted => exact ⟨misses.absent, misses.late⟩
  | removed _ other entry found =>
      obtain ⟨_, running, held, _⟩ := sound.entered other entry found
      rw [removeEntry_eq held]
      refine ⟨misses.absent, fun session another there named still => ?_⟩
      rcases lookup_insert_cases there with ⟨_, rfl⟩ | ⟨_, earlier⟩
      · exact misses.late entry.session running held named still
      · exact misses.late session another earlier named still
  | opened other descriptor absent parsed =>
      refine ⟨misses.absent, fun session another there named still => ?_⟩
      rcases lookup_insert_cases there with ⟨_, rfl⟩ | ⟨_, earlier⟩
      · have called : other = name := named
        subst called
        exact absurd absent (known rfl)
      · exact misses.late session another earlier named still

end Misses

end Service

namespace Provider

/-- The list of a name is gone, and only a new session can bring it back; nothing would stand in the
way of one. -/
structure Misses (provider : Provider) (name : String) : Prop where
  faultless : provider.service.IsFaultless
  stocked : provider.service.HasTable name
  misses : provider.service.Misses name

/-- The next step of the provider opens a session for a name: it reads a subscription to the name,
which has no entry. -/
def OpensNext (provider : Provider) (name : String) : Prop :=
  provider.state = .serving ∧ provider.service.detachments = [] ∧
    provider.waiting.head? = some ⟨name, true⟩ ∧ provider.service.entries[name]? = none

instance (state : LoopState) : Decidable (state = .serving) :=
  match state with
  | .serving => isTrue rfl
  | .starting => isFalse nofun
  | .closing _ => isFalse nofun
  | .draining _ => isFalse nofun
  | .returned _ => isFalse nofun

instance (provider : Provider) (name : String) : Decidable (provider.OpensNext name) :=
  decidable_of_iff (provider.state = .serving ∧ provider.service.detachments = [] ∧
      provider.waiting.head? = some ⟨name, true⟩ ∧
        (provider.service.entries[name]?).isNone = true) <| by
    simp only [OpensNext, Option.isNone_iff_eq_none]

variable {provider : Provider} {regex : Pattern.Regex} {field name : String}

namespace Misses

/-- What the registry decides does not bring the list back unless it opens a session for it. -/
private theorem goOn (misses : provider.service.Misses name) (sound : provider.service.IsSound)
    {opening : Option String} {result : Service × Option Nat}
    (registers : provider.service.Registers opening result)
    (known : opening = some name → provider.service.entries[name]? ≠ none) :
    (provider.goOn result).service.Misses name := by
  have after := misses.registers sound registers known
  obtain ⟨service, pending⟩ := result
  cases pending <;> exact after

/-- A step of the provider that opens no session for the name does not bring the list back. -/
private theorem step? (misses : provider.service.Misses name) (sound : provider.IsSound regex field)
    (closed : ¬ provider.OpensNext name) {next : Provider} (stepped : provider.step? = some next) :
    next.service.Misses name := by
  rcases step?_cases sound stepped with
    ⟨id, running, closing, found, stopped, rfl⟩ | ⟨report, rest, _, reports, rfl⟩ |
      ⟨notice, rest, serving, reports, waits, rfl⟩
  · obtain ⟨same, held, unclosed, _⟩ := sound.closing id closing
    obtain rfl := Option.some.inj (found.symm.trans held)
    exact misses.finishClosing sound.service found stopped unclosed
  · have read : (provider.afterReport rest).service.Misses name := ⟨misses.absent, misses.late⟩
    exact goOn read (sound.service.readReport reports)
      (Service.dropDetached_registers _ report) nofun
  · have read : provider.afterNotice.service.Misses name := by
      refine ⟨?_, misses.late⟩
      unfold afterNotice findNotice
      split <;> exact misses.absent
    have readSound := sound.afterNotice.service
    obtain ⟨other, subscribed⟩ := notice
    cases subscribed with
    | true =>
        rw [if_pos rfl]
        refine goOn read readSound (Service.addSubscriber_registers _ other) fun same unknown => ?_
        rw [Option.some.inj same] at waits
        exact closed ⟨serving, reports, by rw [waits]; rfl, unknown⟩
    | false =>
        rw [if_neg Bool.false_ne_true]
        exact goOn read readSound (Service.dropSubscriber_registers _ other) nofun

/-- As long as no step of the provider opens a session for the name, the name goes without a
list. -/
theorem perform (misses : provider.Misses name) (sound : provider.IsSound regex field) {act : Act}
    (plain : act.IsPlain field) (harmless : act.IsHarmless)
    (closed : act = .provider → ¬ provider.OpensNext name) :
    (provider.perform act).Misses name where
  faultless := perform_isFaultless sound plain harmless misses.faultless
  stocked := perform_hasTable sound plain misses.stocked
  misses := by
    obtain ⟨absent, late⟩ := misses.misses
    cases act with
    | subscribe other => exact ⟨absent, late⟩
    | unsubscribe other => exact ⟨absent, late⟩
    | request request => exact ⟨absent, late⟩
    | failWrites failure => exact ⟨absent, late⟩
    | deleteList other =>
        refine ⟨?_, late⟩
        change (provider.service.board.deleteList other).1.lists[name]? = none
        rw [Board.lists_deleteList]
        split
        · rfl
        · exact absent
    | session id =>
        change ((provider.stepSession? id).getD provider).service.Misses name
        unfold stepSession?
        cases stepped : provider.service.step? id with
        | none => exact ⟨absent, late⟩
        | some service => exact misses.misses.step? sound.service stepped
    | provider =>
        change (provider.step?.getD provider).service.Misses name
        cases stepped : provider.step? with
        | none => exact ⟨absent, late⟩
        | some next => exact step? misses.misses sound (closed rfl) stepped

/-- Once the entry is gone too, nothing stands in the way of the name. -/
theorem upholds (misses : provider.Misses name) (absent : provider.service.entries[name]? = none) :
    provider.Upholds name where
  faultless := misses.faultless
  sustains _ entered := nomatch absent.symm.trans entered
  stocked _ := misses.stocked

end Misses

end Provider

end LiveSearch
