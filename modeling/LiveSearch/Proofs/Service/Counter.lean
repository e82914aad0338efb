import LiveSearch.Proofs.Service.Registry

/-! # The registry as a counter

Every run of the registry keeps, for each name, a counter together with the identity of one session.
What its calls amount to for a name is counted act by act (`LiveSearch.Registry.tallies`), which
acts can change an entry is said by `LiveSearch.Registry.Act.Concerns`, and what holds at every
moment by `LiveSearch.Registry.IsOrderly`; `LiveSearch.Registry.refines_counter` says all this of
every run. The calls of the service that wait for the sessions that they close are such runs
(`LiveSearch.Registry.run_notice`, `LiveSearch.Registry.run_report`,
`LiveSearch.Registry.run_closeAll`).
-/

namespace LiveSearch

namespace Service

section Awaiting

variable {service : Service} {id : Nat} {running : Running}

/-- A step of a session changes neither the name of any session nor whether it has been told to end
or closed. -/
theorem identified_advance (service : Service) (id other : Nat) :
    (service.advance id).identified other = service.identified other := by
  rw [advance]
  cases stepped : service.step? id with
  | none => rfl
  | some next => exact identity_step? stepped other

/-- A session that has ended takes no step. -/
theorem advance_of_stopped (stopped : service.hasStopped id = true) :
    service.advance id = service := by
  rw [advance]
  cases stepped : service.step? id with
  | none => rfl
  | some next =>
      obtain ⟨running, behind, between, signal, found, told, -⟩ := step?_cases stepped
      rw [hasStopped, found, Option.any_some] at stopped
      exact absurd (told.going.symm.trans stopped) Bool.false_ne_true

/-- A session that has been told to end, and whose query has not just been answered, has ended
after its next step. -/
private theorem hasStopped_advance (found : service.running[id]? = some running)
    (cancelled : running.session.cancelled = true)
    (unanswered : running.session.phase = .opening → running.answer = none) :
    (service.advance id).hasStopped id = true := by
  cases going : running.session.phase.isStopped with
  | true =>
      have stopped : service.hasStopped id = true := by
        rw [hasStopped, found, Option.any_some, going]
      rw [advance_of_stopped stopped, stopped]
  | false =>
      have pending : running.nextSignal service.board service.database =
          some (running, service.database, .cancelled) := by
        have told : running.session.pendingSignal service.board running.rows
            (running.findEvent service.database) = some .cancelled := by
          simp only [Session.pendingSignal, going, cancelled, Bool.false_eq_true, ↓reduceIte]
        unfold Running.nextSignal
        split
        · rename_i opening answered
          cases (unanswered opening).symm.trans answered
        · rename_i kept
          exact absurd (kept.symm.trans cancelled) Bool.false_ne_true
        · rw [told]
          rfl
      have ends : service.step? id = some (service.deliver id running .cancelled) := by
        simp only [step?, found, Option.bind_eq_bind, Option.bind_some, pending]
        rfl
      rw [advance, ends, Option.getD_some, hasStopped]
      change ((service.running.insert id
        (running.tell service.board service.database .cancelled).1)[id]?).any _ = true
      rw [lookup_insert, if_pos rfl, Option.any_some, Running.session_tell]
      exact running.session.isStopped_cancelled service.board

/-- A session whose query has been answered opens nothing more after its next step. -/
private theorem ne_opening_advance (found : service.running[id]? = some running)
    (opening : running.session.phase = .opening)
    {answer : Except ServiceError (List Json)} (answered : running.answer = some answer)
    {later : Running} (held : (service.advance id).running[id]? = some later) :
    later.session.phase ≠ .opening := by
  have connected : running.nextSignal service.board service.database =
      some (running.connect service.database answer) := by
    simp only [Running.nextSignal, opening, answered]
  have steps : service.step? id = some ({ service with
      database := (running.connect service.database answer).2.1 }.deliver id
        (running.connect service.database answer).1
        (running.connect service.database answer).2.2) := by
    simp only [step?, found, Option.bind_eq_bind, Option.bind_some, connected]
    rfl
  rw [advance, steps, Option.getD_some] at held
  change (service.running.insert id ((running.connect service.database answer).1.tell
    service.board (running.connect service.database answer).2.1
    (running.connect service.database answer).2.2).1)[id]? = some later at held
  rw [lookup_insert, if_pos rfl] at held
  have next : running.Next service.board service.database _ _ _ :=
    .connected answer opening answered
  rw [← Option.some.inj held, next.session_tell]
  rcases running.connect_cases service.database answer with
    ⟨records, address, _, _, opened⟩ | ⟨cause, address, _, refused⟩ | ⟨cause, _, _, refused⟩
  · rw [opened]
    simp only [Session.receive, opening, Session.goOn, ne_eq, reduceCtorEq, not_false_eq_true]
  · rw [refused]
    simp only [Session.receive, opening, Session.failInitially, Session.fail, ne_eq, reduceCtorEq,
      not_false_eq_true]
  · rw [refused]
    simp only [Session.receive, opening, Session.failInitially, Session.fail, ne_eq, reduceCtorEq,
      not_false_eq_true]

/-- A session that has been told to end has ended when it has been waited for. -/
theorem hasStopped_awaitEnd {name : String} {closed : Bool}
    (told : service.identified id = some (name, closed, true)) :
    (service.awaitEnd id).hasStopped id = true := by
  obtain ⟨running, found, same⟩ := Option.map_eq_some_iff.mp told
  simp only [identity, Prod.mk.injEq] at same
  have cancelled := same.2.2
  by_cases unanswered : running.session.phase = .opening → running.answer = none
  · have stopped := hasStopped_advance found cancelled unanswered
    rw [awaitEnd, advance_of_stopped stopped, stopped]
  · obtain ⟨opening, answered⟩ := Classical.not_imp.mp unanswered
    obtain ⟨answer, answered⟩ := Option.ne_none_iff_exists'.mp answered
    rw [← identified_advance service id id] at told
    obtain ⟨later, held, same⟩ := Option.map_eq_some_iff.mp told
    simp only [identity, Prod.mk.injEq] at same
    apply hasStopped_advance held same.2.2
    intro still
    exact absurd still (ne_opening_advance found opening answered held)

end Awaiting

section Entries

variable {service : Service} {name : String}

/-- Removing an entry touches no other one. -/
theorem entries_removeEntry (other : String) (entry : Entry) :
    (service.removeEntry other entry).1.entries = service.entries.erase other :=
  (modifySession_keeps _ _ Session.cancel).1

/-- A subscription touches no other entry. -/
theorem entries_addSubscriber {other : String} (different : other ≠ name) :
    (service.addSubscriber other).entries[name]? = service.entries[name]? := by
  unfold addSubscriber
  split
  · simp only [lookup_insert, different,
      ↓reduceIte]
  · split
    · rfl
    · simp only [lookup_insert, different,
        ↓reduceIte]
      rfl

/-- The end of a subscription touches no other entry. -/
theorem entries_dropSubscriber {other : String} (different : other ≠ name) :
    (service.dropSubscriber other).1.entries[name]? = service.entries[name]? := by
  unfold dropSubscriber
  split
  · rfl
  · split
    · simp only [lookup_insert, different,
        ↓reduceIte]
    · rw [entries_removeEntry]
      simp only [lookup_erase, different,
        ↓reduceIte]

/-- The end of a subscription that there is not changes nothing. -/
theorem dropSubscriber_of_absent (absent : service.entries[name]? = none) :
    service.dropSubscriber name = (service, none) := by
  rw [dropSubscriber, absent]

/-- A report changes nothing unless it is one of the session that the entry has. -/
theorem dropDetached_of_stale {report : Detachment}
    (stale : (service.entries[report.name]?).map Entry.session ≠ some report.session) :
    service.dropDetached report = (service, none) := by
  unfold dropDetached
  cases found : service.entries[report.name]? with
  | none => rfl
  | some entry =>
      have different : entry.session ≠ report.session := by
        intro same
        rw [found, Option.map_some, same] at stale
        exact stale rfl
      dsimp only
      rw [if_neg different]

/-- A report of the session that the entry has removes the entry. -/
theorem dropDetached_of_current {report : Detachment}
    (current : (service.entries[report.name]?).map Entry.session = some report.session) :
    (service.dropDetached report).1.entries = service.entries.erase report.name := by
  obtain ⟨entry, found, same⟩ := Option.map_eq_some_iff.mp current
  unfold dropDetached
  rw [found]
  dsimp only
  rw [if_pos same]
  exact entries_removeEntry report.name entry

variable {opening : Option String} {result : Service × Option Nat}

/-- An entry that stays keeps its session. -/
theorem Registers.lasting (registers : service.Registers opening result) {before after : Entry}
    (found : service.entries[name]? = some before)
    (present : result.1.entries[name]? = some after) :
    after.session = before.session := by
  have kept (held : service.entries[name]? = some after) : after.session = before.session := by
    rw [Option.some.inj (held.symm.trans found)]
  cases registers with
  | unchanged => exact kept present
  | counted _ other entry subscribers held _ =>
      rcases lookup_insert_cases present with ⟨rfl, rfl⟩ | ⟨_, earlier⟩
      · rw [← Option.some.inj (held.symm.trans found)]
      · exact kept earlier
  | removed _ other entry _ =>
      rw [entries_removeEntry] at present
      exact kept (lookup_erase_cases present).2
  | opened other descriptor absent _ =>
      rcases lookup_insert_cases present with ⟨rfl, _⟩ | ⟨_, earlier⟩
      · exact nomatch absent.symm.trans found
      · exact kept earlier

/-- An entry that comes has the next session. -/
theorem Registers.fresh (registers : service.Registers opening result) {entry : Entry}
    (absent : service.entries[name]? = none) (present : result.1.entries[name]? = some entry) :
    entry.session = service.nextSession := by
  cases registers with
  | unchanged => exact nomatch absent.symm.trans present
  | counted _ other another subscribers held _ =>
      rcases lookup_insert_cases present with ⟨rfl, _⟩ | ⟨_, earlier⟩
      · exact nomatch absent.symm.trans held
      · exact nomatch absent.symm.trans earlier
  | removed _ other another _ =>
      rw [entries_removeEntry] at present
      exact nomatch absent.symm.trans (lookup_erase_cases present).2
  | opened other descriptor _ _ =>
      rcases lookup_insert_cases present with ⟨_, rfl⟩ | ⟨_, earlier⟩
      · rfl
      · exact nomatch absent.symm.trans earlier

end Entries

end Service

namespace Registry

/-- An act that is not a call. -/
def Act.IsQuiet : Act → Prop
  | .call _ => False
  | _ => True

/-- Whether a call concerns the entry of a name: a subscription to it, the end of one that there is,
a report of the session that it has, or the closing of everything. -/
def Call.Concerns (service : Service) (name : String) : Call → Prop
  | .notice sent =>
    sent.name = name ∧ (sent.subscribed = true ∨ (service.entries[name]?).isSome = true)
  | .report sent =>
    sent.name = name ∧ (service.entries[name]?).map Entry.session = some sent.session
  | .closeAll _ => True

/-- Whether an act concerns the entry of a name. -/
def Act.Concerns (service : Service) (name : String) : Act → Prop
  | .call made => made.Concerns service name
  | _ => False

/-- The subscribers of a name after a call: notices are counted, with none below zero, and nothing
is left by a report of the session that the name has or by closing everything. -/
def Call.tally (service : Service) (name : String) (count : Nat) : Call → Nat
  | .notice sent => sent.tally name count
  | .report sent =>
    if sent.name = name ∧ (service.entries[name]?).map Entry.session = some sent.session then 0
    else count
  | .closeAll _ => 0

/-- The subscribers of a name after an act. -/
def tally (registry : Registry) (name : String) (count : Nat) : Act → Nat
  | .call call => if registry.closing.isEmpty then call.tally registry.service name count else count
  | _ => count

/-- The subscribers of a name after several acts, counted act by act. -/
def tallies (name : String) : Registry → Nat → List Act → Nat
  | _, count, [] => count
  | registry, count, act :: rest =>
    tallies name (registry.after act) (registry.tally name count act) rest

/-- What holds of the registry at every moment. -/
structure IsOrderly (registry : Registry) : Prop where
  /-- A name that is no query has no entry. -/
  unparsed : ∀ name fault, Descriptor.ofName name = .error fault →
    registry.service.entries[name]? = none
  counted : ∀ (name : String) (entry : Entry), registry.service.entries[name]? = some entry →
    0 < entry.subscribers
  /-- An act that does not concern a name leaves its entry as it is. -/
  untouched : ∀ (act : Act) (name : String), ¬act.Concerns registry.service name →
    (registry.after act).service.entries[name]? = registry.service.entries[name]?
  /-- While a name has an entry it keeps its session. -/
  lasting : ∀ (act : Act) (name : String) (before after : Entry),
    registry.service.entries[name]? = some before →
      (registry.after act).service.entries[name]? = some after → after.session = before.session
  /-- A new entry has a new session. -/
  fresh : ∀ (act : Act) (name : String) (entry : Entry), registry.service.entries[name]? = none →
    (registry.after act).service.entries[name]? = some entry →
      registry.service.running[entry.session]? = none
  /-- A session that has no entry is closed, or will be by the present call. -/
  closed : ∀ (id : Nat) (running : Running), registry.service.running[id]? = some running →
    (∃ entry, registry.service.entries[running.session.name]? = some entry ∧ entry.session = id) ∨
      id ∈ registry.closing ∨ running.session.closed = true
  /-- No two sessions of one name are both not closed. -/
  alone : ∀ (id other : Nat) (left right : Running), registry.service.running[id]? = some left →
    registry.service.running[other]? = some right → left.session.closed = false →
      right.session.closed = false → left.session.name = right.session.name → id = other
  /-- The present call comes to its end. -/
  ends : ∃ acts, (∀ act ∈ acts, act.IsQuiet) ∧ (registry.run acts).closing = []

variable {registry : Registry} {service : Service}

section Calling

/-- A call is made, or the entries stay as they are. -/
private theorem after_cases (registry : Registry) (act : Act) :
    (∃ call, act = .call call ∧ registry.closing = [] ∧
      registry.after act = call.begin registry.service) ∨
    (registry.after act).service.entries = registry.service.entries ∧
      ∀ name count, registry.tally name count act = count := by
  cases act with
  | call made =>
      obtain ⟨service, closing⟩ := registry
      cases closing with
      | nil => exact .inl ⟨made, rfl, rfl, rfl⟩
      | cons id rest => exact .inr ⟨rfl, fun _ _ => rfl⟩
  | proceed =>
      refine .inr ⟨?_, fun _ _ => rfl⟩
      change registry.proceed.service.entries = _
      unfold proceed
      split
      · rfl
      · split
        · split
          · exact (Service.finishClosing_keeps _ _).1
          · rfl
        · exact (Service.modifySession_keeps _ _ Session.cancel).1
  | session id =>
      refine .inr ⟨?_, fun _ _ => rfl⟩
      change ((registry.service.step? id).getD registry.service).entries = _
      cases stepped : registry.service.step? id with
      | none => rfl
      | some next =>
          obtain ⟨_, _, _, _, _, _, rfl⟩ := Service.step?_cases stepped
          rfl
  | elsewhere database board => exact .inr ⟨rfl, fun _ _ => rfl⟩

variable {name : String}

/-- A call that does not concern a name leaves its entry as it is. -/
private theorem entries_begin {call : Call} (unconcerned : ¬call.Concerns service name) :
    (call.begin service).service.entries[name]? = service.entries[name]? := by
  cases call with
  | notice sent =>
      by_cases subscribed : sent.subscribed = true
      · rw [Call.begin, if_pos subscribed]
        apply Service.entries_addSubscriber
        intro same
        exact unconcerned ⟨same, .inl subscribed⟩
      · rw [Call.begin, if_neg subscribed]
        by_cases same : sent.name = name
        · have absent : service.entries[name]? = none := by
            cases found : service.entries[name]? with
            | none => rfl
            | some entry => exact absurd ⟨same, .inr (found ▸ rfl)⟩ unconcerned
          rw [same, Service.dropSubscriber_of_absent absent]
          rfl
        · exact Service.entries_dropSubscriber same
  | report sent =>
      change (service.dropDetached sent).1.entries[name]? = _
      by_cases current : (service.entries[sent.name]?).map Entry.session = some sent.session
      · rw [Service.dropDetached_of_current current]
        have different : sent.name ≠ name := by
          intro same
          exact unconcerned ⟨same, same ▸ current⟩
        simp only [lookup_erase, different,
          ↓reduceIte]
      · rw [Service.dropDetached_of_stale current]
  | closeAll order => exact absurd trivial unconcerned

/-- A call removes all entries, or it is a notice or a report. -/
private theorem begin_cases (service : Service) (call : Call) :
    (call.begin service).service.entries = ∅ ∨
    ∃ opening result, service.Registers opening result ∧ call.begin service = awaiting result := by
  cases call with
  | notice sent =>
      right
      by_cases subscribed : sent.subscribed = true
      · rw [Call.begin, if_pos subscribed]
        exact ⟨_, _, service.addSubscriber_registers sent.name, rfl⟩
      · rw [Call.begin, if_neg subscribed]
        exact ⟨_, _, service.dropSubscriber_registers sent.name, rfl⟩
  | report sent => exact .inr ⟨_, _, service.dropDetached_registers sent, rfl⟩
  | closeAll order => exact .inl rfl

/-- An entry behind an act is there because of what a call has registered, which may be nothing. -/
private theorem registers_of_entered (registry : Registry) (act : Act) {entry : Entry}
    (present : (registry.after act).service.entries[name]? = some entry) :
    ∃ opening result, registry.service.Registers opening result ∧
      result.1.entries[name]? = some entry := by
  rcases registry.after_cases act with ⟨call, rfl, _, same⟩ | ⟨entries, _⟩
  · rw [same] at present
    rcases begin_cases registry.service call with none | ⟨opening, result, registers, begun⟩
    · rw [none] at present
      exact nomatch Std.TreeMap.getElem?_emptyc.symm.trans present
    · rw [begun] at present
      exact ⟨opening, result, registers, present⟩
  · rw [entries] at present
    exact ⟨none, _, .unchanged none, present⟩

/-- The subscribers of a query after an act are those that the act leaves. -/
theorem subscribers_after (registry : Registry) {descriptor : Descriptor}
    (parsed : Descriptor.ofName name = .ok descriptor) (act : Act) :
    (registry.after act).service.subscribers name =
      registry.tally name (registry.service.subscribers name) act := by
  rcases registry.after_cases act with ⟨call, rfl, free, same⟩ | ⟨entries, count⟩
  · rw [same, tally, free, if_pos List.isEmpty_nil]
    cases call with
    | notice sent =>
        obtain ⟨other, subscribed⟩ := sent
        cases subscribed with
        | true => exact registry.service.subscribers_addSubscriber parsed other
        | false => exact registry.service.subscribers_dropSubscriber other
    | report sent =>
        change (registry.service.dropDetached sent).1.subscribers name = _
        rw [Call.tally]
        by_cases current :
            (registry.service.entries[sent.name]?).map Entry.session = some sent.session
        · rw [Service.subscribers, Service.dropDetached_of_current current]
          simp only [lookup_erase]
          by_cases named : sent.name = name
          · rw [if_pos named, if_pos ⟨named, named ▸ current⟩]
            rfl
          · rw [if_neg named, if_neg fun both => named both.1]
            rfl
        · rw [Service.dropDetached_of_stale current, if_neg]
          rintro ⟨rfl, held⟩
          exact current held
    | closeAll order =>
        change (((∅ : Std.TreeMap String Entry)[name]?).map Entry.subscribers).getD 0 = 0
        rw [Std.TreeMap.getElem?_emptyc]
        rfl
  · rw [count, Service.subscribers, entries, Service.subscribers]

/-- The subscribers of a query are the count of the calls. -/
theorem subscribers_run (registry : Registry) {descriptor : Descriptor}
    (parsed : Descriptor.ofName name = .ok descriptor) (acts : List Act) :
    (registry.run acts).service.subscribers name =
      tallies name registry (registry.service.subscribers name) acts := by
  induction acts generalizing registry with
  | nil => rfl
  | cons act rest ih =>
      rw [tallies, ← registry.subscribers_after parsed act]
      exact ih (registry.after act)

end Calling

section Waiting

variable {id : Nat}

/-- What a call that waits for a session does: the task of the session takes steps until it has
ended, and the closing is finished. -/
private def waiting (id : Nat) : List Act := [.session id, .session id, .proceed]

private theorem isQuiet_of_waiting {act : Act} (member : act ∈ waiting id) : act.IsQuiet := by
  simp only [waiting, List.mem_cons, List.not_mem_nil, or_false] at member
  rcases member with rfl | rfl | rfl
  · trivial
  · trivial
  · trivial

/-- The calls that wait for a session let its task end, and finish its closing. -/
private theorem run_awaiting {name : String} {closed : Bool}
    (told : service.identified id = some (name, closed, true)) (rest : List Nat) :
    run ⟨service, id :: rest⟩ (waiting id) = ⟨service.awaitClosing id, rest⟩ := by
  have stopped := Service.hasStopped_awaitEnd told
  have still : ((service.awaitEnd id).running[id]?).any (·.session.cancelled) = true := by
    have later := told
    rw [← Service.identified_advance service id id,
      ← Service.identified_advance (service.advance id) id id] at later
    obtain ⟨running, held, same⟩ := Option.map_eq_some_iff.mp later
    simp only [Service.identity, Prod.mk.injEq] at same
    rw [Service.awaitEnd, held, Option.any_some, same.2.2]
  change proceed ⟨service.awaitEnd id, id :: rest⟩ = _
  simp only [proceed, still, stopped, ↓reduceIte]
  rfl

/-- The closing of a session that a call waits for comes to its end: the session is told to end
unless it has been, it ends, and it is closed. -/
private theorem run_first {name : String} {closed : Bool} {cancelled : Bool}
    (identified : service.identified id = some (name, closed, cancelled)) (rest : List Nat) :
    ∃ acts, (∀ act ∈ acts, act.IsQuiet) ∧
      run ⟨service, id :: rest⟩ acts =
        ⟨(if cancelled then service else service.modifySession id Session.cancel).awaitClosing id,
          rest⟩ := by
  cases cancelled with
  | true => exact ⟨waiting id, fun _ => isQuiet_of_waiting, run_awaiting identified rest⟩
  | false =>
      have told : (service.modifySession id Session.cancel).identified id =
          some (name, closed, true) := by
        rw [Service.identified_cancel, if_pos rfl, identified]
        rfl
      have asked : (⟨service, id :: rest⟩ : Registry).proceed =
          ⟨service.modifySession id Session.cancel, id :: rest⟩ := by
        obtain ⟨running, found, same⟩ := Option.map_eq_some_iff.mp identified
        simp only [Service.identity, Prod.mk.injEq] at same
        simp only [proceed, found, Option.any_some, same, Bool.false_eq_true, ↓reduceIte]
      refine ⟨.proceed :: waiting id, ?_, ?_⟩
      · intro act member
        rcases List.mem_cons.mp member with rfl | later
        · trivial
        · exact isQuiet_of_waiting later
      · change run (proceed ⟨service, id :: rest⟩) (waiting id) = _
        rw [asked]
        exact run_awaiting told rest

/-- Every call comes to its end. -/
private theorem IsSound.ends (sound : registry.IsSound) :
    ∃ acts, (∀ act ∈ acts, act.IsQuiet) ∧ (registry.run acts).closing = [] := by
  obtain ⟨service, closing⟩ := registry
  induction closing generalizing service with
  | nil => exact ⟨[], fun _ member => absurd member List.not_mem_nil, rfl⟩
  | cons id rest ih =>
      obtain ⟨⟨name, closed, cancelled⟩, identified⟩ :=
        Option.isSome_iff_exists.mp (sound.waited id List.mem_cons_self)
      obtain ⟨first, quiet, ended⟩ := run_first identified rest
      have kept := sound.run first
      rw [ended] at kept
      obtain ⟨more, still, done⟩ := ih _ kept
      refine ⟨first ++ more, ?_, ?_⟩
      · intro act member
        exact (List.mem_append.mp member).elim (quiet act) (still act)
      · rw [run_append, ended]
        exact done

end Waiting

/-- A registry whose entries have sessions of their own is orderly. -/
theorem IsSound.isOrderly (sound : registry.IsSound) : registry.IsOrderly where
  unparsed := by
    intro name fault unparsed
    cases found : registry.service.entries[name]? with
    | none => rfl
    | some entry =>
        obtain ⟨_, ⟨descriptor, parsed⟩, _⟩ := sound.entered name entry found
        exact nomatch unparsed.symm.trans parsed
  counted := fun name entry found => (sound.entered name entry found).1
  untouched := by
    intro act name unconcerned
    rcases registry.after_cases act with ⟨call, rfl, _, same⟩ | ⟨entries, _⟩
    · rw [same]
      exact entries_begin unconcerned
    · rw [entries]
  lasting := by
    intro act name before after found present
    obtain ⟨_, _, registers, entered⟩ := registry.registers_of_entered act present
    exact registers.lasting found entered
  fresh := by
    intro act name entry absent present
    obtain ⟨_, _, registers, entered⟩ := registry.registers_of_entered act present
    rw [registers.fresh absent entered]
    cases found : registry.service.running[registry.service.nextSession]? with
    | none => rfl
    | some running =>
        have identified : registry.service.identified registry.service.nextSession =
            some (Service.identity running) := by
          rw [Service.identified, found, Option.map_some]
        exact absurd (sound.known _ _ identified) (Nat.lt_irrefl _)
  closed := by
    intro id running found
    cases closed : running.session.closed with
    | true => exact .inr (.inr rfl)
    | false =>
        have identified : registry.service.identified id =
            some (running.session.name, false, running.session.cancelled) := by
          rw [Service.identified, found, Option.map_some, Service.identity, closed]
        rcases sound.served id _ _ identified with waits | entered
        · exact .inr (.inl waits)
        · exact .inl entered
  alone := by
    intro id other left right one two openLeft openRight same
    apply sound.alone id other left.session.name left.session.cancelled right.session.cancelled
    · rw [Service.identified, one, Option.map_some, Service.identity, openLeft]
    · rw [Service.identified, two, Option.map_some, Service.identity, openRight, same]
  ends := sound.ends

/-- **The registry is a counter with an identity.** However calls, the tasks of the sessions, and
what others do to the record store and the board interleave, the registry is orderly, and what it
counts for a query is what its calls amount to since its entry has been removed last by a report of
its own session or by closing everything. -/
theorem refines_counter (primaryKey : String) (database : Database) (board : Board)
    (acts : List Act) :
    ((start primaryKey database board).run acts).IsOrderly ∧
    ∀ name descriptor, Descriptor.ofName name = .ok descriptor →
      ((start primaryKey database board).run acts).service.subscribers name =
        tallies name (start primaryKey database board) 0 acts := by
  refine ⟨((start_isSound primaryKey database board).run acts).isOrderly, ?_⟩
  intro name descriptor parsed
  have counted := (start primaryKey database board).subscribers_run parsed acts
  have none : (start primaryKey database board).service.subscribers name = 0 := by
    change (((∅ : Std.TreeMap String Entry)[name]?).map Entry.subscribers).getD 0 = 0
    rw [Std.TreeMap.getElem?_emptyc]
    rfl
  rw [none] at counted
  exact counted

section Returning

/-- The service when a call has waited for the session that it has to close, if any. -/
def finished : Service × Option Nat → Service
  | (service, none) => service
  | (service, some id) => service.awaitClosing id

/-- A call that has at most one session to close comes to its end. -/
private theorem run_result (sound : IsSound ⟨service, []⟩) {opening : Option String}
    {result : Service × Option Nat} (registers : service.Registers opening result) :
    ∃ acts, (∀ act ∈ acts, act.IsQuiet) ∧
      (awaiting result).run acts = ⟨finished result, []⟩ := by
  cases registers with
  | removed _ name entry found =>
      obtain ⟨_, _, _, identified⟩ := sound.entered name entry found
      have told : (service.removeEntry name entry).1.identified entry.session =
          some (name, false, true) := by
        rw [Service.removeEntry, Service.identified_cancel, if_pos rfl]
        change (service.identified entry.session).map _ = _
        rw [identified]
        rfl
      exact ⟨waiting entry.session, fun _ => isQuiet_of_waiting, run_awaiting told []⟩
  | _ => exact ⟨[], fun _ member => absurd member List.not_mem_nil, rfl⟩

/-- A notice with everything that it waits for is a run of the registry. -/
theorem run_notice (sound : IsSound ⟨service, []⟩) (notice : Notice) :
    ∃ acts, (∀ act ∈ acts, act.IsQuiet) ∧
      run ⟨service, []⟩ (.call (.notice notice) :: acts) = ⟨service.applyNotice notice, []⟩ := by
  change ∃ acts, _ ∧ (Call.begin service (.notice notice)).run acts = _
  by_cases subscribed : notice.subscribed = true
  · rw [Call.begin, if_pos subscribed, Service.applyNotice, if_pos subscribed]
    exact run_result sound (service.addSubscriber_registers notice.name)
  · rw [Call.begin, if_neg subscribed, Service.applyNotice, if_neg subscribed]
    exact run_result sound (service.dropSubscriber_registers notice.name)

/-- A report with everything that it waits for is a run of the registry. -/
theorem run_report (sound : IsSound ⟨service, []⟩) (report : Detachment) :
    ∃ acts, (∀ act ∈ acts, act.IsQuiet) ∧
      run ⟨service, []⟩ (.call (.report report) :: acts) = ⟨service.applyDetachment report, []⟩ :=
  run_result sound (service.dropDetached_registers report)

/-- Waiting for one session touches no other. -/
private theorem identified_awaitClosing {id other : Nat} (different : id ≠ other) :
    (service.awaitClosing id).identified other = service.identified other := by
  rw [Service.awaitClosing, Service.identified_finishClosing, if_neg different, Service.awaitEnd,
    Service.identified_advance, Service.identified_advance]

/-- Sessions that have not been told to end are closed one after another. -/
private theorem run_closeEach {sessions : List Nat} (distinct : sessions.Nodup)
    (untold : ∀ id ∈ sessions, ∃ name closed, service.identified id = some (name, closed, false)) :
    ∃ acts, (∀ act ∈ acts, act.IsQuiet) ∧
      run ⟨service, sessions⟩ acts = ⟨service.closeEach sessions, []⟩ := by
  induction sessions generalizing service with
  | nil => exact ⟨[], fun _ member => absurd member List.not_mem_nil, rfl⟩
  | cons id rest ih =>
      obtain ⟨apart, others⟩ := List.nodup_cons.mp distinct
      obtain ⟨name, closed, identified⟩ := untold id List.mem_cons_self
      obtain ⟨first, quiet, ended⟩ := run_first identified rest
      have left : ∀ other ∈ rest, ∃ name closed,
          ((service.modifySession id Session.cancel).awaitClosing id).identified other =
            some (name, closed, false) := by
        intro other member
        have different : id ≠ other := fun same => apart (same ▸ member)
        rw [identified_awaitClosing different, Service.identified_cancel, if_neg different]
        exact untold other (List.mem_cons_of_mem id member)
      obtain ⟨more, still, done⟩ := ih others left
      refine ⟨first ++ more, ?_, ?_⟩
      · intro act member
        exact (List.mem_append.mp member).elim (quiet act) (still act)
      · rw [run_append, ended]
        exact done

/-- Entries have different sessions. -/
private theorem IsSound.nodup_sessions (sound : registry.IsSound) :
    (registry.service.entries.values.map Entry.session).Nodup := by
  rw [values_eq, List.map_map]
  apply List.pairwise_map.mpr
  apply registry.service.entries.distinct_keys_toList.imp_of_mem
  intro left right first second different same
  apply different
  rw [Std.LawfulEqCmp.compare_eq_iff_eq]
  exact sound.name_of_session (Std.TreeMap.mem_toList_iff_getElem?_eq_some.mp second)
    (Std.TreeMap.mem_toList_iff_getElem?_eq_some.mp first) same

/-- The closing of everything is a run of the registry. -/
theorem run_closeAll (sound : IsSound ⟨service, []⟩) :
    ∃ acts, (∀ act ∈ acts, act.IsQuiet) ∧
      run ⟨service, []⟩ (.call (.closeAll (service.entries.values.map Entry.session)) :: acts) =
        ⟨service.closeAll, []⟩ := by
  have begun : Call.begin service (.closeAll (service.entries.values.map Entry.session)) =
      ⟨{ service with entries := ∅ }, service.entries.values.map Entry.session⟩ := by
    rw [Call.begin, if_pos (List.isPerm_iff.mpr (List.Perm.refl _))]
  change ∃ acts, _ ∧ (Call.begin service (.closeAll _)).run acts = _
  rw [begun]
  apply run_closeEach sound.nodup_sessions
  intro id member
  obtain ⟨entry, present, rfl⟩ := List.mem_map.mp member
  obtain ⟨name, held⟩ := mem_values.mp present
  obtain ⟨_, _, _, identified⟩ := sound.entered name entry held
  exact ⟨name, false, identified⟩

end Returning

end Registry

end LiveSearch
