import LiveSearch.Proofs.Service.Subscriptions

/-! # The registry at work

The registry is called with notices, with reports of detached sessions, and to close everything.
A call may have sessions to close; until it has, no other call is made, while the tasks of the
sessions, the record store and the board go on as they like (`LiveSearch.Registry.after`). Through
every run each entry has a session of its own that is not closed, and each session that is not
closed has an entry or is about to be closed (`LiveSearch.Registry.IsSound.run`).
-/

namespace LiveSearch

namespace Service

/-- What identifies the session of an id: its name, and whether it is closed or told to end. -/
def identified (service : Service) (id : Nat) : Option (String × Bool × Bool) :=
  (service.running[id]?).map identity

section Identities

variable {service : Service} {id : Nat}

/-- What identifies the sessions after a change of one of them. -/
private theorem identified_change {next : Service} (change : Running → Running)
    (effect : String × Bool × Bool → String × Bool × Bool)
    (agrees : ∀ running, identity (change running) = effect (identity running))
    (absent : service.running[id]? = none → next.running = service.running)
    (present : ∀ running, service.running[id]? = some running →
      next.running = service.running.insert id (change running)) (other : Nat) :
    next.identified other =
      if id = other then (service.identified other).map effect else service.identified other := by
  unfold identified
  cases found : service.running[id]? with
  | none =>
      rw [absent found]
      split
      · rename_i same
        rw [← same, found]
        rfl
      · rfl
  | some running =>
      rw [present running found, lookup_insert]
      split
      · rename_i same
        rw [← same, found, Option.map_some, agrees]
        rfl
      · rfl

/-- Telling a session to end changes nothing else. -/
theorem identified_cancel (other : Nat) :
    (service.modifySession id Session.cancel).identified other =
      if id = other then
        (service.identified other).map fun (name, closed, _) => (name, closed, true)
      else service.identified other := by
  apply identified_change fun running => { running with session := running.session.cancel }
  · intro running
    rfl
  · intro found
    rw [modifySession, found]
  · intro running found
    rw [modifySession, found]

/-- Finishing the closing of a session makes it closed and changes nothing else. -/
theorem identified_finishClosing (other : Nat) :
    (service.finishClosing id).identified other =
      if id = other then
        (service.identified other).map fun (name, _, cancelled) => (name, true, cancelled)
      else service.identified other := by
  apply identified_change fun running =>
    { running with session := (running.session.finishClosing service.board).1 }
  · intro running
    rfl
  · intro found
    rw [finishClosing, found]
  · intro running found
    rw [finishClosing, found]

/-- A session that is opened is identified by its name. -/
theorem identified_openSession (name : String) (descriptor : Descriptor) (other : Nat) :
    (service.openSession name descriptor).2.identified other =
      if service.nextSession = other then some (name, false, false)
      else service.identified other := by
  change ((service.running.insert _ _)[other]?).map _ = _
  rw [lookup_insert]
  split
  · rfl
  · rfl

theorem identified_openSession_cases {name : String} {descriptor : Descriptor}
    {identity : String × Bool × Bool}
    (found : (service.openSession name descriptor).2.identified id = some identity) :
    service.nextSession = id ∧ identity = (name, false, false) ∨
      service.identified id = some identity := by
  rw [identified_openSession] at found
  split at found
  · rename_i same
    exact .inl ⟨same, (Option.some.inj found).symm⟩
  · exact .inr found

variable (service id) in
theorem modifySession_keeps (change : Session → Session) :
    (service.modifySession id change).entries = service.entries ∧
      (service.modifySession id change).nextSession = service.nextSession := by
  unfold modifySession
  split
  · exact ⟨rfl, rfl⟩
  · exact ⟨rfl, rfl⟩

variable (service id) in
theorem finishClosing_keeps : (service.finishClosing id).entries = service.entries ∧
    (service.finishClosing id).nextSession = service.nextSession := by
  unfold finishClosing
  split
  · exact ⟨rfl, rfl⟩
  · exact ⟨rfl, rfl⟩

end Identities

end Service

/-- The registry at work: its service, and the sessions that the present call still has to close. -/
structure Registry where
  service : Service
  closing : List Nat

namespace Registry

/-- What the registry can be called for. -/
inductive Call
  | notice (notice : Notice)
  | report (report : Detachment)
  /-- Close every session, in the given order if it is one of all sessions. -/
  | closeAll (order : List Nat)

/-- The registry when a call has removed what it removes, with at most one session to be closed. -/
def awaiting (result : Service × Option Nat) : Registry := ⟨result.1, result.2.toList⟩

/-- What a call does before it waits for sessions. -/
def Call.begin (service : Service) : Call → Registry
  | .notice sent =>
    if sent.subscribed then awaiting (service.addSubscriber sent.name, none)
    else awaiting (service.dropSubscriber sent.name)
  | .report sent => awaiting (service.dropDetached sent)
  | .closeAll order =>
    let sessions := service.entries.values.map Entry.session
    ⟨{ service with entries := ∅ }, if order.isPerm sessions then order else sessions⟩

/-- Something that happens while the registry is at work. -/
inductive Act
  /-- A call, which is made as soon as no other one is being waited for. -/
  | call (call : Call)
  /-- The present call goes on with the first session that it has to close. -/
  | proceed
  /-- The task of a session takes its next step. -/
  | session (id : Nat)
  /-- Others change the record store and the board. -/
  | elsewhere (database : Database) (board : Board)

/-- The registry before any call. -/
def start (primaryKey : String) (database : Database) (board : Board) : Registry :=
  ⟨.start primaryKey database board, []⟩

/-- The present call tells the next session to end, or finishes its closing when it has. -/
def proceed (registry : Registry) : Registry :=
  match registry.closing with
  | [] => registry
  | id :: rest =>
    if (registry.service.running[id]?).any (·.session.cancelled) then
      if registry.service.hasStopped id then ⟨registry.service.finishClosing id, rest⟩ else registry
    else { registry with service := registry.service.modifySession id Session.cancel }

/-- The registry after an act. -/
def after (registry : Registry) : Act → Registry
  | .call call => if registry.closing.isEmpty then call.begin registry.service else registry
  | .proceed => registry.proceed
  | .session id => { registry with service := (registry.service.step? id).getD registry.service }
  | .elsewhere database board =>
    { registry with service.database := database, service.board := board }

/-- The registry after several acts. -/
def run (registry : Registry) (acts : List Act) : Registry := acts.foldl after registry

theorem run_append (registry : Registry) (first second : List Act) :
    registry.run (first ++ second) = (registry.run first).run second := List.foldl_append

/-- Every entry has a session of its own, and every session that is not closed has an entry or will
be closed by the present call. -/
structure IsSound (registry : Registry) : Prop where
  known : ∀ id identity, registry.service.identified id = some identity →
    id < registry.service.nextSession
  entered : ∀ (name : String) (entry : Entry), registry.service.entries[name]? = some entry →
    0 < entry.subscribers ∧ (∃ descriptor, Descriptor.ofName name = .ok descriptor) ∧
      entry.session ∉ registry.closing ∧
      registry.service.identified entry.session = some (name, false, false)
  served : ∀ id name cancelled, registry.service.identified id = some (name, false, cancelled) →
    id ∈ registry.closing ∨
      ∃ entry, registry.service.entries[name]? = some entry ∧ entry.session = id
  alone : ∀ id other name left right,
    registry.service.identified id = some (name, false, left) →
      registry.service.identified other = some (name, false, right) → id = other
  waited : ∀ id ∈ registry.closing, (registry.service.identified id).isSome = true

theorem start_isSound (primaryKey : String) (database : Database) (board : Board) :
    (start primaryKey database board).IsSound := by
  have unknown (id : Nat) : (start primaryKey database board).service.identified id = none := by
    change ((∅ : Std.TreeMap Nat Running)[id]?).map _ = none
    rw [Std.TreeMap.getElem?_emptyc, Option.map_none]
  have unentered (name : String) :
      (start primaryKey database board).service.entries[name]? = none :=
    Std.TreeMap.getElem?_emptyc
  constructor
  · intro id _ found
    exact nomatch (unknown id).symm.trans found
  · intro name _ found
    exact nomatch (unentered name).symm.trans found
  · intro id _ _ found
    exact nomatch (unknown id).symm.trans found
  · intro id _ _ _ _ found
    exact nomatch (unknown id).symm.trans found
  · intro _ member
    exact absurd member List.not_mem_nil

variable {registry : Registry} {service : Service}

namespace IsSound

/-- The registry goes on with the same entries and the same sessions. -/
theorem onward (sound : registry.IsSound) (entries : service.entries = registry.service.entries)
    (next : service.nextSession = registry.service.nextSession)
    (same : ∀ id, service.identified id = registry.service.identified id) :
    IsSound { registry with service } := by
  obtain ⟨known, entered, served, alone, waited⟩ := sound
  constructor
  · simp only [same, next]
    exact known
  · simp only [same, entries]
    exact entered
  · simp only [same, entries]
    exact served
  · simp only [same]
    exact alone
  · simp only [same]
    exact waited

/-- Entries of different names have different sessions. -/
theorem name_of_session (sound : registry.IsSound) {name other : String} {entry another : Entry}
    (found : registry.service.entries[name]? = some entry)
    (present : registry.service.entries[other]? = some another)
    (same : another.session = entry.session) : other = name := by
  obtain ⟨_, _, _, here⟩ := sound.entered name entry found
  obtain ⟨_, _, _, there⟩ := sound.entered other another present
  rw [same, here] at there
  exact (Prod.mk.inj (Option.some.inj there)).1.symm

/-- The subscribers of an entry can change as long as there are some. -/
private theorem setSubscribers (sound : registry.IsSound) {name : String} {entry : Entry}
    (found : registry.service.entries[name]? = some entry) {subscribers : Nat}
    (some : 0 < subscribers) :
    IsSound { registry with
      service.entries := registry.service.entries.insert name { entry with subscribers } } where
  known := sound.known
  entered := by
    intro other present held
    rcases lookup_insert_cases held with ⟨rfl, rfl⟩ | ⟨_, earlier⟩
    · exact ⟨some, (sound.entered name entry found).2⟩
    · exact sound.entered other present earlier
  served := by
    intro id other cancelled identified
    refine (sound.served id other cancelled identified).imp_right fun ⟨present, held, same⟩ => ?_
    simp only [lookup_insert]
    by_cases named : name = other
    · subst named
      obtain rfl := Option.some.inj (found.symm.trans held)
      rw [if_pos rfl]
      exact ⟨_, rfl, same⟩
    · rw [if_neg named]
      exact ⟨present, held, same⟩
  alone := sound.alone
  waited := sound.waited

/-- A session that has been told to end is identified as before but for that. -/
private theorem identified_of_cancel {id other : Nat} {name : String} {closed cancelled : Bool}
    (identified : (service.modifySession id Session.cancel).identified other =
      some (name, closed, cancelled)) :
    ∃ before, service.identified other = some (name, closed, before) := by
  rw [Service.identified_cancel] at identified
  split at identified
  · obtain ⟨⟨_, _, before⟩, found, same⟩ := Option.map_eq_some_iff.mp identified
    simp only [Prod.mk.injEq] at same
    obtain ⟨rfl, rfl, _⟩ := same
    exact ⟨before, found⟩
  · exact ⟨cancelled, identified⟩

/-- A session that has to be closed can be told to end. -/
theorem cancel (sound : registry.IsSound) {id : Nat} (member : id ∈ registry.closing) :
    IsSound { registry with service := registry.service.modifySession id Session.cancel } := by
  obtain ⟨entries, next⟩ :=
    registry.service.modifySession_keeps id Session.cancel
  constructor
  · intro other identity identified
    obtain ⟨before, found⟩ := identified_of_cancel identified
    rw [next]
    exact sound.known other _ found
  · intro name entry found
    rw [entries] at found
    obtain ⟨some, parsed, kept, identified⟩ := sound.entered name entry found
    refine ⟨some, parsed, kept, ?_⟩
    have different : id ≠ entry.session := fun same => kept (same ▸ member)
    rw [Service.identified_cancel, if_neg different]
    exact identified
  · intro other name cancelled identified
    obtain ⟨before, found⟩ := identified_of_cancel identified
    rw [entries]
    exact sound.served other name before found
  · intro first second name left right one two
    obtain ⟨_, earlier⟩ := identified_of_cancel one
    obtain ⟨_, further⟩ := identified_of_cancel two
    exact sound.alone first second name _ _ earlier further
  · intro other waits
    have identified := sound.waited other waits
    rw [Service.identified_cancel]
    split
    · rw [Option.isSome_map]
      exact identified
    · exact identified

/-- An entry can be removed while nothing is waited for; its session has to be closed then. -/
private theorem removeEntry (sound : IsSound ⟨service, []⟩) {name : String} {entry : Entry}
    (found : service.entries[name]? = some entry) :
    (awaiting (service.removeEntry name entry)).IsSound := by
  have erased : IsSound ⟨{ service with entries := service.entries.erase name },
      [entry.session]⟩ := by
    constructor
    · exact sound.known
    · intro other another present
      obtain ⟨different, earlier⟩ := lookup_erase_cases present
      obtain ⟨some, parsed, _, identified⟩ := sound.entered other another earlier
      refine ⟨some, parsed, ?_, identified⟩
      intro member
      exact different (sound.name_of_session found earlier (List.mem_singleton.mp member)).symm
    · intro id other cancelled identified
      rcases sound.served id other cancelled identified with waits | ⟨another, held, same⟩
      · exact absurd waits List.not_mem_nil
      · by_cases named : name = other
        · subst named
          obtain rfl := Option.some.inj (found.symm.trans held)
          exact .inl (List.mem_singleton.mpr same.symm)
        · refine .inr ⟨another, ?_, same⟩
          simp only [lookup_erase, named,
            ↓reduceIte]
          exact held
    · exact sound.alone
    · intro id member
      obtain ⟨_, _, _, identified⟩ := sound.entered name entry found
      rw [List.mem_singleton.mp member]
      change (service.identified entry.session).isSome = true
      rw [identified]
      rfl
  exact erased.cancel List.mem_cons_self

/-- A session can be opened for a name that has no entry. -/
private theorem openSession (sound : IsSound ⟨service, []⟩) {name : String}
    {descriptor : Descriptor} (absent : service.entries[name]? = none)
    (parsed : Descriptor.ofName name = .ok descriptor) :
    IsSound ⟨{ (service.openSession name descriptor).2 with
      entries := service.entries.insert name ⟨service.nextSession, 1⟩ }, []⟩ := by
  have known {id : Nat} {identity : String × Bool × Bool}
      (found : service.identified id = some identity) : service.nextSession ≠ id :=
    Nat.ne_of_gt (sound.known id identity found)
  -- Nothing that is not closed had the name, for that would have an entry.
  have free {id : Nat} {cancelled : Bool}
      (found : service.identified id = some (name, false, cancelled)) : False := by
    rcases sound.served id name cancelled found with waits | ⟨entry, held, _⟩
    · exact absurd waits List.not_mem_nil
    · exact nomatch absent.symm.trans held
  constructor
  · intro id identity found
    rcases Service.identified_openSession_cases found with ⟨rfl, _⟩ | earlier
    · exact Nat.lt_succ_self _
    · exact Nat.lt_succ_of_lt (sound.known id identity earlier)
  · intro other entry present
    rcases lookup_insert_cases present with ⟨rfl, rfl⟩ | ⟨_, earlier⟩
    · refine ⟨Nat.one_pos, ⟨descriptor, parsed⟩, List.not_mem_nil, ?_⟩
      exact (Service.identified_openSession name descriptor _).trans (if_pos rfl)
    · obtain ⟨some, valid, kept, found⟩ := sound.entered other entry earlier
      refine ⟨some, valid, kept, ?_⟩
      change (service.openSession name descriptor).2.identified entry.session = _
      rw [Service.identified_openSession, if_neg (known found)]
      exact found
  · intro id other cancelled found
    right
    simp only [lookup_insert]
    rcases Service.identified_openSession_cases found with ⟨rfl, same⟩ | earlier
    · simp only [Prod.mk.injEq] at same
      exact ⟨_, if_pos same.1.symm, rfl⟩
    · rcases sound.served id other cancelled earlier with waits | ⟨entry, held, same⟩
      · exact absurd waits List.not_mem_nil
      · refine ⟨entry, ?_, same⟩
        rw [if_neg]
        · exact held
        · intro named
          rw [named] at absent
          exact nomatch absent.symm.trans held
  · intro first second other left right one two
    rcases Service.identified_openSession_cases one with ⟨rfl, same⟩ | earlier
    · rcases Service.identified_openSession_cases two with ⟨rfl, _⟩ | further
      · rfl
      · simp only [Prod.mk.injEq] at same
        exact (free (same.1 ▸ further)).elim
    · rcases Service.identified_openSession_cases two with ⟨rfl, same⟩ | further
      · simp only [Prod.mk.injEq] at same
        exact (free (same.1 ▸ earlier)).elim
      · exact sound.alone first second other left right earlier further
  · intro _ member
    exact absurd member List.not_mem_nil

/-- What the registry makes of a notice or a report while it waits for nothing. -/
theorem registers (sound : IsSound ⟨service, []⟩) {opening : Option String}
    {result : Service × Option Nat} (registers : service.Registers opening result) :
    (awaiting result).IsSound := by
  cases registers with
  | unchanged => exact sound
  | counted _ name entry subscribers found some => exact sound.setSubscribers found some
  | removed _ name entry found => exact sound.removeEntry found
  | opened name descriptor absent parsed => exact sound.openSession absent parsed

/-- When all entries are removed, their sessions have to be closed. -/
theorem closeAll (sound : IsSound ⟨service, []⟩) {order : List Nat}
    (all : order.Perm (service.entries.values.map Entry.session)) :
    IsSound ⟨{ service with entries := ∅ }, order⟩ where
  known := sound.known
  entered := by
    intro name entry found
    exact nomatch Std.TreeMap.getElem?_emptyc.symm.trans found
  served := by
    intro id name cancelled identified
    left
    rcases sound.served id name cancelled identified with waits | ⟨entry, held, rfl⟩
    · exact absurd waits List.not_mem_nil
    · exact all.mem_iff.mpr (List.mem_map_of_mem (mem_values.mpr ⟨name, held⟩))
  alone := sound.alone
  waited := by
    intro id member
    obtain ⟨entry, present, rfl⟩ := List.mem_map.mp (all.mem_iff.mp member)
    obtain ⟨name, held⟩ := mem_values.mp present
    obtain ⟨_, _, _, identified⟩ := sound.entered name entry held
    change (service.identified entry.session).isSome = true
    rw [identified]
    rfl

/-- While nothing is waited for, every session that is not closed has an entry. -/
theorem entry_of_unclosed (sound : IsSound ⟨service, []⟩) {id : Nat} {running : Running}
    (found : service.running[id]? = some running) (unclosed : running.session.closed = false) :
    ∃ entry, service.entries[running.session.name]? = some entry ∧ entry.session = id := by
  have identified : service.identified id =
      some (running.session.name, false, running.session.cancelled) := by
    rw [Service.identified, found, Option.map_some, Service.identity, unclosed]
  exact (sound.served id _ _ identified).resolve_left List.not_mem_nil

/-- The sessions that have to be closed can be closed in any order. -/
theorem reorder {closing order : List Nat} (sound : IsSound ⟨service, closing⟩)
    (same : order.Perm closing) : IsSound ⟨service, order⟩ where
  known := sound.known
  entered name entry found := by
    obtain ⟨some, parsed, kept, identified⟩ := sound.entered name entry found
    exact ⟨some, parsed, fun member => kept (same.mem_iff.mp member), identified⟩
  served id name cancelled identified :=
    (sound.served id name cancelled identified).imp_left same.mem_iff.mpr
  alone := sound.alone
  waited id member := sound.waited id (same.mem_iff.mp member)

/-- A call is made while nothing is waited for. -/
theorem call (sound : IsSound ⟨service, []⟩) (call : Call) : (call.begin service).IsSound := by
  cases call with
  | notice sent =>
      by_cases subscribed : sent.subscribed = true
      · rw [Call.begin, if_pos subscribed]
        exact sound.registers (service.addSubscriber_registers sent.name)
      · rw [Call.begin, if_neg subscribed]
        exact sound.registers (service.dropSubscriber_registers sent.name)
  | report sent => exact sound.registers (service.dropDetached_registers sent)
  | closeAll order =>
      apply sound.closeAll
      split
      · rename_i all
        exact List.isPerm_iff.mp all
      · exact List.Perm.refl _

/-- The closing of the session that is waited for comes to its end. -/
theorem finish {id : Nat} {rest : List Nat} (sound : IsSound ⟨service, id :: rest⟩) :
    IsSound ⟨service.finishClosing id, rest⟩ := by
  obtain ⟨entries, next⟩ := service.finishClosing_keeps id
  have unclosed {other : Nat} {name : String} {cancelled : Bool}
      (identified : (service.finishClosing id).identified other = some (name, false, cancelled)) :
      id ≠ other ∧ service.identified other = some (name, false, cancelled) := by
    rw [Service.identified_finishClosing] at identified
    split at identified
    · obtain ⟨_, _, same⟩ := Option.map_eq_some_iff.mp identified
      simp only [Prod.mk.injEq] at same
      exact absurd same.2.1.symm Bool.false_ne_true
    · exact ⟨‹_›, identified⟩
  constructor
  · intro other identity identified
    rw [Service.identified_finishClosing] at identified
    rw [next]
    split at identified
    · obtain ⟨before, found, _⟩ := Option.map_eq_some_iff.mp identified
      exact sound.known other before found
    · exact sound.known other identity identified
  · intro name entry found
    rw [entries] at found
    obtain ⟨some, parsed, kept, identified⟩ := sound.entered name entry found
    refine ⟨some, parsed, fun member => kept (List.mem_cons_of_mem id member), ?_⟩
    have different : id ≠ entry.session := fun same => kept (same ▸ List.mem_cons_self)
    rw [Service.identified_finishClosing, if_neg different]
    exact identified
  · intro other name cancelled identified
    obtain ⟨different, found⟩ := unclosed identified
    rw [entries]
    refine (sound.served other name cancelled found).imp_left fun member => ?_
    exact (List.mem_cons.mp member).resolve_left different.symm
  · intro first second name left right one two
    exact sound.alone first second name left right (unclosed one).2 (unclosed two).2
  · intro other member
    have identified := sound.waited other (List.mem_cons_of_mem id member)
    rw [Service.identified_finishClosing]
    split
    · rw [Option.isSome_map]
      exact identified
    · exact identified

/-- The present call goes on. -/
theorem proceed (sound : registry.IsSound) : registry.proceed.IsSound := by
  unfold Registry.proceed
  obtain ⟨service, closing⟩ := registry
  cases closing with
  | nil => exact sound
  | cons id rest =>
      dsimp only
      split
      · split
        · exact sound.finish
        · exact sound
      · exact sound.cancel List.mem_cons_self

/-- Every act keeps the registry sound. -/
theorem step (sound : registry.IsSound) (act : Act) : (registry.after act).IsSound := by
  cases act with
  | call made =>
      obtain ⟨service, closing⟩ := registry
      cases closing with
      | nil => exact sound.call made
      | cons id rest => exact sound
  | proceed => exact sound.proceed
  | session id =>
      cases stepped : registry.service.step? id with
      | none =>
          rw [after, stepped]
          exact sound
      | some next =>
          rw [after, stepped]
          have same := Service.identity_step? stepped
          obtain ⟨_, _, _, _, _, _, rfl⟩ := Service.step?_cases stepped
          exact sound.onward rfl rfl same
  | elsewhere database board => exact sound.onward rfl rfl fun _ => rfl

theorem run (sound : registry.IsSound) (acts : List Act) : (registry.run acts).IsSound := by
  induction acts generalizing registry with
  | nil => exact sound
  | cons act rest ih => exact ih (sound.step act)

end IsSound

end Registry

end LiveSearch
