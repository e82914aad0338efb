import LiveSearch.Proofs.Session.Events

/-! # What a session makes of the events that wait

While a session reads a changefeed that began with a result of its own, the events that wait lead
from what it has gathered or listed to certain keys (`LiveSearch.Phase.AbsorbsTo`). It stays so when
the feed sends more, which leads to other keys (`LiveSearch.Phase.AbsorbsTo.append`), and when the
session reads, unless it ends (`LiveSearch.Session.absorbsTo_event`).
-/

namespace LiveSearch

/-- The events that wait lead a worker in this phase to these keys. -/
def Phase.AbsorbsTo (field : String) (events : List FeedEvent) (keys : Finset String) :
    Phase → Prop
  | .collecting _ => ∃ early late, events = .initial :: (early ++ .ready :: late) ∧
      (∀ event ∈ early, event = .initial ∨ event.isPure = true) ∧
      (∀ event ∈ late, event.isPure = true) ∧
      late.foldl (FeedEvent.absorb field) (early.foldl (FeedEvent.absorb field) ∅) = keys
  | .merging gathered => ∃ early late, events = early ++ .ready :: late ∧
      (∀ event ∈ early, event = .initial ∨ event.isPure = true) ∧
      (∀ event ∈ late, event.isPure = true) ∧
      late.foldl (FeedEvent.absorb field)
        (early.foldl (FeedEvent.absorb field) gathered.keys) = keys
  | .following _ entries => (∀ event ∈ events, event.isPure = true) ∧
      events.foldl (FeedEvent.absorb field) entries.toFinset = keys
  | _ => False

namespace Phase.AbsorbsTo

variable {field : String} {events more : List FeedEvent} {keys : Finset String} {phase : Phase}

/-- Further events lead further. -/
theorem append (absorbs : phase.AbsorbsTo field events keys)
    (pure : ∀ event ∈ more, event.isPure = true) :
    phase.AbsorbsTo field (events ++ more) (more.foldl (FeedEvent.absorb field) keys) := by
  have both {late : List FeedEvent} (first : ∀ event ∈ late, event.isPure = true) :
      ∀ event ∈ late ++ more, event.isPure = true := fun event member =>
    (List.mem_append.mp member).elim (first event) (pure event)
  cases phase with
  | collecting gathered =>
      obtain ⟨early, late, rfl, unready, mirrored, rfl⟩ := absorbs
      refine ⟨early, late ++ more, ?_, unready, both mirrored, List.foldl_append⟩
      rw [List.cons_append, List.append_assoc, List.cons_append]
  | merging gathered =>
      obtain ⟨early, late, rfl, unready, mirrored, rfl⟩ := absorbs
      refine ⟨early, late ++ more, ?_, unready, both mirrored, List.foldl_append⟩
      rw [List.append_assoc, List.cons_append]
  | following handle entries =>
      obtain ⟨mirrored, rfl⟩ := absorbs
      exact ⟨both mirrored, List.foldl_append⟩
  | opening => exact absorbs.elim
  | stopped owned => exact absorbs.elim

/-- A new feed leads to the keys of its result. -/
theorem initial {gathered : KeySet} (records : List Json)
    (same : withRecords field ∅ records = keys) :
    (Phase.collecting gathered).AbsorbsTo field
      (.initial :: (records.map .inserted ++ [.ready])) keys := by
  refine ⟨records.map .inserted, [], rfl, fun event member => ?_, fun event member => ?_, ?_⟩
  · obtain ⟨record, _, rfl⟩ := List.mem_map.mp member
    exact .inr rfl
  · exact absurd member List.not_mem_nil
  · rw [FeedEvent.absorb_inserted]
    exact same

/-- A worker that absorbs events has not ended. -/
theorem running (absorbs : phase.AbsorbsTo field events keys) : phase.isStopped = false := by
  cases phase with
  | stopped owned => exact absorbs.elim
  | _ => rfl

end Phase.AbsorbsTo

namespace Session

variable {session : Session} {board : Board} {events : List FeedEvent} {keys : Finset String}

/-- Reading a row does not change what waits at the changefeed. -/
theorem absorbsTo_row {gathered : KeySet} (collecting : session.phase = .collecting gathered)
    (absorbs : session.phase.AbsorbsTo session.primaryKey events keys) (record : Json) :
    (session.receive board (.row (.ok record))).1.phase.AbsorbsTo
      session.primaryKey events keys := by
  rw [collecting] at absorbs
  have after : (session.receive board (.row (.ok record))).1.phase =
      .collecting (session.addKey gathered record) := by
    simp only [receive, collecting, goOn]
  rw [after]
  exact absorbs

/-- At the end of the rows nothing has been read of the changefeed. -/
theorem absorbsTo_rowsEnd {gathered : KeySet} (collecting : session.phase = .collecting gathered)
    (absorbs : session.phase.AbsorbsTo session.primaryKey events keys) :
    (session.receive board .rowsEnd).1.phase.AbsorbsTo session.primaryKey events keys := by
  rw [collecting] at absorbs
  obtain ⟨early, late, rfl, unready, pure, same⟩ := absorbs
  have after : (session.receive board .rowsEnd).1.phase = .merging gathered := by
    simp only [receive, collecting, goOn]
  rw [after]
  refine ⟨.initial :: early, late, rfl, fun event member => ?_, pure, same⟩
  rcases List.mem_cons.mp member with rfl | later
  · exact .inl rfl
  · exact unready event later

/-- A session that gathers keys absorbs an event, or it publishes what it has gathered. -/
private theorem absorbsTo_merging (fits : session.Fits board) {gathered : KeySet}
    {event : FeedEvent} (merging : session.phase = .merging gathered)
    (absorbs : session.phase.AbsorbsTo session.primaryKey (event :: events) keys) :
    (session.receive board (.event (.ok event))).1.phase.isStopped = true ∨
      (session.receive board (.event (.ok event))).1.phase.AbsorbsTo session.primaryKey events
        keys := by
  have exact := fits.exact
  rw [merging] at absorbs exact
  obtain ⟨early, late, split, unready, pure, same⟩ := absorbs
  cases early with
  | nil =>
      obtain ⟨rfl, rfl⟩ := List.cons.inj split
      have told : session.receive board (.event (.ok .ready)) = session.publish board gathered := by
        simp only [receive, merging, receiveMerging]
      rw [told]
      rcases session.publish_cases board gathered with
        ⟨cause, _, refused⟩ | ⟨list, _, adopted⟩ | ⟨_, created⟩
      · rw [refused]
        exact .inl rfl
      · rw [adopted]
        exact .inr ⟨pure, same⟩
      · rw [created]
        exact .inr ⟨pure, same⟩
  | cons first rest =>
      obtain ⟨rfl, rfl⟩ := List.cons.inj split
      have later : ∀ event ∈ rest, event = .initial ∨ event.isPure = true := fun other member =>
        unready other (List.mem_cons_of_mem _ member)
      cases event with
      | initial =>
          have after : (session.receive board (.event (.ok .initial))).1.phase =
              .merging .empty := by
            simp only [receive, merging, receiveMerging, goOn]
          rw [after]
          exact .inr ⟨rest, late, rfl, later, pure, same⟩
      | ready =>
          rcases unready .ready List.mem_cons_self with initial | oneSided
          · cases initial
          · exact absurd oneSided Bool.false_ne_true
      | change old new =>
          have after : (session.receive board (.event (.ok (.change old new)))).1.phase =
              .merging (session.mergeChange gathered old new) := by
            simp only [receive, merging, receiveMerging, goOn]
          rw [after]
          refine .inr ⟨rest, late, rfl, later, pure, ?_⟩
          rw [keys_mergeChange exact]
          exact same

/-- Reading an event takes it off those that wait, unless the session ends. -/
theorem absorbsTo_event (fits : session.Fits board) {event : FeedEvent}
    (reads : session.phase.readsFeed = true)
    (absorbs : session.phase.AbsorbsTo session.primaryKey (event :: events) keys) :
    (session.receive board (.event (.ok event))).1.phase.isStopped = true ∨
      (session.receive board (.event (.ok event))).1.phase.AbsorbsTo session.primaryKey events
        keys := by
  cases phase : session.phase with
  | merging gathered => exact absorbsTo_merging fits phase absorbs
  | following handle entries =>
      rw [phase] at absorbs
      obtain ⟨pure, same⟩ := absorbs
      have first : event.isPure = true := pure event List.mem_cons_self
      rcases receive_pure_cases fits phase first with ⟨others, told, absorbed⟩ | ⟨_, stopped⟩
      · right
        rw [told]
        refine ⟨fun other member => pure other (List.mem_cons_of_mem _ member), ?_⟩
        rw [absorbed]
        exact same
      · exact .inl stopped
  | opening =>
      rw [phase] at reads
      exact absurd reads Bool.false_ne_true
  | collecting gathered =>
      rw [phase] at reads
      exact absurd reads Bool.false_ne_true
  | stopped owned =>
      rw [phase] at absorbs
      exact absorbs.elim

end Session

end LiveSearch
