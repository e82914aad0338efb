import LiveSearch.Proofs.Session.Rehearsal

/-! # What a session makes of a result and a feed

A session is told a result, row by row, and then a changefeed, event by event. Before the feed is
ready it gathers what every event makes of its keys, and from then on its list follows the events
with one side; all others leave the list as it is. So one list can be computed from the result, the
events before the first ready marker and those behind it (`LiveSearch.Session.tell_briefing`), and
where the marker stands among changes with at most one side makes no difference
(`LiveSearch.Rehearsal.entries_of_isMarked`).
-/

namespace LiveSearch

namespace Session

variable {session : Session} {board : Board}

variable (session board) in
/-- The rows of the result are gathered. -/
theorem tell_rows {keys : KeySet} (collecting : session.phase = .collecting keys)
    (exact : keys.IsExact) (rows : List Json) : ∃ gathered : KeySet, gathered.IsExact ∧
      gathered.toList = withEntries session.primaryKey keys.toList rows ∧
      (rows.map fun record => .row (.ok record)).foldl tell (session, board) =
        (session.goOn (.collecting gathered), board) := by
  induction rows generalizing session keys with
  | nil =>
      refine ⟨keys, exact, rfl, ?_⟩
      rw [goOn, ← collecting]
      rfl
  | cons record rest ih =>
      have told : tell (session, board) (.row (.ok record)) =
          (session.goOn (.collecting (session.addKey keys record)), board) := by
        simp only [tell, receive, collecting]
      have next : (session.goOn (.collecting (session.addKey keys record))).phase =
          .collecting (session.addKey keys record) := rfl
      obtain ⟨gathered, still, same, final⟩ := ih _ next (session.addKey_isExact exact record)
      refine ⟨gathered, still, ?_, ?_⟩
      · rw [same, toList_addKey exact]
        rfl
      · rw [List.map_cons, List.foldl_cons, told, final]
        rfl

variable (session board) in
/-- The events before the feed is ready are gathered. -/
theorem tell_gathered {keys : KeySet} (merging : session.phase = .merging keys)
    (exact : keys.IsExact) (events : List FeedEvent) (unready : FeedEvent.ready ∉ events) :
    ∃ gathered : KeySet, gathered.IsExact ∧
      gathered.toList = events.foldl (FeedEvent.arrange session.primaryKey) keys.toList ∧
      (events.map fun event => .event (.ok event)).foldl tell (session, board) =
        (session.goOn (.merging gathered), board) := by
  induction events generalizing session keys with
  | nil =>
      refine ⟨keys, exact, rfl, ?_⟩
      rw [goOn, ← merging]
      rfl
  | cons event rest ih =>
      obtain ⟨different, later⟩ := not_or.mp (mt List.mem_cons.mpr unready)
      obtain ⟨after, still, same, told⟩ : ∃ after : KeySet, after.IsExact ∧
          after.toList = event.arrange session.primaryKey keys.toList ∧
          tell (session, board) (.event (.ok event)) = (session.goOn (.merging after), board) := by
        cases event with
        | initial =>
            refine ⟨.empty, KeySet.isExact_empty, rfl, ?_⟩
            simp only [tell, receive, merging, receiveMerging]
        | ready => exact absurd rfl different
        | change old new =>
            refine ⟨session.mergeChange keys old new, session.mergeChange_isExact exact old new,
              toList_mergeChange exact old new, ?_⟩
            simp only [tell, receive, merging, receiveMerging]
      have next : (session.goOn (.merging after)).phase = .merging after := rfl
      obtain ⟨gathered, exact, list, final⟩ := ih _ next still later
      refine ⟨gathered, exact, ?_, ?_⟩
      · rw [list, same]
        rfl
      · rw [List.map_cons, List.foldl_cons, told, final]
        rfl

/-- The entries behind the events after publication: only those with one side count. -/
def followed (field : String) (entries : List String) (events : List FeedEvent) : List String :=
  (events.filter FeedEvent.isPure).foldl (FeedEvent.arrange field) entries

section Followed

variable {field : String} {entries : List String} {event : FeedEvent}

theorem followed_cons_of_isPure (pure : event.isPure = true) (rest : List FeedEvent) :
    followed field entries (event :: rest) = followed field (event.arrange field entries) rest := by
  rw [followed, List.filter_cons_of_pos pure, List.foldl_cons, followed]

theorem followed_cons_of_not_isPure (other : event.isPure = false) (rest : List FeedEvent) :
    followed field entries (event :: rest) = followed field entries rest := by
  rw [followed, List.filter_cons_of_neg (Bool.not_eq_true _ ▸ other), followed]

end Followed

/-- Of the events after publication those with one side are mirrored. -/
theorem tell_mirrored {handle : Handle} {entries : List String} (calm : session.IsCalm board)
    (following : session.phase = .following handle entries) (events : List FeedEvent) :
    ∃ final : Board,
      (session.goOn (.following handle (followed session.primaryKey entries events))).IsCalm
        final ∧
      (events.map fun event => .event (.ok event)).foldl tell (session, board) =
        (session.goOn (.following handle (followed session.primaryKey entries events)),
          final) := by
  induction events generalizing session board entries with
  | nil =>
      have same : session.goOn (.following handle (followed session.primaryKey entries [])) =
          session := by
        rw [followed, List.filter_nil, List.foldl_nil, goOn, ← following]
      rw [same]
      exact ⟨board, calm, rfl⟩
  | cons event rest ih =>
      rw [List.map_cons, List.foldl_cons]
      cases pure : event.isPure with
      | false =>
          have told : tell (session, board) (.event (.ok event)) = (session, board) :=
            receive_of_not_isPure following pure
          rw [told, followed_cons_of_not_isPure pure]
          exact ih calm following
      | true =>
          have told := (receive_arranges_cases calm.fits following pure).resolve_right
            fun refused => calm.fits.notBarred calm.working following
              (calm.standing handle entries following) refused.1
          have next : (session.receive board (.event (.ok event))).1.phase =
              .following handle (event.arrange session.primaryKey entries) := by
            rw [told]
            rfl
          obtain ⟨final, still, last⟩ := ih (calm.receive (.event (.ok event))) next
          rw [told] at still last
          rw [followed_cons_of_isPure pure]
          have first : tell (session, board) (.event (.ok event)) =
              (session.goOn (.following handle (event.arrange session.primaryKey entries)),
                (session.receive board (.event (.ok event))).2) := Prod.ext told rfl
          rw [first]
          exact ⟨final, still, last⟩

/-- What a session is told that reads a result and a changefeed. -/
def briefing (rows : List SnapshotItem) (items : List FeedItem) : List Signal :=
  .opened :: (rows.map .row ++ .rowsEnd :: items.map .event)

theorem briefing_append (rows : List SnapshotItem) (items later : List FeedItem) :
    briefing rows (items ++ later) = briefing rows items ++ later.map .event := by
  simp only [briefing, List.map_append, List.cons_append, List.append_assoc]

variable (board) in
/-- A session that has read a result and the events before readiness has gathered their list. -/
theorem tell_unready (name primaryKey : String) (rows : List Json) {early : List FeedEvent}
    (unready : FeedEvent.ready ∉ early) : ∃ gathered : KeySet, gathered.IsExact ∧
      gathered.toList =
        early.foldl (FeedEvent.arrange primaryKey) (withEntries primaryKey [] rows) ∧
      (briefing (rows.map .ok) (early.map .ok)).foldl tell (start name primaryKey, board) =
        ((start name primaryKey).goOn (.merging gathered), board) := by
  obtain ⟨read, readExact, result, rowsTold⟩ :=
    ((start name primaryKey).goOn (.collecting .empty)).tell_rows board rfl
      KeySet.isExact_empty rows
  obtain ⟨gathered, exact, list, earlyTold⟩ :=
    ((start name primaryKey).goOn (.merging read)).tell_gathered board rfl readExact early unready
  have started : tell (start name primaryKey, board) .opened =
      ((start name primaryKey).goOn (.collecting .empty), board) := rfl
  have ended : tell (((start name primaryKey).goOn (.collecting .empty)).goOn (.collecting read),
      board) .rowsEnd = ((start name primaryKey).goOn (.merging read), board) := rfl
  refine ⟨gathered, exact, ?_, ?_⟩
  · rw [list, result]
    rfl
  · rw [briefing, List.map_map, List.map_map, List.foldl_cons, started, List.foldl_append]
    change List.foldl tell (List.foldl tell _ (rows.map fun record => .row (.ok record))) _ = _
    rw [rowsTold, List.foldl_cons, ended]
    exact earlyTold

/-- A session that becomes ready publishes what it has gathered, and then mirrors the events with
one side. -/
theorem tell_ready {gathered : KeySet} (calm : session.IsCalm board)
    (merging : session.phase = .merging gathered) (late : List FeedEvent) :
    ∃ entries, entries = followed session.primaryKey gathered.toList late ∧ entries.Nodup ∧
      (((FeedEvent.ready :: late).map fun event => .event (.ok event)).foldl tell
        (session, board)).2.entries? session.name = some entries := by
  have told : session.receive board (.event (.ok .ready)) = session.publish board gathered := by
    simp only [receive, merging, receiveMerging]
  obtain ⟨handle, published, _⟩ := session.publish_ready calm.sound calm.working gathered
  have after := calm.receive (.event (.ok .ready))
  rw [told, published] at after
  have first : tell (session, board) (.event (.ok .ready)) =
      (session.ready handle gathered.toList, (session.publish board gathered).2) := by
    rw [tell, told]
    exact Prod.ext published rfl
  obtain ⟨final, still, lateTold⟩ := tell_mirrored after rfl late
  obtain ⟨listed, nodup⟩ := still.entries rfl
  refine ⟨_, rfl, nodup, ?_⟩
  rw [List.map_cons, List.foldl_cons, first, lateTold]
  exact listed

/-- A session that reads a result and then events up to readiness and beyond publishes what the
events make of the list of the result. -/
theorem tell_briefing (sound : board.IsSound) (working : board.failure = none)
    (name primaryKey : String) (rows : List Json) {early : List FeedEvent}
    (unready : FeedEvent.ready ∉ early) (late : List FeedEvent) :
    ∃ entries, entries = followed primaryKey
        (early.foldl (FeedEvent.arrange primaryKey) (withEntries primaryKey [] rows)) late ∧
      entries.Nodup ∧
      ((briefing (rows.map .ok) ((early ++ .ready :: late).map .ok)).foldl tell
        (start name primaryKey, board)).2.entries? name = some entries := by
  obtain ⟨gathered, exact, list, told⟩ := tell_unready board name primaryKey rows unready
  have calm : ((start name primaryKey).goOn (.merging gathered)).IsCalm board :=
    ⟨.of_none exact rfl, sound, working, fun _ _ following => nomatch following⟩
  obtain ⟨entries, same, nodup, listed⟩ := tell_ready calm rfl late
  refine ⟨entries, list ▸ same, nodup, ?_⟩
  rw [List.map_append, briefing_append, List.foldl_append, told, List.map_map]
  exact listed

end Session

/-- A session whose sources work and that can only wait has been told all rows and all items,
whenever they have arrived. -/
theorem Rehearsal.Runs.briefed {board : Board} (sound : board.IsSound)
    (working : board.failure = none) {name primaryKey : String} {rows : List SnapshotItem}
    {queued pushed items : List FeedItem} {final : Rehearsal} (arrived : queued ++ pushed = items)
    (runs : (Rehearsal.start (.start name primaryKey) board (.ok rows) none queued).Runs pushed
      final)
    (waits : final.step? = none) : (final.session, final.board) =
      (Session.briefing rows items).foldl Session.tell (.start name primaryKey, board) := by
  rw [← arrived, Session.briefing_append, List.foldl_append]
  exact runs.settled (start_isUndisturbed sound working name primaryKey rows queued) waits

section Markers

namespace FeedEvent

/-- An event that tells the state of the feed. -/
def isMarker : FeedEvent → Bool
  | change _ _ => false
  | _ => true

/-- A change that lets one record in, takes one record out, or does nothing. -/
def isSimple : FeedEvent → Bool
  | change none _ => true
  | change (some _) none => true
  | _ => false

/-- Changes with markers at any place between them, the first of which is the ready marker. -/
structure IsMarked (changes script : List FeedEvent) : Prop where
  changes : (script.filter fun event => !event.isMarker) = changes
  ready : script.find? isMarker = some .ready

/-- There are only changes before the ready marker. -/
theorem IsMarked.split {changes script : List FeedEvent} (marked : IsMarked changes script) :
    ∃ early late, script = early ++ .ready :: late ∧ .ready ∉ early ∧
      changes = early ++ late.filter fun event => !event.isMarker := by
  obtain ⟨_, early, late, rfl, unmarked⟩ := List.find?_eq_some_iff_append.mp marked.ready
  refine ⟨early, late, rfl, fun member => absurd (unmarked .ready member) Bool.false_ne_true, ?_⟩
  rw [← marked.changes, List.filter_append, List.filter_eq_self.mpr unmarked,
    List.filter_cons_of_neg Bool.false_ne_true]

/-- A simple change that neither lets in a record nor takes one out does nothing. -/
theorem arrange_of_isSimple {field : String} {entries : List String} {event : FeedEvent}
    (simple : event.isSimple = true) (impure : event.isPure = false) :
    event.arrange field entries = entries := by
  cases event with
  | change old new =>
      cases old with
      | none =>
          cases new with
          | none => rfl
          | some record => exact absurd impure Bool.true_eq_false.mp
      | some left =>
          cases new with
          | none => exact absurd impure Bool.true_eq_false.mp
          | some record => exact absurd simple Bool.false_ne_true
  | _ => exact absurd simple Bool.false_ne_true

end FeedEvent

namespace Session

variable {field : String} {entries : List String} {events : List FeedEvent}

/-- A session that follows its list does not heed markers. -/
theorem followed_unmarked :
    followed field entries (events.filter fun event => !event.isMarker) =
      followed field entries events := by
  have pure : ∀ event : FeedEvent, (event.isPure && !event.isMarker) = event.isPure := by
    intro event
    cases event with
    | change old new => exact Bool.and_true _
    | _ => rfl
  rw [followed, List.filter_filter, List.filter_congr fun event _ => pure event, followed]

/-- Of simple changes all are heeded that change anything. -/
theorem followed_simple (simple : ∀ event ∈ events, event.isSimple = true) :
    followed field entries events = events.foldl (FeedEvent.arrange field) entries := by
  induction events generalizing entries with
  | nil => rfl
  | cons event rest ih =>
      obtain ⟨first, others⟩ := List.forall_mem_cons.mp simple
      cases pure : event.isPure with
      | true =>
          rw [followed_cons_of_isPure pure, List.foldl_cons]
          exact ih others
      | false =>
          rw [followed_cons_of_not_isPure pure, List.foldl_cons,
            FeedEvent.arrange_of_isSimple first pure]
          exact ih others

end Session

/-- **It makes no difference when a feed becomes ready.** Whatever rows a result has, however simple
changes and markers follow one another on the feed, and whenever they arrive: once the session has
consumed everything and waits, its list is what the rows and the changes make of it, in this order.
Where the first ready marker stands does not matter, nor do the markers behind it. And a session
does come to that point. -/
theorem Rehearsal.entries_of_isMarked (name primaryKey : String) {board : Board}
    (sound : board.IsSound) (working : board.failure = none) (rows : List Json)
    {changes script : List FeedEvent} (simple : ∀ event ∈ changes, event.isSimple = true)
    (marked : FeedEvent.IsMarked changes script) :
    (∀ (queued pushed : List FeedItem) (final : Rehearsal), queued ++ pushed = script.map .ok →
      (start (.start name primaryKey) board (.ok (rows.map .ok)) none queued).Runs pushed final →
      final.step? = none → final.board.entries? name =
        some (changes.foldl (FeedEvent.arrange primaryKey) (withEntries primaryKey [] rows))) ∧
    (start (.start name primaryKey) board (.ok (rows.map .ok)) none
      (script.map .ok)).settle.step? = none := by
  refine ⟨fun queued pushed final arrived runs waits => ?_,
    settle_waits sound working name primaryKey _ _⟩
  obtain ⟨early, late, rfl, unready, rfl⟩ := marked.split
  obtain ⟨entries, same, _, listed⟩ :=
    Session.tell_briefing sound working name primaryKey rows unready late
  rw [← runs.briefed sound working arrived waits] at listed
  -- Behind the marker the list heeds less than before it, but nothing that simple changes do.
  rw [listed, same, List.foldl_append, ← Session.followed_unmarked, Session.followed_simple]
  exact fun event member => simple event (List.mem_append_right _ member)

/-- Changes that let in a new key and one that has left, and others that change nothing. -/
def comings : List FeedEvent :=
  [.inserted (.object [("id", .string "c")]), .removed (.object [("id", .string "a")]),
    .change none none, .inserted (.object [("id", .string "b")]), .inserted (.object []),
    .inserted (.object [("id", .string "a")]), .removed (.object [("id", .string "x")])]

/-- A new session whose result has two keys, and whose feed tells this script. -/
def Rehearsal.ofScript (script : List FeedEvent) : Rehearsal :=
  start (.start "books?" "id") (Board.empty 10)
    (.ok [.ok (.object [("id", .string "a")]), .ok (.object [("id", .string "b")])]) none
    (script.map .ok)

/-- The list is the same if the feed is ready at once and if it is ready in the middle of the
changes. -/
theorem Rehearsal.entries_of_isMarked_comings :
    (ofScript (.ready :: comings)).settle.board.entries? "books?" = some ["b", "c", "a"] ∧
    (ofScript (comings.take 2 ++ .ready ::
      (comings.drop 2 ++ [.initial, .ready]))).settle.board.entries? "books?" =
        some ["b", "c", "a"] := by
  have simple : ∀ event ∈ comings, event.isSimple = true := by decide
  have atOnce : FeedEvent.IsMarked comings (.ready :: comings) := ⟨rfl, rfl⟩
  have between : FeedEvent.IsMarked comings
      (comings.take 2 ++ .ready :: (comings.drop 2 ++ [.initial, .ready])) := ⟨rfl, rfl⟩
  have early := entries_of_isMarked "books?" "id" (Board.isSound_empty 10) rfl
    [.object [("id", .string "a")], .object [("id", .string "b")]] simple atOnce
  have late := entries_of_isMarked "books?" "id" (Board.isSound_empty 10) rfl
    [.object [("id", .string "a")], .object [("id", .string "b")]] simple between
  exact ⟨early.1 _ [] _ (List.append_nil _) (runs_settle _) early.2,
    late.1 _ [] _ (List.append_nil _) (runs_settle _) late.2⟩

end Markers

end LiveSearch
