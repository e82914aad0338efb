import LiveSearch.Proofs.Session.Briefing

/-! # Absorbing races between a result and a changefeed

The keys that a selection holds change one at a time (`LiveSearch.Toggle`). A query sees them at one
moment, while the changefeed reports all changes from an earlier moment on, so a session is told of
changes that are already in what it has read. Each of them is the last word on its key, and so they
do no harm (`LiveSearch.Toggle.replay_absorbed`). Whether the feed overlaps with the result in this
way or begins with a result of its own (`LiveSearch.Coverage`), the session publishes the keys of
the last moment, each of them once (`LiveSearch.Rehearsal.bootstrap_absorbs_races`).
-/

namespace LiveSearch

/-- A key comes into a selection or leaves it. -/
inductive Toggle
  | enter (key : String)
  | leave (key : String)

namespace Toggle

/-- The key that is concerned. -/
def key : Toggle → String
  | enter key => key
  | leave key => key

/-- The keys after a change. -/
def apply (present : Finset String) : Toggle → Finset String
  | enter key => insert key present
  | leave key => present.erase key

/-- The keys at a moment of a history. -/
def moment (first : Finset String) (changes : List Toggle) (count : Nat) : Finset String :=
  (changes.take count).foldl apply first

/-- A change decides about its own key and about no other. -/
theorem mem_apply (change : Toggle) {first second : Finset String} {key : String}
    (agree : change.key ≠ key → (key ∈ first ↔ key ∈ second)) :
    key ∈ change.apply first ↔ key ∈ change.apply second := by
  by_cases same : change.key = key
  · cases change with
    | enter other =>
        have same : other = key := same
        simp only [apply, same, Finset.mem_insert_self]
    | leave other =>
        have same : other = key := same
        simp only [apply, same, Finset.mem_erase, ne_eq, not_true_eq_false, false_and]
  · have agreed := agree same
    cases change with
    | enter other => simp only [apply, Finset.mem_insert, agreed]
    | leave other => simp only [apply, Finset.mem_erase, agreed]

/-- Changes lead to the same keys from any two sets that agree on the keys they do not concern. -/
theorem foldl_apply_congr (changes : List Toggle) {first second : Finset String}
    (agree : ∀ key, (∀ change ∈ changes, change.key ≠ key) → (key ∈ first ↔ key ∈ second)) :
    changes.foldl apply first = changes.foldl apply second := by
  induction changes generalizing first second with
  | nil =>
      ext key
      exact agree key fun _ member => absurd member List.not_mem_nil
  | cons change rest ih =>
      rw [List.foldl_cons, List.foldl_cons]
      refine ih fun key untouched => change.mem_apply fun different => agree key ?_
      intro other member
      rcases List.mem_cons.mp member with rfl | later
      · exact different
      · exact untouched other later

/-- Keys that no change concerns stay or stay away. -/
theorem mem_foldl_apply (changes : List Toggle) {present : Finset String} {key : String}
    (untouched : ∀ change ∈ changes, change.key ≠ key) :
    key ∈ changes.foldl apply present ↔ key ∈ present := by
  induction changes generalizing present with
  | nil => rfl
  | cons change rest ih =>
      rw [List.foldl_cons, ih fun other later => untouched other (List.mem_cons_of_mem _ later)]
      have different := untouched change List.mem_cons_self
      cases change with
      | enter other =>
          rw [apply, Finset.mem_insert]
          exact ⟨fun either => either.resolve_left fun same => different same.symm, .inr⟩
      | leave other =>
          rw [apply, Finset.mem_erase]
          exact ⟨And.right, fun member => ⟨fun same => different same.symm, member⟩⟩

/-- Changes that are already in do no harm when they are all made once more. -/
theorem replay_absorbed (changes : List Toggle) (count : Nat) (present : Finset String) :
    changes.foldl apply ((changes.take count).foldl apply present) =
      changes.foldl apply present :=
  foldl_apply_congr changes fun _ untouched =>
    mem_foldl_apply _ fun change member => untouched change (List.mem_of_mem_take member)

/-- From a moment on, all changes since an earlier one lead to the last moment. -/
theorem foldl_drop_moment (first : Finset String) (changes : List Toggle) {earlier later : Nat}
    (before : earlier ≤ later) :
    (changes.drop earlier).foldl apply (moment first changes later) =
      moment first changes changes.length := by
  have split : changes.take later =
      changes.take earlier ++ (changes.drop earlier).take (later - earlier) := by
    rw [← List.take_add, Nat.add_sub_cancel' before]
  rw [moment, split, List.foldl_append, replay_absorbed, ← List.foldl_append,
    List.take_append_drop, moment, List.take_length]

/-- An event that lets a record with the key in, or takes one out. -/
inductive IsReportedBy (field : String) : Toggle → FeedEvent → Prop
  | enter {key : String} {record : Json} (keyed : keyOf? field record = some key) :
      IsReportedBy field (enter key) (.inserted record)
  | leave {key : String} {record : Json} (keyed : keyOf? field record = some key) :
      IsReportedBy field (leave key) (.removed record)

theorem IsReportedBy.isPure {field : String} {change : Toggle} {event : FeedEvent}
    (reported : change.IsReportedBy field event) : event.isPure = true := by
  cases reported <;> rfl

theorem IsReportedBy.absorb {field : String} {change : Toggle} {event : FeedEvent}
    (reported : change.IsReportedBy field event) (present : Finset String) :
    event.absorb field present = change.apply present := by
  cases reported with
  | enter keyed =>
      change withKey present (keyOf? field _) = _
      rw [keyed]
      rfl
  | leave keyed =>
      change withoutKey present (keyOf? field _) = _
      rw [keyed]
      rfl

/-- Events that report changes have only one side each and make the changes. -/
theorem absorb_reports {field : String} {changes : List Toggle} {events : List FeedEvent}
    (reports : List.Forall₂ (IsReportedBy field) changes events) (present : Finset String) :
    (∀ event ∈ events, event.isPure = true) ∧
      events.foldl (FeedEvent.absorb field) present = changes.foldl apply present := by
  induction reports generalizing present with
  | nil => exact ⟨fun _ member => absurd member List.not_mem_nil, rfl⟩
  | cons reported rest ih =>
      obtain ⟨pure, same⟩ := ih (FeedEvent.absorb field present _)
      refine ⟨fun event member => ?_, ?_⟩
      · rcases List.mem_cons.mp member with rfl | later
        · exact reported.isPure
        · exact pure event later
      · rw [List.foldl_cons, List.foldl_cons, same, reported.absorb]

end Toggle

/-- The records have these keys, in any order and any number; records without a usable key do not
count. -/
def HaveKeys (field : String) (records : List Json) (keys : Finset String) : Prop :=
  ∀ key, (∃ record ∈ records, keyOf? field record = some key) ↔ key ∈ keys

/-- A result and a changefeed that together tell a history to its last moment. -/
inductive Coverage (field : String) (first : Finset String) (changes : List Toggle)
    (rows : List Json) : List FeedEvent → Prop
  /-- The feed reports what has changed since a moment that is not later than the result, and is
  ready at any time. -/
  | overlapping (opened read : Nat) (before : opened ≤ read)
      (result : HaveKeys field rows (Toggle.moment first changes read))
      (early late : List FeedEvent)
      (reports : List.Forall₂ (Toggle.IsReportedBy field) (changes.drop opened) (early ++ late)) :
      Coverage field first changes rows (early ++ .ready :: late)
  /-- The feed begins with a result of its own, whatever the query has answered. -/
  | replayed (opened : Nat) (records : List Json)
      (result : HaveKeys field records (Toggle.moment first changes opened))
      (events : List FeedEvent)
      (reports : List.Forall₂ (Toggle.IsReportedBy field) (changes.drop opened) events) :
      Coverage field first changes rows
        (.initial :: (records.map .inserted ++ .ready :: events))

/-- A result from nothing has exactly its own keys. -/
theorem HaveKeys.withRecords {field : String} {records : List Json} {keys : Finset String}
    (known : HaveKeys field records keys) : withRecords field ∅ records = keys := by
  ext key
  rw [mem_withRecords, ← known key]
  simp only [Finset.notMem_empty, false_or]

namespace Session

variable {session : Session} {board : Board}

/-- A session that reads a result and then events up to readiness and beyond publishes what the
events make of the keys of the result. -/
theorem tell_bootstrap (sound : board.IsSound) (working : board.failure = none)
    (name primaryKey : String) (rows : List Json) (early late : List FeedEvent)
    (unready : ∀ event ∈ early, event = .initial ∨ event.isPure = true)
    (pure : ∀ event ∈ late, event.isPure = true) :
    ∃ entries : List String,
      ((briefing (rows.map .ok) ((early ++ .ready :: late).map .ok)).foldl tell
        (start name primaryKey, board)).2.entries? name = some entries ∧
      entries.Nodup ∧
      entries.toFinset = late.foldl (FeedEvent.absorb primaryKey)
        (early.foldl (FeedEvent.absorb primaryKey) (withRecords primaryKey ∅ rows)) := by
  have still : FeedEvent.ready ∉ early := by
    intro member
    rcases unready .ready member with initial | oneSided
    · exact nomatch initial
    · exact absurd oneSided Bool.false_ne_true
  obtain ⟨entries, same, nodup, listed⟩ :=
    tell_briefing sound working name primaryKey rows still late
  have first : (withEntries primaryKey [] rows).Nodup := nodup_withEntries .nil primaryKey rows
  have next := FeedEvent.nodup_foldl_arrange first primaryKey early
  refine ⟨entries, listed, nodup, ?_⟩
  rw [same, followed, List.filter_eq_self.mpr pure, FeedEvent.toFinset_foldl_arrange next,
    FeedEvent.toFinset_foldl_arrange first, toFinset_withEntries]
  rfl

end Session

namespace Rehearsal

/-- The list of a name holds these keys, each of them once. -/
def Publishes (rehearsal : Rehearsal) (name : String) (keys : Finset String) : Prop :=
  ∃ entries, rehearsal.board.entries? name = some entries ∧ entries.Nodup ∧
    ∀ key, key ∈ entries ↔ key ∈ keys

end Rehearsal

/-- What a covering result and feed make of the keys. -/
theorem Coverage.absorbed {field : String} {first : Finset String} {changes : List Toggle}
    {rows : List Json} {script : List FeedEvent}
    (covers : Coverage field first changes rows script) :
    ∃ early late, script = early ++ .ready :: late ∧
      (∀ event ∈ early, event = .initial ∨ event.isPure = true) ∧
      (∀ event ∈ late, event.isPure = true) ∧
      late.foldl (FeedEvent.absorb field)
        (early.foldl (FeedEvent.absorb field) (withRecords field ∅ rows)) =
          Toggle.moment first changes changes.length := by
  cases covers with
  | overlapping opened read before result early late reports =>
      obtain ⟨pure, absorbed⟩ :=
        Toggle.absorb_reports reports (Toggle.moment first changes read)
      refine ⟨early, late, rfl,
        fun event member => .inr (pure event (List.mem_append_left _ member)),
        fun event member => pure event (List.mem_append_right _ member), ?_⟩
      rw [result.withRecords, ← List.foldl_append, absorbed,
        Toggle.foldl_drop_moment first changes before]
  | replayed opened records result events reports =>
      obtain ⟨pure, absorbed⟩ :=
        Toggle.absorb_reports reports (Toggle.moment first changes opened)
      refine ⟨.initial :: records.map .inserted, events, rfl, ?_, pure, ?_⟩
      · intro event member
        rcases List.mem_cons.mp member with rfl | later
        · exact .inl rfl
        · obtain ⟨record, _, rfl⟩ := List.mem_map.mp later
          exact .inr rfl
      · rw [List.foldl_cons, FeedEvent.absorb, FeedEvent.absorb_inserted, result.withRecords,
          absorbed, Toggle.foldl_drop_moment first changes (Nat.le_refl opened)]

/-- **Race absorption.** Whatever moments of the history a result and a changefeed show that
together cover it, whenever the items arrive, and wherever the feed becomes ready: once the session
has consumed everything and waits, its list holds the keys of the last moment, each of them once.
And a session does come to that point. -/
theorem Rehearsal.bootstrap_absorbs_races (name : String) {primaryKey : String} {board : Board}
    (sound : board.IsSound) (working : board.failure = none) {first : Finset String}
    {changes : List Toggle} {rows : List Json} {script : List FeedEvent}
    (covers : Coverage primaryKey first changes rows script) :
    (∀ (queued pushed : List FeedItem) (final : Rehearsal), queued ++ pushed = script.map .ok →
      (start (.start name primaryKey) board (.ok (rows.map .ok)) none queued).Runs pushed final →
      final.step? = none →
        final.Publishes name (Toggle.moment first changes changes.length)) ∧
    (start (.start name primaryKey) board (.ok (rows.map .ok)) none
      (script.map .ok)).settle.step? = none := by
  refine ⟨fun queued pushed final arrived runs waits => ?_,
    settle_waits sound working name primaryKey _ _⟩
  obtain ⟨early, late, same, unready, pure, absorbed⟩ := covers.absorbed
  obtain ⟨entries, listed, nodup, keys⟩ :=
    Session.tell_bootstrap sound working name primaryKey rows early late unready pure
  rw [← same, ← runs.briefed sound working arrived waits] at listed
  refine ⟨entries, listed, nodup, fun key => ?_⟩
  rw [← absorbed, ← keys, List.mem_toFinset]

/-- The result shows a key that the feed lets in once more, and one that it takes out only after it
is ready. -/
theorem Rehearsal.overlap_absorbed :
    (start (.start "books?" "id") (Board.empty 10)
      (.ok [.ok (.object [("id", .string "a")]), .ok (.object [("id", .string "b")])]) none
      [.ok (.inserted (.object [("id", .string "b")])), .ok .ready,
        .ok (.removed (.object [("id", .string "a")]))]).settle.Publishes "books?"
      (Toggle.moment {"a"} [.enter "b", .leave "a"] 2) := by
  have result : HaveKeys "id"
      [.object [("id", .string "a")], .object [("id", .string "b")]]
      (Toggle.moment {"a"} [.enter "b", .leave "a"] 1) := by
    intro key
    simp [keyOf?, Json.lookup, Json.keyText?, Toggle.moment, Toggle.apply, or_comm, eq_comm]
  have covers : Coverage "id" {"a"} [.enter "b", .leave "a"]
      [.object [("id", .string "a")], .object [("id", .string "b")]]
      ([.inserted (.object [("id", .string "b")])] ++
        .ready :: [.removed (.object [("id", .string "a")])]) :=
    .overlapping 0 1 (by decide) result _ _ (.cons (.enter rfl) (.cons (.leave rfl) .nil))
  have absorbed := bootstrap_absorbs_races "books?" (Board.isSound_empty 10) rfl covers
  exact absorbed.1 _ [] _ (List.append_nil _) (runs_settle _) absorbed.2

end LiveSearch
