import LiveSearch.Proofs.Query.Ranking
import LiveSearch.Proofs.Store.Tracking

/-! # One write shifts a window by at most one pair

A write changes the row of one key. So the rows before and after it have all but one in common, and
the first rows that match have all but one in common too, if rows compare strictly
(`LiveSearch.Selection.picked_near`). Windows that have all but one record in common are compared as
such: at most one record is taken out, and then at most one is let in
(`LiveSearch.Feed.windowEvents_near`). This is all that a feed of an ordered selection with a limit
sends of a write (`LiveSearch.Database.window_shifts`).
-/

namespace LiveSearch

/-- At most one removal and then at most one insertion. -/
def FeedEvent.pair (removed inserted : Option Json) : List FeedEvent :=
  removed.toList.map .removed ++ inserted.toList.map .inserted

/-- A record that a window has lost and one that it has won, if there are such records; it has lost
and won no others. -/
structure IsShift (before after : List Json) (removed inserted : Option Json) : Prop where
  lost : ∀ kept, removed = some kept ↔ kept ∈ before ∧ kept ∉ after
  won : ∀ kept, inserted = some kept ↔ kept ∈ after ∧ kept ∉ before

namespace IsShift

/-- A window that stays as it is loses and wins nothing. -/
theorem refl (window : List Json) : IsShift window window none none where
  lost kept := by simp
  won kept := by simp

/-- Where the records stay the same, none is lost or won. -/
theorem eq_none {before after : List Json} {removed inserted : Option Json}
    (shift : IsShift before after removed inserted) (same : ∀ kept, kept ∈ after ↔ kept ∈ before) :
    removed = none ∧ inserted = none := by
  constructor
  · apply Option.eq_none_iff_forall_ne_some.mpr
    intro kept found
    obtain ⟨inside, outside⟩ := (shift.lost kept).mp found
    exact outside ((same kept).mpr inside)
  · apply Option.eq_none_iff_forall_ne_some.mpr
    intro kept found
    obtain ⟨inside, outside⟩ := (shift.won kept).mp found
    exact outside ((same kept).mp inside)

end IsShift

/-- Two lists of records have all but at most one record each in common. -/
def AreNear (before after : List Json) : Prop :=
  ∃ (common : List Json) (gone come : Option Json),
    before.Perm (gone.toList ++ common) ∧ after.Perm (come.toList ++ common)

theorem AreNear.symm {before after : List Json} (near : AreNear before after) :
    AreNear after before := by
  obtain ⟨common, gone, come, was, is⟩ := near
  exact ⟨common, come, gone, is, was⟩

namespace Json

variable {path : Path} {field : String} {left right : Json} {selection : Selection}

/-- What is kept of records that can be ranked has the same structure only if it is the same. -/
theorem IsRankable.project_eq_of_same (one : left.IsRankable path field)
    (two : right.IsRankable path field) (plucks : selection.primaryKey = some field)
    (equal : (selection.project left).same (selection.project right) = true) :
    selection.project left = selection.project right := by
  obtain ⟨key, found, exact⟩ := one.keyed
  obtain ⟨other, further, fine⟩ := two.keyed
  rw [project_of_field? plucks found, project_of_field? plucks further] at equal ⊢
  simp only [same, sameFields, BEq.rfl, Bool.true_and, Bool.and_true] at equal
  rw [eq_of_same_exactKey exact fine equal]

end Json

namespace Feed

/-- One of two windows that have all but one record in common has at most one record that is not
among those of the other one. -/
theorem exists_only {before after : List Json} (near : AreNear before after) :
    ∃ only : Option Json, (before.filter fun record => !isAmong after record) = only.toList ∧
      ∀ kept, only = some kept ↔ kept ∈ before ∧ isAmong after kept = false := by
  obtain ⟨common, gone, come, was, is⟩ := near
  have known : (common.filter fun record => !isAmong after record) = [] := by
    rw [List.filter_eq_nil_iff]
    intro record member
    have among : isAmong after record = true :=
      isAmong_iff.mpr ⟨record, is.symm.subset (List.mem_append_right _ member), record.same_self⟩
    rw [among]
    exact Bool.false_ne_true
  have same := was.filter fun record => !isAmong after record
  rw [List.filter_append, known, List.append_nil, ← Option.toList_filter] at same
  have single : (before.filter fun record => !isAmong after record) =
      (gone.filter fun record => !isAmong after record).toList := by
    cases kept : gone.filter fun record => !isAmong after record with
    | none =>
        rw [kept] at same
        exact List.perm_nil.mp same
    | some record =>
        rw [kept] at same
        exact List.perm_singleton.mp same
  refine ⟨_, single, ?_⟩
  intro kept
  rw [← Option.mem_toList, ← single, List.mem_filter, Bool.not_eq_true']

/-- Between windows that have all but one record in common, at most one record is taken out, which
is not among the records of the second one, and then at most one is let in, which is not among those
of the first one. -/
theorem windowEvents_near {before after : List Json} (near : AreNear before after) :
    ∃ removed inserted : Option Json,
      windowEvents before after = FeedEvent.pair removed inserted ∧
      (∀ kept, removed = some kept ↔ kept ∈ before ∧ isAmong after kept = false) ∧
      ∀ kept, inserted = some kept ↔ kept ∈ after ∧ isAmong before kept = false := by
  obtain ⟨removed, out, lost⟩ := exists_only near
  obtain ⟨inserted, come, won⟩ := exists_only near.symm
  refine ⟨removed, inserted, ?_, lost, won⟩
  rw [windowEvents, out, come, FeedEvent.pair]

end Feed

namespace Selection

variable {selection : Selection} {path : Path} {direction : Direction} {field : String}
  {count : Nat} {before after : List Json}

/-- Of rows that have all but one in common, an ordered selection with a limit picks rows that have
all but one in common. -/
theorem picked_near (ordered : selection.order = some (path, direction))
    (plucks : selection.primaryKey = some field) (limited : selection.limit = some count)
    (near : AreNear before after)
    (first : Sorting.IsStrict (orderRecords path direction (some field))
      (before.filter selection.accepts))
    (second : Sorting.IsStrict (orderRecords path direction (some field))
      (after.filter selection.accepts)) :
    AreNear (selection.picked before) (selection.picked after) := by
  obtain ⟨shared, old, new, was, is⟩ := near
  have matching {rows : List Json} {own : Option Json} (same : rows.Perm (own.toList ++ shared)) :
      (rows.filter selection.accepts).Perm
        ((own.filter selection.accepts).toList ++ shared.filter selection.accepts) := by
    rw [Option.toList_filter, ← List.filter_append]
    exact same.filter selection.accepts
  obtain ⟨gone, former⟩ := first.take_stable (matching was) count
  obtain ⟨come, latter⟩ := second.take_stable (matching is) count
  rw [AreNear, picked_eq ordered plucks limited, picked_eq ordered plucks limited]
  exact ⟨_, gone, come, former, latter⟩

/-- What is kept of them has all but one record in common too. -/
theorem run_near (near : AreNear (selection.picked before) (selection.picked after)) :
    AreNear (selection.run before) (selection.run after) := by
  obtain ⟨common, gone, come, was, is⟩ := near
  refine ⟨common.map selection.project, gone.map selection.project, come.map selection.project,
    ?_, ?_⟩
  · rw [Option.toList_map, ← List.map_append]
    exact was.map selection.project
  · rw [Option.toList_map, ← List.map_append]
    exact is.map selection.project

/-- Where rows can be ranked, the records that are selected of some rows and are not among those
that are selected of others are the ones that are not selected of the others. -/
theorem mem_run_only_iff (plucks : selection.primaryKey = some field)
    (rankable : ∀ row ∈ before, row.IsRankable path field)
    (still : ∀ row ∈ after, row.IsRankable path field) (kept : Json) :
    kept ∈ selection.run before ∧ isAmong (selection.run after) kept = false ↔
      kept ∈ selection.run before ∧ kept ∉ selection.run after := by
  apply and_congr_right
  intro member
  rw [← Bool.not_eq_true, Feed.isAmong_iff]
  apply not_congr
  constructor
  · rintro ⟨other, further, equal⟩
    obtain ⟨row, picked, rfl⟩ := List.mem_map.mp member
    obtain ⟨another, there, rfl⟩ := List.mem_map.mp further
    have ranked := rankable row (selection.picked_subset picked)
    have present := still another (selection.picked_subset there)
    rw [← present.project_eq_of_same ranked plucks equal]
    exact further
  · intro inside
    exact ⟨kept, inside, kept.same_self⟩

end Selection

/-- Rows of which at most one differs have all but one in common. -/
theorem DifferAt.areNear {key : String} {before after : Std.TreeMap String Json}
    (differ : DifferAt key before after) : AreNear before.values after.values :=
  ⟨(before.erase key).values, before[key]?, after[key]?, values_perm fun _ _ => rfl,
    values_perm differ⟩

/-- Where rows can be ranked and at most one of them differs, a feed of an ordered selection with a
limit sends at most one removal and then at most one insertion. -/
theorem Selection.Sends.exists_shift {selection : Selection} {path : Path} {direction : Direction}
    {field key : String} {count : Nat} {before after : Std.TreeMap String Json}
    {events : List FeedEvent} (sends : selection.Sends before after events)
    (ordered : selection.order = some (path, direction))
    (plucks : selection.primaryKey = some field) (limited : selection.limit = some count)
    (filed : AreFiled field before) (later : AreFiled field after)
    (rankable : ∀ row ∈ before.values, row.IsRankable path field)
    (still : ∀ row ∈ after.values, row.IsRankable path field)
    (differ : DifferAt key before after) :
    ∃ removed inserted, events = FeedEvent.pair removed inserted ∧
      IsShift (selection.run before.values) (selection.run after.values) removed inserted := by
  cases sends with
  | nothing same =>
      subst same
      exact ⟨none, none, rfl, .refl _⟩
  | comparison windowed =>
      have near := Selection.run_near <| Selection.picked_near ordered plucks limited
        differ.areNear (Selection.isStrict_filter rankable filed.nodup_fields direction)
        (Selection.isStrict_filter still later.nodup_fields direction)
      obtain ⟨removed, inserted, sent, lost, won⟩ := Feed.windowEvents_near near
      refine ⟨removed, inserted, sent, ?_, ?_⟩
      · intro kept
        exact (lost kept).trans (Selection.mem_run_only_iff plucks rankable still kept)
      · intro kept
        exact (won kept).trans (Selection.mem_run_only_iff plucks still rankable kept)
  | record unlimited =>
      rw [Selection.isWindowed, limited] at unlimited
      cases unlimited

namespace Database

variable {field name : String} {address limit : Nat} {selection : Selection} {path : Path}
  {direction : Direction} {database : Database} {request : Request}

/-- **One write shifts a window by at most one pair.** In a store that has come about, the reader of
a feed of an ordered selection with a limit, which plucks the key of the store, receives at most one
removal and then at most one insertion when a request is answered that is no fault, if the rows of
the table can be ranked before and after. What is taken out has been selected and is not any more,
and what is let in is selected and has not been; so nothing is received if the same records are
selected. -/
theorem window_shifts (reached : database.IsReachable field)
    (carries : database.Carries address name selection)
    (ordered : selection.order = some (path, direction))
    (plucks : selection.primaryKey = some field) (limited : selection.limit = some limit)
    (proper : request.isFault = false)
    (rankable : ∀ row ∈ (database.table name).rows.values, row.IsRankable path field)
    (still : ∀ row ∈ ((request.perform database).table name).rows.values,
      row.IsRankable path field) :
    let before := selection.run (database.table name).rows.values
    let after := selection.run ((request.perform database).table name).rows.values
    ∃ removed inserted, IsShift before after removed inserted ∧
      (request.perform database).feedRoom.waiting address =
        database.feedRoom.waiting address ++ (FeedEvent.pair removed inserted).map .ok ∧
      ((∀ kept, kept ∈ after ↔ kept ∈ before) →
        (request.perform database).feedRoom.waiting address =
          database.feedRoom.waiting address) := by
  intro before after
  obtain ⟨primaryKey, tidy, filed⟩ := reached.invariants
  have spares : (Act.request request).Spares name address := by
    cases request with
    | breakFeeds other failure => exact nomatch proper
    | _ => trivial
  have feed : database.HasFeed field address name selection := ⟨primaryKey, tidy, filed, carries⟩
  have answer : Answer (fun _ => True) database request.isFault (request.perform database) :=
    database.perform_answer request fun _ _ => trivial
  obtain ⟨key, differ⟩ := answer.differAt name
  obtain ⟨events, sends, received⟩ := (carries.act tidy spares).sent
  obtain ⟨removed, inserted, rfl, shift⟩ := sends.exists_shift ordered plucks limited feed.areFiled
    (feed.act spares).areFiled rankable still differ
  refine ⟨removed, inserted, shift, received, ?_⟩
  intro same
  obtain ⟨rfl, rfl⟩ := shift.eq_none same
  exact received.trans (List.append_nil _)

/-- The store with one book, when a feed of the newest book has been opened. -/
def watchedBook : Database := ((oneBook (.nat 1)).subscribe (newestBook.plan "ds_id")).1

/-- A newer book comes, whose key is a string. -/
def laterBook : Request := .insert "books" (book (.string "2") 1615)

/-- When a newer book comes, the reader receives the removal of the older one and then the insertion
of the newer one. -/
theorem window_shifts_laterBook : watchedBook.IsReachable "ds_id" ∧
    watchedBook.Carries 0 "books" newest ∧
    (laterBook.perform watchedBook).feedRoom.waiting 0 = watchedBook.feedRoom.waiting 0 ++
      [.ok (.removed (.object [("ds_id", .nat 1)])),
        .ok (.inserted (.object [("ds_id", .string "2")]))] := by
  have reached : watchedBook.IsReachable "ds_id" :=
    ⟨[.request (.insert "books" (book (.nat 1) 1605)), .subscribe (newestBook.plan "ds_id")], rfl⟩
  have granted : ((oneBook (.nat 1)).subscribe (newestBook.plan "ds_id")).2 = .ok 0 := rfl
  have carries : watchedBook.Carries 0 "books" newest := by
    obtain ⟨selection, selected, carries, _⟩ := subscribe_carries granted
    obtain rfl := Option.some.inj (selection_newestBook.symm.trans selected)
    exact carries
  obtain ⟨removed, inserted, shift, received, _⟩ :=
    window_shifts reached carries rfl rfl rfl (rfl : laterBook.isFault = false)
      (by decide +kernel) (by decide +kernel)
  have before : newest.run (watchedBook.table "books").rows.values =
      [.object [("ds_id", .nat 1)]] := rfl
  have after : newest.run ((laterBook.perform watchedBook).table "books").rows.values =
      [.object [("ds_id", .string "2")]] := rfl
  rw [before, after] at shift
  obtain rfl := (shift.lost (.object [("ds_id", .nat 1)])).mpr (by simp [Json.nat])
  obtain rfl := (shift.won (.object [("ds_id", .string "2")])).mpr (by simp [Json.nat])
  exact ⟨reached, carries, received⟩

end Database

end LiveSearch
