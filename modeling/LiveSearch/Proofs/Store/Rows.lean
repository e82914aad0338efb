import Mathlib.Data.Finset.Card
import LiveSearch.Proofs.Map
import LiveSearch.Proofs.Store.Keys
import LiveSearch.Store.Table

/-! # The rows of a table

Rows are stored under their keys (`LiveSearch.AreFiled`), so they have different keys, and what a
selection keeps of them is a window of records with different keys
(`LiveSearch.Selection.isWindow_run`). The keys of this window are those of the rows that the
selection picks (`LiveSearch.Selection.mem_keys`).
-/

namespace LiveSearch

/-- Every record is stored under its key. -/
def AreFiled (field : String) (rows : Std.TreeMap String Json) : Prop :=
  ∀ (key : String) (record : Json), rows[key]? = some record → record.IsFiled field key

/-- Every record is stored under its key, which is not minus zero. -/
def AreKeyed (field : String) (rows : Std.TreeMap String Json) : Prop :=
  ∀ (key : String) (record : Json), rows[key]? = some record → record.IsRow field key

/-- At most the row of one key differs. -/
def DifferAt (key : String) (before after : Std.TreeMap String Json) : Prop :=
  ∀ other, key ≠ other → after[other]? = before[other]?

theorem AreKeyed.filed {field : String} {rows : Std.TreeMap String Json}
    (keyed : AreKeyed field rows) : AreFiled field rows :=
  fun key record found => (keyed key record found).filed

/-- Rows have different keys. -/
theorem AreFiled.nodup_keys {field : String} {rows : Std.TreeMap String Json}
    (filed : AreFiled field rows) : (rows.values.map (keyOf? field)).Nodup := by
  rw [values_eq, List.map_map]
  have same : ∀ row ∈ rows.toList, (keyOf? field ∘ Prod.snd) row = some row.1 := fun row member =>
    (filed row.1 row.2 (Std.TreeMap.mem_toList_iff_getElem?_eq_some.mp member)).keyOf
  rw [List.map_congr_left same]
  have distinct := rows.distinct_keys_toList
  refine List.Pairwise.map _ (fun left right different equal => different ?_) distinct
  exact Std.LawfulEqCmp.compare_eq_iff_eq.mpr (Option.some.inj equal)

/-- Filed records differ in their key fields. -/
theorem AreFiled.nodup_fields {field : String} {rows : Std.TreeMap String Json}
    (filed : AreFiled field rows) : (rows.values.map (Json.field? field)).Nodup := by
  have under {record : Json} (member : record ∈ rows.values) :
      keyOf? field record = (record.field? field).bind Json.keyText? := by
    obtain ⟨key, found⟩ := mem_values.mp member
    obtain ⟨fields, value, rfl, _⟩ := filed key record found
    rfl
  apply List.pairwise_map.mpr
  apply (List.pairwise_map.mp filed.nodup_keys).imp_of_mem
  intro left right one two differ equal
  apply differ
  rw [under one, under two, equal]

/-- The records of a window: each is the key field of a record, and no two have the same key. -/
structure IsWindow (field : String) (window : List Json) : Prop where
  plucked : ∀ kept ∈ window, ∃ key, kept.IsPlucked field key
  nodup : (window.map (keyOf? field)).Nodup

namespace IsWindow

variable {field : String} {window : List Json}

/-- Equal keys mean the same record. -/
theorem eq_of_keyOf (is : IsWindow field window) {left right : Json} (first : left ∈ window)
    (second : right ∈ window) (same : keyOf? field left = keyOf? field right) : left = right :=
  List.inj_on_of_nodup_map is.nodup first second same

end IsWindow

namespace Selection

variable {selection : Selection} {field : String} {rows : Std.TreeMap String Json}

theorem picked_subset (selection : Selection) {records : List Json} {record : Json}
    (picked : record ∈ selection.picked records) : record ∈ records := by
  obtain ⟨others, same, sub⟩ := selection.picked_subperm records
  exact sub.subset (same.mem_iff.mpr picked)

/-- What is kept of a row has its key. -/
theorem project_of_picked (filed : AreFiled field rows) (plucks : selection.primaryKey = some field)
    {record : Json} (picked : record ∈ selection.picked rows.values) :
    ∃ key, rows[key]? = some record ∧ record.IsFiled field key ∧
      (selection.project record).IsPlucked field key := by
  obtain ⟨key, found⟩ := mem_values.mp (selection.picked_subset picked)
  have under := filed key record found
  exact ⟨key, found, under, (under.project plucks).1⟩

/-- What a selection keeps of rows is a window. -/
theorem isWindow_run (filed : AreFiled field rows) (plucks : selection.primaryKey = some field) :
    IsWindow field (selection.run rows.values) where
  plucked kept member := by
    obtain ⟨record, picked, rfl⟩ := List.mem_map.mp member
    obtain ⟨key, _, _, plucked⟩ := project_of_picked filed plucks picked
    exact ⟨key, plucked⟩
  nodup := by
    change (((selection.picked rows.values).map selection.project).map (keyOf? field)).Nodup
    have same : ∀ record ∈ selection.picked rows.values,
        (keyOf? field ∘ selection.project) record = keyOf? field record := by
      intro record picked
      obtain ⟨key, _, under, plucked⟩ := project_of_picked filed plucks picked
      exact plucked.keyOf.trans under.keyOf.symm
    rw [List.map_map, List.map_congr_left same]
    exact selection.nodup_map_picked filed.nodup_keys

/-- A key is in a result if the selection picks the row of the key. -/
theorem mem_keys (filed : AreFiled field rows) (plucks : selection.primaryKey = some field)
    {key : String} : key ∈ selection.keys field rows.values ↔
      ∃ record, rows[key]? = some record ∧ record ∈ selection.picked rows.values := by
  rw [keys, mem_keysOf]
  constructor
  · rintro ⟨kept, member, equal⟩
    obtain ⟨record, picked, rfl⟩ := List.mem_map.mp member
    obtain ⟨other, found, _, plucked⟩ := project_of_picked filed plucks picked
    rw [plucked.keyOf] at equal
    exact ⟨record, Option.some.inj equal ▸ found, picked⟩
  · rintro ⟨record, found, picked⟩
    refine ⟨selection.project record, List.mem_map_of_mem picked, ?_⟩
    exact ((filed key record found).project plucks).1.keyOf

/-- Without a limit a key is in the result if its row passes the tests. -/
theorem mem_keys_unlimited (filed : AreFiled field rows)
    (plucks : selection.primaryKey = some field) (unlimited : selection.isWindowed = false)
    {key : String} : key ∈ selection.keys field rows.values ↔
      ∃ record, rows[key]? = some record ∧ selection.accepts record = true := by
  rw [mem_keys filed plucks]
  constructor
  · rintro ⟨record, found, picked⟩
    exact ⟨record, found, ((mem_picked unlimited _ _).mp picked).2⟩
  · rintro ⟨record, found, accepted⟩
    exact ⟨record, found, (mem_picked unlimited _ _).mpr ⟨mem_values.mpr ⟨key, found⟩, accepted⟩⟩

/-- With a limit a result has at most as many keys. -/
theorem card_keys_le {limit : Nat} (limited : selection.limit = some limit) (records : List Json) :
    (selection.keys field records).card ≤ limit := by
  have short : (selection.run records).length ≤ limit := by
    rw [run, List.length_map, cut, limited]
    exact List.length_take_le _ _
  exact (List.toFinset_card_le _).trans ((List.length_filterMap_le _ _).trans short)

end Selection

end LiveSearch
