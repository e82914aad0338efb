import Mathlib.Data.List.Nodup
import Mathlib.Data.List.Perm.Subperm
import Mathlib.Data.Finset.Basic
import Mathlib.Data.Finset.Dedup
import LiveSearch.Proofs.Query.Sorting
import LiveSearch.Query.Selection
import LiveSearch.Store.Record

/-! # The keys that a selection picks

A record is filed under the text of its key (`LiveSearch.Json.IsFiled`). What a selection keeps of
filed records is compared by the values of their keys, and values that are equal have the same text
unless they are zeros: minus zero equals zero, but is written differently. So what is kept of two
records is equal only if they have the same key or both have the key zero
(`LiveSearch.Json.IsPlucked.key_of_same`). A row is a filed record whose key is not minus zero
(`LiveSearch.Json.IsRow`).
-/

namespace LiveSearch

namespace Json

/-- The number minus zero. -/
def isMinusZero : Json → Bool
  | number (.float value) => value.negative && value.rank == 0
  | _ => false

/-- A zero that is no integer, with either sign. -/
def isZero : Json → Bool
  | number (.float value) => value.rank == 0
  | _ => false

/-- A record whose key is not minus zero. -/
def HasPlainKey (field : String) (record : Json) : Prop :=
  ∀ value, record.field? field = some value → value.isMinusZero = false

/-- A record whose key is zero. -/
def hasZeroKey (field : String) (record : Json) : Bool := (record.field? field).any isZero

/-- A record that is filed under this key: an object whose key field holds a value with this
text. -/
def IsFiled (field key : String) (record : Json) : Prop :=
  ∃ fields value, record = object fields ∧ lookup field fields = some value ∧
    value.keyText? = some key

/-- A row with this key: it is filed under the key, which is not minus zero. -/
structure IsRow (field key : String) (record : Json) : Prop where
  filed : record.IsFiled field key
  plain : record.HasPlainKey field

/-- What is kept of a record that is filed under this key: its key field alone. -/
def IsPlucked (field key : String) (kept : Json) : Prop :=
  ∃ value : Json, value.keyText? = some key ∧ kept = object [(field, value)]

section Values

variable {left right : Json}

theorem eq_of_isZero (zero : left.isZero = true) :
    ∃ value : Binary64, left = number (.float value) ∧ value.rank = 0 := by
  unfold isZero at zero
  split at zero
  · exact ⟨_, rfl, beq_iff_eq.mp zero⟩
  · exact absurd zero Bool.false_ne_true

/-- All zeros are equal. -/
theorem same_of_isZero (first : left.isZero = true) (second : right.isZero = true) :
    left.same right = true := by
  obtain ⟨value, rfl, zero⟩ := eq_of_isZero first
  obtain ⟨another, rfl, otherZero⟩ := eq_of_isZero second
  simp only [Json.same, Number.same, Binary64.sameValue, zero, otherZero, BEq.rfl, Bool.or_true,
    Bool.and_true]

/-- Only a zero equals a zero. -/
theorem isZero_of_same (same : left.same right = true) : left.isZero = right.isZero := by
  cases left with
  | number first =>
      cases right with
      | number second =>
          cases first with
          | integer value =>
              cases second with
              | integer another => rfl
              | float another => exact absurd same Bool.false_ne_true
          | float value =>
              cases second with
              | integer another => exact absurd same Bool.false_ne_true
              | float another =>
                  simp only [Json.same, Number.same, Binary64.sameValue, Bool.and_eq_true,
                    beq_iff_eq] at same
                  simp only [isZero, same.1]
      | _ => exact absurd same Bool.false_ne_true
  | _ => cases right <;> first | rfl | exact absurd same Bool.false_ne_true

/-- Equal values have the same text unless they are zeros. -/
theorem keyText_of_same (same : left.same right = true) (nonzero : left.isZero = false) :
    left.keyText? = right.keyText? := by
  cases left with
  | number first =>
      cases right with
      | number second =>
          cases first with
          | integer value =>
              cases second with
              | integer another =>
                  have equal : value = another := by
                    simpa only [Json.same, Number.same, beq_iff_eq] using same
                  rw [equal]
              | float another => exact absurd same Bool.false_ne_true
          | float value =>
              cases second with
              | integer another => exact absurd same Bool.false_ne_true
              | float another =>
                  have equal : value = another := by
                    obtain ⟨negative, rank, finite⟩ := value
                    obtain ⟨otherNegative, otherRank, otherFinite⟩ := another
                    simp only [Json.same, Number.same, Binary64.sameValue, Bool.and_eq_true,
                      Bool.or_eq_true, beq_iff_eq] at same
                    simp only [isZero, beq_eq_false_iff_ne] at nonzero
                    obtain ⟨rfl, signs⟩ := same
                    rw [signs.resolve_right nonzero]
                  rw [equal]
      | _ => exact absurd same Bool.false_ne_true
  | string text =>
      cases right with
      | string another =>
          have equal : text = another := by
            simpa only [Json.same, beq_iff_eq] using same
          rw [equal]
      | _ => exact absurd same Bool.false_ne_true
  | _ => cases right <;> first | rfl | exact absurd same Bool.false_ne_true

/-- Zeros have the same text unless one of them is minus zero. -/
theorem keyText_of_isZero (first : left.isZero = true) (second : right.isZero = true)
    (plain : left.isMinusZero = false) (other : right.isMinusZero = false) :
    left.keyText? = right.keyText? := by
  obtain ⟨⟨negative, rank, finite⟩, rfl, rfl⟩ := eq_of_isZero first
  obtain ⟨⟨otherNegative, otherRank, otherFinite⟩, rfl, rfl⟩ := eq_of_isZero second
  simp only [isMinusZero, BEq.rfl, Bool.and_true] at plain other
  rw [plain, other]

end Values

variable {field key : String} {record : Json}

/-- A filed record is an object that is listed under its key. -/
theorem isFiled_iff :
    record.IsFiled field key ↔ record.isObject = true ∧ keyOf? field record = some key := by
  constructor
  · rintro ⟨fields, value, rfl, found, keyed⟩
    exact ⟨rfl, by rw [keyOf?, found, Option.bind_some, keyed]⟩
  · rintro ⟨object, listed⟩
    cases record with
    | object fields =>
        obtain ⟨value, found, keyed⟩ := Option.bind_eq_some_iff.mp listed
        exact ⟨fields, value, rfl, found, keyed⟩
    | _ => exact absurd object Bool.false_ne_true

theorem IsFiled.keyOf (filed : record.IsFiled field key) : keyOf? field record = some key :=
  (isFiled_iff.mp filed).2

section Projection

variable {selection : Selection} (plucks : selection.primaryKey = some field)

include plucks

/-- Only the key field of a record is kept. -/
theorem project_of_field? {value : Json} (found : record.field? field = some value) :
    selection.project record = object [(field, value)] := by
  rw [Selection.project, plucks]
  simp only [projectFields, found, List.filterMap_cons, List.filterMap_nil, Option.map_some,
    ofFields, List.foldl_cons, List.foldl_nil, insertField]

/-- What is kept of a record has the key field that the record has. -/
theorem field?_project (record : Json) :
    (selection.project record).field? field = record.field? field := by
  cases found : record.field? field with
  | some value => rw [project_of_field? plucks found, field?, lookup, if_pos rfl]
  | none =>
      have kept : selection.project record = object [] := by
        rw [Selection.project, plucks]
        simp only [projectFields, found, List.filterMap_cons, List.filterMap_nil, Option.map_none,
          ofFields, List.foldl_nil]
      rw [kept, field?, lookup]

end Projection

/-- What is kept of a filed record is its key field. -/
theorem IsFiled.project (filed : record.IsFiled field key) {selection : Selection}
    (plucks : selection.primaryKey = some field) :
    (selection.project record).IsPlucked field key ∧
      (selection.project record).field? field = record.field? field := by
  obtain ⟨fields, value, rfl, found, keyed⟩ := filed
  exact ⟨⟨value, keyed, project_of_field? plucks found⟩, field?_project plucks (object fields)⟩

namespace IsPlucked

variable {other : String} {left right : Json}

theorem keyOf (plucked : left.IsPlucked field key) : keyOf? field left = some key := by
  obtain ⟨value, keyed, rfl⟩ := plucked
  rw [keyOf?, lookup, if_pos rfl, Option.bind_some, keyed]

/-- What is kept of two records is compared by the values of their keys. -/
private theorem compare (plucked : left.IsPlucked field key)
    (further : right.IsPlucked field other) : ∃ value another : Json,
      value.keyText? = some key ∧ another.keyText? = some other ∧
        left.hasZeroKey field = value.isZero ∧ right.hasZeroKey field = another.isZero ∧
          left.same right = value.same another := by
  obtain ⟨value, keyed, rfl⟩ := plucked
  obtain ⟨another, otherKeyed, rfl⟩ := further
  refine ⟨value, another, keyed, otherKeyed, ?_, ?_, ?_⟩
  · rw [hasZeroKey, field?, lookup, if_pos rfl, Option.any_some]
  · rw [hasZeroKey, field?, lookup, if_pos rfl, Option.any_some]
  · simp only [Json.same, sameFields, beq_self_eq_true, Bool.true_and, Bool.and_true]

/-- What is kept of two records is equal only if they have the same key or the key zero. -/
theorem key_of_same (plucked : left.IsPlucked field key) (further : right.IsPlucked field other)
    (same : left.same right = true) (nonzero : left.hasZeroKey field = false) : key = other := by
  obtain ⟨value, another, keyed, otherKeyed, zero, _, first⟩ := plucked.compare further
  have texts := keyText_of_same (first ▸ same) (zero ▸ nonzero)
  rw [keyed, otherKeyed] at texts
  exact Option.some.inj texts

theorem hasZeroKey_of_same (plucked : left.IsPlucked field key)
    (further : right.IsPlucked field other) (same : left.same right = true) :
    left.hasZeroKey field = right.hasZeroKey field := by
  obtain ⟨value, another, _, _, zero, otherZero, first⟩ := plucked.compare further
  rw [zero, otherZero, isZero_of_same (first ▸ same)]

theorem same_of_hasZeroKey (plucked : left.IsPlucked field key)
    (further : right.IsPlucked field other) (zero : left.hasZeroKey field = true)
    (otherZero : right.hasZeroKey field = true) : left.same right = true := by
  obtain ⟨value, another, _, _, first, second, equal⟩ := plucked.compare further
  rw [equal, same_of_isZero (first ▸ zero) (second ▸ otherZero)]

/-- Keys that are zero have the same text unless one of them is minus zero. -/
theorem key_of_hasZeroKey (plucked : left.IsPlucked field key)
    (further : right.IsPlucked field other) (plain : left.HasPlainKey field)
    (otherPlain : right.HasPlainKey field) (zero : left.hasZeroKey field = true)
    (otherZero : right.hasZeroKey field = true) : key = other := by
  obtain ⟨value, keyed, rfl⟩ := plucked
  obtain ⟨another, otherKeyed, rfl⟩ := further
  have first : (object [(field, value)]).field? field = some value := if_pos rfl
  have second : (object [(field, another)]).field? field = some another := if_pos rfl
  rw [hasZeroKey, first, Option.any_some] at zero
  rw [hasZeroKey, second, Option.any_some] at otherZero
  have texts := keyText_of_isZero zero otherZero (plain value first) (otherPlain another second)
  rw [keyed, otherKeyed] at texts
  exact Option.some.inj texts

end IsPlucked

end Json

/-- The keys of records. -/
def keysOf (field : String) (records : List Json) : Finset String :=
  (records.filterMap (keyOf? field)).toFinset

theorem mem_keysOf {field key : String} {records : List Json} :
    key ∈ keysOf field records ↔ ∃ record ∈ records, keyOf? field record = some key := by
  rw [keysOf, List.mem_toFinset, List.mem_filterMap]

namespace Selection

variable (selection : Selection)

/-- The records that a selection picks, in its order. -/
def picked (records : List Json) : List Json :=
  selection.cut (selection.sort (records.filter selection.accepts))

theorem sort_perm (records : List Json) : (selection.sort records).Perm records := by
  unfold sort
  split
  · exact Sorting.stable_perm _ records
  · exact .refl _

theorem picked_subperm (records : List Json) : (selection.picked records).Subperm records := by
  have cut : (selection.picked records).Sublist
      (selection.sort (records.filter selection.accepts)) := by
    unfold picked Selection.cut
    split
    · exact List.take_sublist _ _
    · exact .refl _
  exact (cut.subperm.trans (selection.sort_perm _).subperm).trans List.filter_sublist.subperm

/-- What differs between records differs between those that are picked. -/
theorem nodup_map_picked {α : Type} {records : List Json} {value : Json → α}
    (distinct : (records.map value).Nodup) : ((selection.picked records).map value).Nodup := by
  obtain ⟨others, equal, sub⟩ := selection.picked_subperm records
  exact (equal.map value).nodup_iff.mp (distinct.sublist (sub.map value))

/-- Without a limit every record that passes the tests is picked. -/
theorem mem_picked {selection : Selection} (unlimited : selection.isWindowed = false)
    (records : List Json) (record : Json) :
    record ∈ selection.picked records ↔ record ∈ records ∧ selection.accepts record = true := by
  have all : selection.picked records = selection.sort (records.filter selection.accepts) := by
    unfold picked Selection.cut
    cases limit : selection.limit with
    | none => rfl
    | some count =>
        rw [isWindowed, limit] at unlimited
        exact absurd unlimited.symm Bool.false_ne_true
  rw [all, (selection.sort_perm _).mem_iff, List.mem_filter]

/-- The keys of a result. -/
def keys (field : String) (records : List Json) : Finset String :=
  keysOf field (selection.run records)

end Selection

end LiveSearch
