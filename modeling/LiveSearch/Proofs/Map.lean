import Std.Data.TreeMap

/-! # What a map holds

Boards, mailrooms, stores and registries are maps whose keys are equal when they compare as equal.
The values of a map are what is found under its keys (`LiveSearch.mem_values`), and what is found
behind a change has been put there by the change, or has been there before
(`LiveSearch.lookup_insert_cases`, `LiveSearch.lookup_erase_cases`). The values of a map that differs
from another one under one key are those of the other one, but for that key
(`LiveSearch.values_perm`).
-/

namespace LiveSearch

variable {α β : Type} [Ord α]

theorem values_eq (map : Std.TreeMap α β) : map.values = map.toList.map Prod.snd := by
  have folded : map.values = map.foldr (fun _ value values => value :: values) [] := rfl
  rw [folded, Std.TreeMap.foldr_eq_foldr_toList]
  induction map.toList with
  | nil => rfl
  | cons row rest ih => rw [List.foldr_cons, ih, List.map_cons]

variable [Std.TransOrd α] [Std.LawfulEqOrd α] {map : Std.TreeMap α β}

theorem mem_values {value : β} : value ∈ map.values ↔ ∃ key : α, map[key]? = some value := by
  rw [values_eq, List.mem_map]
  constructor
  · rintro ⟨⟨key, other⟩, member, rfl⟩
    exact ⟨key, Std.TreeMap.mem_toList_iff_getElem?_eq_some.mp member⟩
  · rintro ⟨key, found⟩
    exact ⟨(key, value), Std.TreeMap.mem_toList_iff_getElem?_eq_some.mpr found, rfl⟩

section Changes

variable [DecidableEq α] {key other : α} {value found : β}

theorem lookup_insert :
    (map.insert key value)[other]? = if key = other then some value else map[other]? := by
  simp only [Std.TreeMap.getElem?_insert, Std.LawfulEqCmp.compare_eq_iff_eq]

theorem lookup_erase : (map.erase key)[other]? = if key = other then none else map[other]? := by
  simp only [Std.TreeMap.getElem?_erase, Std.LawfulEqCmp.compare_eq_iff_eq]

/-- What is found after an insertion has been inserted, or has been there before. -/
theorem lookup_insert_cases (present : (map.insert key value)[other]? = some found) :
    key = other ∧ found = value ∨ key ≠ other ∧ map[other]? = some found := by
  rw [lookup_insert] at present
  by_cases same : key = other
  · rw [if_pos same] at present
    exact .inl ⟨same, (Option.some.inj present).symm⟩
  · rw [if_neg same] at present
    exact .inr ⟨same, present⟩

/-- What is found after a removal has been there before, under another key. -/
theorem lookup_erase_cases (present : (map.erase key)[other]? = some found) :
    key ≠ other ∧ map[other]? = some found := by
  rw [lookup_erase] at present
  by_cases same : key = other
  · rw [if_pos same] at present
    cases present
  · rw [if_neg same] at present
    exact ⟨same, present⟩

/-- The values are what is found under a key and what another map has under all other keys, if the
maps differ there only. -/
theorem values_perm {before after : Std.TreeMap α β}
    (differ : ∀ other, key ≠ other → after[other]? = before[other]?) :
    after.values.Perm (after[key]?.toList ++ (before.erase key).values) := by
  have rows : after.toList.Perm
      (after[key]?.toList.map (Prod.mk key) ++ (before.erase key).toList) := by
    have nodup (map : Std.TreeMap α β) : map.toList.Nodup :=
      map.distinct_keys_toList.imp fun differ same =>
        differ (Std.LawfulEqCmp.compare_eq_iff_eq.mpr (congrArg Prod.fst same))
    rw [List.perm_ext_iff_of_nodup (nodup after)]
    · rintro ⟨other, value⟩
      rw [List.mem_append, Std.TreeMap.mem_toList_iff_getElem?_eq_some,
        Std.TreeMap.mem_toList_iff_getElem?_eq_some, lookup_erase]
      by_cases same : key = other
      · subst same
        simp
      · simp [same, differ other same]
    · refine List.nodup_append.mpr ⟨?_, nodup _, ?_⟩
      · cases after[key]? <;> simp
      · rintro _ one ⟨other, value⟩ two rfl
        obtain ⟨_, _, same⟩ := List.mem_map.mp one
        rw [← (Prod.mk.inj same).1, Std.TreeMap.mem_toList_iff_getElem?_eq_some, lookup_erase,
          if_pos rfl] at two
        exact nomatch two
  rw [values_eq, values_eq]
  have mapped := rows.map Prod.snd
  rw [List.map_append, List.map_map] at mapped
  exact mapped.trans (.of_eq (congrArg (· ++ _) (List.map_id _)))

end Changes

end LiveSearch
