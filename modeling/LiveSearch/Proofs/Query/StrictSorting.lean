import LiveSearch.Proofs.Query.Sorting

/-! # Sorting by a strict comparison

A comparison is strict among items if it is lawful and no two of them compare as equal. Then there
is one ascending list of the items only (`LiveSearch.Sorting.IsStrict.stable_eq`), whatever order
they come in, and its first items are below all others (`LiveSearch.Sorting.IsStrict.isTop_take`).
An additional item is put somewhere between the others (`LiveSearch.Sorting.IsStrict.stable_cons`),
so the first items with it and without it have all but one in common
(`LiveSearch.Sorting.IsStrict.take_stable`).
-/

namespace LiveSearch

namespace Sorting

variable {α β : Type} {order : α → α → Ordering} {items others : List α}

namespace IsLawful

/-- What comes before an item comes before all that the item does not come behind. -/
theorem lt_of_lt_of_ne_gt (lawful : IsLawful order items) {first second third : α}
    (one : first ∈ items) (two : second ∈ items) (three : third ∈ items)
    (less : order first second = .lt) (notAbove : order second third ≠ .gt) :
    order first third = .lt := by
  rw [← lawful.gt_iff] at less ⊢
  by_contra reached
  exact lawful.trans second two third three first one notAbove reached less

/-- What does not come behind an item comes before all that the item comes before. -/
theorem lt_of_ne_gt_of_lt (lawful : IsLawful order items) {first second third : α}
    (one : first ∈ items) (two : second ∈ items) (three : third ∈ items)
    (notAbove : order first second ≠ .gt) (less : order second third = .lt) :
    order first third = .lt := by
  rw [← lawful.gt_iff] at less ⊢
  by_contra reached
  exact lawful.trans third three first one second two reached notAbove less

/-- The opposite comparison is lawful too. -/
theorem opposite (lawful : IsLawful order items) :
    IsLawful (fun left right => (order left right).swap) items where
  swap left right := by rw [lawful.swap left right]
  trans first one second two third three low high := by
    simp only [← lawful.swap] at low high ⊢
    exact lawful.trans third three second two first one high low

/-- Items can be compared by what they are mapped to. -/
theorem comap {known : List β} {value : β → α} (lawful : IsLawful order (known.map value)) :
    IsLawful (fun left right => order (value left) (value right)) known where
  swap left right := lawful.swap (value left) (value right)
  trans _ one _ two _ three :=
    lawful.trans _ (List.mem_map_of_mem one) _ (List.mem_map_of_mem two) _
      (List.mem_map_of_mem three)

/-- A lawful comparison can decide between items that another one does not tell apart. -/
theorem andThen {further : α → α → Ordering} (lawful : IsLawful order items)
    (second : IsLawful further items) :
    IsLawful (fun left right => (order left right).then (further left right)) items where
  swap left right := by
    rw [Ordering.swap_then, ← lawful.swap, ← second.swap]
  trans left one middle two right three low high := by
    change (order left right).then (further left right) ≠ .gt
    have parts {first last : Ordering} (notAbove : first.then last ≠ .gt) :
        first = .lt ∨ first = .eq ∧ last ≠ .gt := by
      cases first with
      | lt => exact .inl rfl
      | eq => exact .inr ⟨rfl, notAbove⟩
      | gt => exact absurd rfl notAbove
    rcases parts low with less | ⟨same, low⟩
    · have notAbove : order middle right ≠ .gt := by
        rcases parts high with less | ⟨same, _⟩ <;> simp [*]
      rw [lawful.lt_of_lt_of_ne_gt one two three less notAbove]
      exact nofun
    · rcases parts high with less | ⟨level, high⟩
      · rw [lawful.lt_of_ne_gt_of_lt one two three (by simp [same]) less]
        exact nofun
      · rw [lawful.eq_trans one two three same level]
        exact second.trans left one middle two right three low high

end IsLawful

/-- A comparison is lawful among some items and tells any two of them apart. -/
structure IsStrict (order : α → α → Ordering) (items : List α) : Prop
    extends IsLawful order items where
  distinct : items.Pairwise fun left right => order left right ≠ .eq

/-- Each item comes before those behind it. -/
def IsAscending (order : α → α → Ordering) (items : List α) : Prop :=
  items.Pairwise fun left right => order left right = .lt

/-- Some items are cut into as many first ones as are wanted and the rest: together they ascend, and
each of the rest compares as greater than each of the first ones. -/
structure IsTop (order : α → α → Ordering) (count : Nat) (items first rest : List α) : Prop where
  perm : (first ++ rest).Perm items
  ascending : IsAscending order (first ++ rest)
  length : first.length = min count items.length
  above : ∀ inside ∈ first, ∀ outside ∈ rest, order outside inside = .gt

namespace IsStrict

theorem sublist (strict : IsStrict order items) (sub : others.Sublist items) :
    IsStrict order others where
  toIsLawful := strict.toIsLawful.mono sub.subset
  distinct := strict.distinct.sublist sub

theorem perm (strict : IsStrict order items) (same : others.Perm items) :
    IsStrict order others where
  toIsLawful := strict.toIsLawful.mono same.subset
  distinct := (same.symm.pairwise strict.distinct fun differ equal =>
    differ ((strict.eq_comm _ _).mp equal))

/-- Sorting makes the items ascend. -/
theorem isAscending_stable (strict : IsStrict order items) :
    IsAscending order (stable (fun left right => order left right == .lt) items) := by
  have sorted := isStablySorted strict.toIsLawful
  have distinct := (strict.perm sorted.perm).distinct
  apply (sorted.ordered.and distinct).imp
  rintro left right ⟨notAbove, differ⟩
  cases compared : order left right with
  | lt => rfl
  | eq => exact absurd compared differ
  | gt => exact absurd compared notAbove

/-- Sorting gives the one ascending list of the items. -/
theorem stable_eq (strict : IsStrict order items) {sorted : List α}
    (ascending : IsAscending order sorted) (same : sorted.Perm items) :
    stable (fun left right => order left right == .lt) items = sorted := by
  refine List.Perm.eq_of_pairwise ?_ strict.isAscending_stable ascending
    ((stable_perm _ items).trans same.symm)
  intro left right _ _ below above
  rw [strict.swap, above] at below
  exact nomatch below

/-- It does not matter in which order the items come. -/
theorem stable_congr (strict : IsStrict order items) (same : others.Perm items) :
    stable (fun left right => order left right == .lt) others =
      stable (fun left right => order left right == .lt) items :=
  (strict.perm same).stable_eq strict.isAscending_stable ((stable_perm _ items).trans same.symm)

/-- The first sorted items are the least ones. -/
theorem isTop_take (strict : IsStrict order items) (count : Nat) :
    IsTop order count items
      ((stable (fun left right => order left right == .lt) items).take count)
      ((stable (fun left right => order left right == .lt) items).drop count) where
  perm := by
    rw [List.take_append_drop]
    exact stable_perm _ items
  ascending := by
    rw [List.take_append_drop]
    exact strict.isAscending_stable
  length := by rw [List.length_take, (stable_perm _ items).length_eq]
  above inside one outside two := by
    have ascending := strict.isAscending_stable
    rw [← List.take_append_drop count (stable _ items)] at ascending
    rw [strict.gt_iff]
    exact (List.pairwise_append.mp ascending).2.2 inside one outside two

/-- An additional item is put somewhere between the others. -/
theorem stable_cons {item : α} (strict : IsStrict order (item :: others)) :
    ∃ low high, stable (fun left right => order left right == .lt) (item :: others) =
        low ++ item :: high ∧
      stable (fun left right => order left right == .lt) others = low ++ high := by
  have same := stable_perm (fun left right => order left right == .lt) (item :: others)
  obtain ⟨low, high, cut⟩ := List.append_of_mem (same.mem_iff.mpr List.mem_cons_self)
  refine ⟨low, high, cut, ?_⟩
  have ascending := strict.isAscending_stable
  rw [cut] at same ascending
  apply (strict.sublist (List.sublist_cons_self item others)).stable_eq
  · exact ascending.sublist ((List.sublist_cons_self item high).append_left low)
  · exact (List.perm_middle.symm.trans same).cons_inv

/-- With an additional item or without one, the first items are one less of the first others and at
most one more. -/
theorem take_stable (strict : IsStrict order items) {given : Option α}
    (same : items.Perm (given.toList ++ others)) (count : Nat) :
    ∃ extra : Option α,
      ((stable (fun left right => order left right == .lt) items).take count).Perm
        (extra.toList ++
          (stable (fun left right => order left right == .lt) others).take (count - 1)) := by
  cases count with
  | zero => exact ⟨none, .refl _⟩
  | succ count =>
      have without (sorted : List α) : ∃ extra : Option α,
          (sorted.take (count + 1)).Perm (extra.toList ++ sorted.take count) := by
        refine ⟨sorted[count]?, ?_⟩
        rw [List.take_add_one]
        exact List.perm_append_comm
      rw [Nat.add_sub_cancel, ← strict.stable_congr same.symm]
      cases given with
      | none => exact without _
      | some item =>
          have cons : IsStrict order (item :: others) := strict.perm same.symm
          obtain ⟨low, high, cut, rest⟩ := cons.stable_cons
          rw [Option.toList_some, List.singleton_append]
          rw [cut, rest]
          rcases Nat.lt_or_ge count low.length with inside | beyond
          · obtain ⟨extra, first⟩ := without (low ++ high)
            refine ⟨extra, ?_⟩
            rw [List.take_append_of_le_length inside] at first ⊢
            exact first
          · refine ⟨some item, ?_⟩
            have further : count + 1 - low.length = count - low.length + 1 := by omega
            rw [List.take_append, List.take_append, List.take_of_length_le (by omega),
              List.take_of_length_le beyond, further, List.take_succ_cons]
            exact List.perm_middle

end IsStrict

end Sorting

end LiveSearch
