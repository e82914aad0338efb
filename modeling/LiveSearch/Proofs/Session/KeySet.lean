import Mathlib.Data.Finset.Basic
import Mathlib.Data.Finset.Dedup
import LiveSearch.Session.KeySet

/-! # What a set of keys holds

A set of keys is exact when its search tree knows the keys of its sequence and no others, each of
which stands there once (`LiveSearch.KeySet.IsExact`). The empty set is exact, and adding and
taking away keys keep it so; then adding puts a new key behind all others
(`LiveSearch.KeySet.toList_insert`) and taking away leaves the others in their order
(`LiveSearch.KeySet.toList_erase`).
-/

namespace LiveSearch.KeySet

/-- The search tree knows the keys of the sequence, each of which stands there once. -/
structure IsExact (set : KeySet) : Prop where
  nodup : set.sequence.Nodup
  known : ∀ key, set.members.contains key = true ↔ key ∈ set.sequence

/-- The keys without their order. -/
def keys (set : KeySet) : Finset String := set.toList.toFinset

variable {set : KeySet}

theorem isExact_empty : KeySet.empty.IsExact where
  nodup := List.nodup_nil
  known key := by simp [KeySet.empty]

theorem IsExact.nodup_toList (exact : set.IsExact) : set.toList.Nodup := exact.nodup

/-- A key that is there already is not added again, and a new one comes behind all others. -/
theorem IsExact.toList_insert (exact : set.IsExact) (key : String) :
    (set.insert key).2.toList = if key ∈ set.toList then set.toList else set.toList ++ [key] := by
  have known := exact.known key
  unfold KeySet.insert
  by_cases present : key ∈ set.sequence
  · simp only [known.mpr present, ↓reduceIte, toList, present]
  · have absent : ¬ set.members.contains key = true := fun held => present (known.mp held)
    simp only [absent, Bool.false_eq_true, ↓reduceIte, toList, present]

/-- Without a key the sequence is that of the others. -/
theorem IsExact.erase_eq_filter (exact : set.IsExact) (key : String) :
    set.toList.erase key = set.toList.filter (· ≠ key) := by
  rw [exact.nodup_toList.erase_eq_filter key]
  apply List.filter_congr
  intro other _
  simp only [bne, Bool.beq_eq_decide_eq, decide_not, ne_eq]

/-- Taking a key away does not move the others. -/
theorem IsExact.toList_erase (exact : set.IsExact) (key : String) :
    (set.erase key).2.toList = set.toList.erase key := by
  rw [exact.erase_eq_filter key]
  have known := exact.known key
  unfold KeySet.erase
  by_cases present : key ∈ set.sequence
  · simp only [known.mpr present, ↓reduceIte, toList]
  · have absent : ¬ set.members.contains key = true := fun held => present (known.mp held)
    simp only [absent, Bool.false_eq_true, ↓reduceIte, toList]
    symm
    apply List.filter_eq_self.mpr
    intro other member
    exact decide_eq_true fun same => present (same ▸ member)

theorem IsExact.insert (exact : set.IsExact) (key : String) : (set.insert key).2.IsExact := by
  have known := exact.known key
  unfold KeySet.insert
  by_cases present : key ∈ set.sequence
  · simpa only [known.mpr present, ↓reduceIte] using exact
  · have absent : ¬ set.members.contains key = true := fun held => present (known.mp held)
    simp only [absent, Bool.false_eq_true, ↓reduceIte]
    refine ⟨?_, fun other => ?_⟩
    · exact List.nodup_append.mpr ⟨exact.nodup, List.nodup_singleton key, fun left member right same
        => fun equal => present (by
          rw [List.mem_singleton.mp same] at equal
          exact equal ▸ member)⟩
    · simp only [Std.TreeSet.contains_insert, Bool.or_eq_true, beq_iff_eq,
        Std.LawfulEqCmp.compare_eq_iff_eq, exact.known other, List.mem_append, List.mem_singleton]
      exact ⟨fun held => held.elim (fun same => .inr same.symm) .inl,
        fun held => held.elim .inr fun same => .inl same.symm⟩

theorem IsExact.erase (exact : set.IsExact) (key : String) : (set.erase key).2.IsExact := by
  unfold KeySet.erase
  by_cases held : set.members.contains key = true
  · simp only [held, ↓reduceIte]
    refine ⟨exact.nodup.filter _, fun other => ?_⟩
    simp only [Std.TreeSet.contains_erase, Bool.and_eq_true, bne_iff_ne, ne_eq,
      Std.LawfulEqCmp.compare_eq_iff_eq, exact.known other, List.mem_filter, decide_eq_true_eq]
    exact ⟨fun kept => ⟨kept.2, fun same => kept.1 same.symm⟩,
      fun kept => ⟨fun same => kept.2 same.symm, kept.1⟩⟩
  · simpa only [held, Bool.false_eq_true, ↓reduceIte] using exact

end LiveSearch.KeySet
