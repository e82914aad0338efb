import Mathlib.Data.List.Perm.Basic
import LiveSearch.Query.Sort

/-! # What sorting by insertion gives

Sorting keeps every item (`LiveSearch.Sorting.stable_perm`). By a comparison that is transitive
among the items it puts none behind one that it comes before, and items that do not differ stay as
they came (`LiveSearch.Sorting.isStablySorted`). No other list of the items is like that
(`LiveSearch.Sorting.IsStablySorted.unique`).
-/

namespace LiveSearch

namespace Sorting

section Keeping

variable {α : Type} (before : α → α → Bool)

theorem insert_perm (item : α) (sorted : List α) :
    (insert before item sorted).Perm (item :: sorted) := by
  induction sorted with
  | nil => exact .refl _
  | cons last earlier ih =>
      unfold insert
      split
      · exact (ih.cons last).trans (.swap item last earlier)
      · exact .refl _

/-- Sorting from what is already sorted keeps every item. -/
private theorem gather_perm (items sorted : List α) :
    (items.foldl (fun sorted item => insert before item sorted) sorted).Perm (items ++ sorted) := by
  induction items generalizing sorted with
  | nil => exact .refl _
  | cons item rest ih =>
      refine (ih _).trans (((insert_perm before item sorted).append_left rest).trans ?_)
      exact List.perm_middle

/-- Sorting keeps every item. -/
theorem stable_perm (items : List α) : (stable before items).Perm items := by
  have all := gather_perm before items []
  rw [List.append_nil] at all
  exact (List.reverse_perm _).trans all

end Keeping

variable {α : Type} (order : α → α → Ordering)

/-- The items by a comparison: none stands behind one that it comes before, and those that do not
differ from an item stand as they came. -/
structure IsStablySorted (items sorted : List α) : Prop where
  perm : sorted.Perm items
  ordered : sorted.Pairwise fun left right => order left right ≠ .gt
  stable : ∀ item ∈ items, (sorted.filter fun other => order item other == .eq) =
    items.filter fun other => order item other == .eq

/-- A comparison is transitive among some items. -/
def IsTransitive (items : List α) : Prop :=
  ∀ first ∈ items, ∀ second ∈ items, ∀ third ∈ items,
    order first second ≠ .gt → order second third ≠ .gt → order first third ≠ .gt

/-- A comparison gives the opposite answer from the other side, and is transitive among some
items. -/
structure IsLawful (items : List α) : Prop where
  swap : ∀ left right, order left right = (order right left).swap
  trans : IsTransitive order items

namespace IsLawful

variable {order} {items : List α}

theorem mono {others : List α} (lawful : IsLawful order items) (sub : others ⊆ items) :
    IsLawful order others where
  swap := lawful.swap
  trans first one second two third three :=
    lawful.trans first (sub one) second (sub two) third (sub three)

theorem gt_iff (lawful : IsLawful order items) (left right : α) :
    order left right = .gt ↔ order right left = .lt := by
  rw [lawful.swap left right, Ordering.swap_eq_gt]

theorem refl (lawful : IsLawful order items) (item : α) : order item item = .eq := by
  have same := lawful.swap item item
  cases found : order item item with
  | lt => exact nomatch (found ▸ same :)
  | eq => rfl
  | gt => exact nomatch (found ▸ same :)

theorem eq_comm (lawful : IsLawful order items) (left right : α) :
    order left right = .eq ↔ order right left = .eq := by
  rw [lawful.swap left right, Ordering.swap_eq_eq]

/-- Of three items of which the first two do not differ, the third one differs from both or from
none. -/
theorem eq_trans (lawful : IsLawful order items) {first second third : α} (one : first ∈ items)
    (two : second ∈ items) (three : third ∈ items) (same : order first second = .eq)
    (further : order second third = .eq) : order first third = .eq := by
  have upward := lawful.trans first one second two third three (by rw [same]; decide)
    (by rw [further]; decide)
  have downward := lawful.trans third three second two first one
    (by rw [(lawful.eq_comm _ _).mp further]; decide) (by rw [(lawful.eq_comm _ _).mp same]; decide)
  rw [ne_eq, lawful.gt_iff] at downward
  cases found : order first third with
  | lt => exact absurd found downward
  | eq => rfl
  | gt => exact absurd found upward

end IsLawful

section Ordering

variable {order}

/-- Inserting keeps what is sorted, given from its end, in order. -/
private theorem insert_ordered {item : α} {sorted : List α}
    (lawful : IsLawful order (item :: sorted))
    (ordered : sorted.Pairwise fun later earlier => order earlier later ≠ .gt) :
    (insert (fun left right => order left right == .lt) item sorted).Pairwise
      fun later earlier => order earlier later ≠ .gt := by
  induction sorted with
  | nil => exact List.pairwise_singleton _ _
  | cons last earlier ih =>
      obtain ⟨above, rest⟩ := List.pairwise_cons.mp ordered
      have sub : item :: earlier ⊆ item :: last :: earlier :=
        List.cons_subset_cons item (List.subset_cons_self last earlier)
      unfold insert
      split
      · rename_i comesBefore
        rw [beq_iff_eq] at comesBefore
        refine List.pairwise_cons.mpr ⟨fun other member => ?_, ih (lawful.mono sub) rest⟩
        rcases List.mem_cons.mp ((insert_perm _ item earlier).mem_iff.mp member) with rfl | known
        · rw [comesBefore]
          decide
        · exact above other known
      · rename_i stays
        rw [beq_iff_eq, ← lawful.gt_iff] at stays
        refine List.pairwise_cons.mpr ⟨fun other member => ?_, ordered⟩
        rcases List.mem_cons.mp member with rfl | known
        · exact stays
        · exact lawful.trans other (sub (List.mem_cons_of_mem item known)) last
            (List.mem_cons_of_mem item List.mem_cons_self) item List.mem_cons_self
            (above other known) stays

/-- An item is inserted behind all that do not differ from it. -/
private theorem insert_filter {item : α} {sorted items : List α} (lawful : IsLawful order items)
    (known : item ∈ items) (sub : sorted ⊆ items) {given : α} (member : given ∈ items) :
    (insert (fun left right => order left right == .lt) item sorted).filter
        (fun other => order given other == .eq) =
      (item :: sorted).filter fun other => order given other == .eq := by
  induction sorted with
  | nil => rfl
  | cons last earlier ih =>
      obtain ⟨one, rest⟩ := List.cons_subset.mp sub
      unfold insert
      split
      · rename_i comesBefore
        rw [List.filter_cons, ih rest, List.filter_cons, List.filter_cons]
        by_cases same : order given item = .eq
        · have different : order given last ≠ .eq := by
            intro too
            have equal := lawful.eq_trans known member one ((lawful.eq_comm _ _).mp same) too
            rw [beq_iff_eq, equal] at comesBefore
            exact nomatch comesBefore
          simp only [same, different, beq_self_eq_true, beq_iff_eq, ↓reduceIte, List.filter_cons]
        · simp only [same, beq_iff_eq, ↓reduceIte, List.filter_cons]
      · rfl

/-- By a comparison that is lawful among the items, sorting orders them and is stable. -/
theorem isStablySorted {items : List α} (lawful : IsLawful order items) :
    IsStablySorted order items (stable (fun left right => order left right == .lt) items) := by
  -- What is left to insert and what has been inserted are both among the items.
  have gathered (rest sorted : List α) (left : rest ⊆ items) (done : sorted ⊆ items)
      (ordered : sorted.Pairwise fun later earlier => order earlier later ≠ .gt) :
      (rest.foldl (fun sorted item =>
          insert (fun left right => order left right == .lt) item sorted) sorted).Pairwise
          (fun later earlier => order earlier later ≠ .gt) ∧
        ∀ given ∈ items, (rest.foldl (fun sorted item =>
          insert (fun left right => order left right == .lt) item sorted) sorted).filter
            (fun other => order given other == .eq) =
          (rest.reverse ++ sorted).filter fun other => order given other == .eq := by
    induction rest generalizing sorted with
    | nil => exact ⟨ordered, fun _ _ => rfl⟩
    | cons item rest ih =>
        obtain ⟨known, others⟩ := List.cons_subset.mp left
        have both : item :: sorted ⊆ items := List.cons_subset.mpr ⟨known, done⟩
        obtain ⟨further, filtered⟩ := ih _ others
          (fun other member => both ((insert_perm _ item sorted).mem_iff.mp member))
          (insert_ordered (lawful.mono both) ordered)
        refine ⟨further, fun given member => (filtered given member).trans ?_⟩
        rw [List.filter_append, insert_filter lawful known done member, ← List.filter_append,
          List.reverse_cons, List.append_assoc]
        rfl
  obtain ⟨ordered, filtered⟩ := gathered items [] (List.Subset.refl _) (List.nil_subset _) .nil
  refine ⟨stable_perm _ items, List.pairwise_reverse.mpr ordered, fun given member => ?_⟩
  rw [stable, List.filter_reverse, filtered given member, List.append_nil, List.filter_reverse,
    List.reverse_reverse]

/-- Lists in order that agree in every class of items that do not differ are equal. -/
private theorem eq_of_filters {items first second : List α} (lawful : IsLawful order items)
    (one : first ⊆ items) (two : second ⊆ items)
    (ordered : first.Pairwise fun left right => order left right ≠ .gt)
    (further : second.Pairwise fun left right => order left right ≠ .gt)
    (agree : ∀ item ∈ items, (first.filter fun other => order item other == .eq) =
      second.filter fun other => order item other == .eq) : first = second := by
  have known {list other : List α} {item : α} (member : item ∈ items) (listed : item ∈ list)
      (same : (list.filter fun other => order item other == .eq) =
        other.filter fun other => order item other == .eq) : item ∈ other := by
    have kept : item ∈ list.filter fun other => order item other == .eq :=
      List.mem_filter.mpr ⟨listed, beq_iff_eq.mpr (lawful.refl item)⟩
    rw [same] at kept
    exact (List.mem_filter.mp kept).1
  induction first generalizing second with
  | nil =>
      refine (List.eq_nil_iff_forall_not_mem.mpr fun item member => ?_).symm
      exact List.not_mem_nil (known (two member) member (agree item (two member)).symm)
  | cons head tail ih =>
      obtain ⟨headKnown, tailKnown⟩ := List.cons_subset.mp one
      have found := known headKnown List.mem_cons_self (agree head headKnown)
      cases second with
      | nil => exact absurd found List.not_mem_nil
      | cons start rest =>
          obtain ⟨startKnown, restKnown⟩ := List.cons_subset.mp two
          obtain ⟨above, tailOrdered⟩ := List.pairwise_cons.mp ordered
          obtain ⟨beyond, restOrdered⟩ := List.pairwise_cons.mp further
          have listed := known startKnown List.mem_cons_self (agree start startKnown).symm
          -- Each head stands in the other list, so neither comes before the other one.
          have same : order head start = .eq := by
            rcases List.mem_cons.mp listed with rfl | later
            · exact lawful.refl start
            rcases List.mem_cons.mp found with rfl | behind
            · exact lawful.refl head
            have up := above start later
            have down := beyond head behind
            rw [ne_eq, lawful.gt_iff] at down
            cases compared : order head start with
            | lt => exact absurd compared down
            | eq => rfl
            | gt => exact absurd compared up
          have heads := agree head headKnown
          simp only [List.filter_cons, lawful.refl head, same, beq_self_eq_true,
            ↓reduceIte] at heads
          obtain ⟨rfl, _⟩ := List.cons.inj heads
          congr 1
          refine ih tailKnown restKnown tailOrdered restOrdered fun item member => ?_
          have both := agree item member
          rw [List.filter_cons, List.filter_cons] at both
          split at both
          · exact (List.cons.inj both).2
          · exact both

/-- There is one list only that has the items by a comparison. -/
theorem IsStablySorted.unique {items first second : List α} (lawful : IsLawful order items)
    (one : IsStablySorted order items first) (two : IsStablySorted order items second) :
    first = second :=
  eq_of_filters lawful one.perm.subset two.perm.subset one.ordered two.ordered
    fun item member => (one.stable item member).trans (two.stable item member).symm

end Ordering

end Sorting

end LiveSearch
