import LiveSearch.Query.Plan
import LiveSearch.Proofs.Json.Writing

/-! # The text of a plan identifies it

Paths, predicates and stages are legible (`LiveSearch.Path.isLegible_write`,
`LiveSearch.Predicate.isLegible_write`, `LiveSearch.Stage.isLegible_write`): tables, segments,
patterns and literals may be any text, fragments of a plan included, because they stand in quotation
marks. So the text of a plan is that of no other plan (`LiveSearch.Plan.text_eq_iff`).
-/

namespace LiveSearch

open Json (writeString isLegible_writeString)

namespace Number

/-- A closing bracket may follow a number. -/
theorem ends_bracket (rest : List Char) : Ends (')' :: rest) :=
  fun _ head => Option.some.inj head ▸ rfl

theorem write_natural (count : Nat) : (integer count).write = Nat.toDigits 10 count := by
  have natural : ¬ (count : Int) < 0 := Int.not_lt.mpr (Int.natCast_nonneg count)
  rw [write, if_neg natural, Int.natAbs_natCast]

end Number

namespace Path

/-- What may follow a path: no further segment. -/
def Ends (rest : List Char) : Prop := ∀ tail, rest ≠ '(' :: tail

theorem isLegible_writeSegment (segment : String) :
    IsLegible (fun segment => '(' :: (writeString segment ++ [')'])) (fun _ => True) segment := by
  intro second rest other _ _ same
  have inner := (List.cons.inj same).2
  change writeString segment ++ [')'] ++ rest = writeString second ++ [')'] ++ other at inner
  rw [List.append_assoc, List.append_assoc] at inner
  obtain ⟨rfl, rests⟩ := isLegible_writeString segment trivial trivial inner
  exact ⟨rfl, (List.cons.inj rests).2⟩

/-- A path is legible if no bracket follows it. -/
theorem isLegible_write (path : Path) : IsLegible write Ends path := by
  intro second rest other ends also same
  have noSegment {rest : List Char} (ends : Ends rest) : True ∧ ∀ (segment : String) tail,
      rest ≠ '(' :: (writeString segment ++ [')']) ++ tail :=
    ⟨trivial, fun _ _ same => ends _ same⟩
  rw [write, write, List.append_assoc, List.append_assoc] at same
  obtain ⟨segments, rests⟩ := IsLegible.flatMap (fun _ _ => trivial)
    (fun segment _ => isLegible_writeSegment segment) (noSegment ends) (noSegment also)
    (List.append_cancel_left same)
  exact ⟨congrArg Path.mk segments, rests⟩

/-- Two paths are followed by other marks than a bracket. -/
theorem write_inj {first second : Path} {mark other : Char} {rest tail : List Char}
    (noBracket : mark ≠ '(') (also : other ≠ '(')
    (same : first.write ++ mark :: rest = second.write ++ other :: tail) :
    first = second ∧ mark :: rest = other :: tail :=
  first.isLegible_write (fun _ same => noBracket (List.cons.inj same).1)
    (fun _ same => also (List.cons.inj same).1) same

end Path

namespace Comparison

/-- Names of comparisons are of one length, so that none begins with another. -/
theorem length_name (comparison : Comparison) : comparison.name.toList.length = 2 := by
  cases comparison <;> rfl

theorem name_injective : Function.Injective name := by
  intro first second same
  cases first <;> cases second <;> first | rfl | exact absurd same (by decide)

theorem name_inj {first second : Comparison} {rest other : List Char}
    (same : first.name.toList ++ rest = second.name.toList ++ other) :
    first = second ∧ rest = other := by
  obtain ⟨names, rests⟩ := List.append_inj same (by rw [length_name, length_name])
  exact ⟨name_injective (String.toList_injective names), rests⟩

/-- No comparison is written like a match. -/
theorem name_ne_match (comparison : Comparison) (rest other : List Char) :
    comparison.name.toList ++ '(' :: rest ≠ "match(".toList ++ other := by
  cases comparison <;> exact fun same => nomatch same

end Comparison

namespace Predicate

variable (path : Path) (rest : List Char)

theorem write_compare (comparison : Comparison) (value : Json) :
    (compare path comparison value).write ++ rest =
      path.write ++ '.' :: (comparison.name.toList ++ '(' :: (value.write ++ ')' :: rest)) := by
  change path.write ++ '.' :: (comparison.name.toList ++ '(' :: (value.write ++ [')'])) ++ rest = _
  simp only [List.append_assoc, List.cons_append, List.nil_append]

theorem write_matching (pattern : String) : (matching path pattern).write ++ rest =
    path.write ++ '.' :: ("match(".toList ++ (writeString pattern ++ ')' :: rest)) := by
  change path.write ++ '.' :: "match(".toList ++ writeString pattern ++ [')'] ++ rest = _
  simp only [List.append_assoc, List.cons_append, List.nil_append]

theorem write_member (values : List Json) : (member path values).write ++ rest =
    "expr(".toList ++ ((Json.array values).write ++ ')' :: (".contains(".toList ++
      (path.write ++ ')' :: rest))) := by
  change "expr(".toList ++ (Json.array values).write ++ ')' :: ".contains(".toList ++ path.write ++
    [')'] ++ rest = _
  simp only [List.append_assoc, List.cons_append, List.nil_append]

/-- No path is written like a membership. -/
theorem path_ne_expr (other : List Char) :
    path.write ++ rest ≠ "expr(".toList ++ other :=
  fun same => absurd (List.cons.inj same).1 (by decide)

/-- A predicate is legible whatever follows it. -/
theorem isLegible_write (predicate : Predicate) :
    IsLegible write (fun _ => True) predicate := by
  intro second rest other _ _ same
  cases predicate with
  | compare path comparison value =>
      rw [write_compare] at same
      cases second with
      | compare _ _ literal =>
          rw [write_compare] at same
          obtain ⟨rfl, calls⟩ := Path.write_inj (by decide) (by decide) same
          obtain ⟨rfl, literals⟩ := Comparison.name_inj (List.cons.inj calls).2
          obtain ⟨rfl, rests⟩ := value.isLegible_write (Number.ends_bracket _)
            (Number.ends_bracket _) (List.cons.inj literals).2
          exact ⟨rfl, (List.cons.inj rests).2⟩
      | matching _ pattern =>
          rw [write_matching] at same
          have calls := (Path.write_inj (by decide) (by decide) same).2
          exact absurd (List.cons.inj calls).2 (comparison.name_ne_match _ _)
      | member _ _ =>
          rw [write_member] at same
          exact absurd same (path_ne_expr _ _ _)
  | matching path pattern =>
      rw [write_matching] at same
      cases second with
      | compare _ comparison literal =>
          rw [write_compare] at same
          have calls := (Path.write_inj (by decide) (by decide) same).2
          exact absurd (List.cons.inj calls).2.symm (comparison.name_ne_match _ _)
      | matching _ _ =>
          rw [write_matching] at same
          obtain ⟨rfl, calls⟩ := Path.write_inj (by decide) (by decide) same
          obtain ⟨rfl, rests⟩ := isLegible_writeString pattern trivial trivial
            (List.append_cancel_left (List.cons.inj calls).2)
          exact ⟨rfl, (List.cons.inj rests).2⟩
      | member _ _ =>
          rw [write_member] at same
          exact absurd same (path_ne_expr _ _ _)
  | member path values =>
      rw [write_member] at same
      cases second with
      | compare _ _ _ =>
          rw [write_compare] at same
          exact absurd same.symm (path_ne_expr _ _ _)
      | matching _ _ =>
          rw [write_matching] at same
          exact absurd same.symm (path_ne_expr _ _ _)
      | member _ _ =>
          rw [write_member] at same
          obtain ⟨arrays, calls⟩ := (Json.array values).isLegible_write (Number.ends_bracket _)
            (Number.ends_bracket _) (List.append_cancel_left same)
          obtain ⟨rfl, rests⟩ := Path.write_inj (by decide) (by decide)
            (List.append_cancel_left (List.cons.inj calls).2)
          exact ⟨congrArg _ (Json.array.inj arrays), (List.cons.inj rests).2⟩

end Predicate

namespace Direction

/-- No direction is written like the beginning of the other. -/
theorem name_inj {first second : Direction} {rest other : List Char}
    (same : first.name.toList ++ '(' :: rest = second.name.toList ++ '(' :: other) :
    first = second ∧ rest = other := by
  cases first <;> cases second
  · exact ⟨rfl, (List.cons.inj (List.append_cancel_left same)).2⟩
  · exact nomatch same
  · exact nomatch same
  · exact ⟨rfl, (List.cons.inj (List.append_cancel_left same)).2⟩

end Direction

namespace Stage

variable (rest : List Char)

theorem write_orderBy (path : Path) (direction : Direction) :
    (orderBy path direction).write ++ rest = ".order_by(".toList ++
      (direction.name.toList ++ '(' :: (path.write ++ ')' :: ')' :: rest)) := by
  change ".order_by(".toList ++ direction.name.toList ++ '(' :: (path.write ++ [')', ')']) ++
    rest = _
  simp only [List.append_assoc, List.cons_append, List.nil_append]

theorem write_filter (predicate : Predicate) :
    (filter predicate).write ++ rest = ".filter(".toList ++ (predicate.write ++ ')' :: rest) := by
  change ".filter(".toList ++ predicate.write ++ [')'] ++ rest = _
  simp only [List.append_assoc, List.cons_append, List.nil_append]

theorem write_pluck (field : String) :
    (pluck field).write ++ rest = ".pluck(".toList ++ (writeString field ++ ')' :: rest) := by
  change ".pluck(".toList ++ writeString field ++ [')'] ++ rest = _
  simp only [List.append_assoc, List.cons_append, List.nil_append]

theorem write_limit (count : Nat) :
    (limit count).write ++ rest = ".limit(".toList ++ (Nat.toDigits 10 count ++ ')' :: rest) := by
  change ".limit(".toList ++ Nat.toDigits 10 count ++ [')'] ++ rest = _
  simp only [List.append_assoc, List.cons_append, List.nil_append]

/-- A stage is legible whatever follows it. -/
theorem isLegible_write (stage : Stage) : IsLegible write (fun _ => True) stage := by
  intro second rest other _ _ same
  cases stage with
  | orderBy path direction =>
      rw [write_orderBy] at same
      cases second with
      | orderBy _ _ =>
          rw [write_orderBy] at same
          obtain ⟨rfl, paths⟩ := Direction.name_inj (List.append_cancel_left same)
          obtain ⟨rfl, rests⟩ := Path.write_inj (by decide) (by decide) paths
          exact ⟨rfl, (List.cons.inj (List.cons.inj rests).2).2⟩
      | _ => exact nomatch same
  | filter predicate =>
      rw [write_filter] at same
      cases second with
      | filter _ =>
          rw [write_filter] at same
          obtain ⟨rfl, rests⟩ := predicate.isLegible_write trivial trivial
            (List.append_cancel_left same)
          exact ⟨rfl, (List.cons.inj rests).2⟩
      | _ => exact nomatch same
  | pluck field =>
      rw [write_pluck] at same
      cases second with
      | pluck _ =>
          rw [write_pluck] at same
          obtain ⟨rfl, rests⟩ := isLegible_writeString field trivial trivial
            (List.append_cancel_left same)
          exact ⟨rfl, (List.cons.inj rests).2⟩
      | _ => exact nomatch same
  | limit count =>
      rw [write_limit] at same
      cases second with
      | limit other =>
          rw [write_limit] at same
          have counts := List.append_cancel_left same
          rw [← Number.write_natural, ← Number.write_natural] at counts
          obtain ⟨numbers, rests⟩ := Number.isLegible_write _ (Number.ends_bracket _)
            (Number.ends_bracket _) counts
          rw [Number.integer.injEq, Int.natCast_inj] at numbers
          exact ⟨congrArg limit numbers, (List.cons.inj rests).2⟩
      | _ => exact nomatch same

theorem nil_ne_write (stage : Stage) : [] ≠ stage.write ++ rest := by
  cases stage with
  | orderBy path direction => exact nofun
  | filter predicate => exact nofun
  | pluck field => exact nofun
  | limit count => exact nofun

end Stage

namespace Plan

/-- The text of a plan is that of no other plan. -/
theorem text_eq_iff (first second : Plan) : first.text = second.text ↔ first = second := by
  refine ⟨fun same => ?_, congrArg text⟩
  have written : first.write = second.write := String.ofList_injective same
  unfold write at written
  rw [List.append_assoc, List.append_assoc] at written
  obtain ⟨tables, rests⟩ := isLegible_writeString first.table trivial trivial
    (List.append_cancel_left written)
  have stages := (List.cons.inj rests).2
  rw [← List.append_nil (first.stages.flatMap _), ← List.append_nil (second.stages.flatMap _)]
    at stages
  have noStage : True ∧ ∀ (stage : Stage) rest, [] ≠ stage.write ++ rest :=
    ⟨trivial, fun stage rest => stage.nil_ne_write rest⟩
  have same := (IsLegible.flatMap (fun _ _ => trivial) (fun stage _ => stage.isLegible_write)
    noStage noStage stages).1
  obtain ⟨table, stages⟩ := first
  subst tables same
  rfl

end Plan

end LiveSearch
