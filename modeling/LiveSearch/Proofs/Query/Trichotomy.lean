import LiveSearch.Proofs.Binary64.Rounding
import LiveSearch.Proofs.Query.Values
import LiveSearch.Query.Selection

/-! # When the comparisons of a field with a literal agree

The order of values looks at every number in an array, while equality in conditions goes by the
structure of arrays. Without objects, values compare as equal if they are equal up to rounding
(`LiveSearch.Json.order_eq_iff`), and they have the same structure if they are equal up to the signs
of zeros (`LiveSearch.Json.same_iff`). Hence the comparisons agree unless a field and a literal are
different arrays that are equal in one of these two ways (`LiveSearch.Json.AreRespelt`,
`LiveSearch.comparisons_agree_iff`).
-/

namespace LiveSearch

theorem Binary64.compareTotal_eq_iff {left right : Binary64} :
    left.compareTotal right = .eq ↔ left = right := by
  rw [compareTotal, Std.LawfulEqCmp.compare_eq_iff_eq, place_injective.eq_iff]

namespace Number

/-- An integer and the binary64 number that it is rounded to, on either side. -/
def AreRounded : Number → Number → Prop
  | integer value, float other => Binary64.ofInt value = other
  | float value, integer other => value = Binary64.ofInt other
  | _, _ => False

/-- Zeros with different signs. -/
def AreOppositeZeros : Number → Number → Prop
  | float value, float other => value.rank = 0 ∧ other.rank = 0 ∧ value.negative ≠ other.negative
  | _, _ => False

variable {left right : Number}

/-- Numbers compare as equal if they are equal or one is the rounding of the other. -/
theorem order_eq_iff : left.order right = .eq ↔ left = right ∨ AreRounded left right := by
  cases left <;> cases right <;>
    simp [order, AreRounded, toBinary64, Binary64.compareTotal_eq_iff]

/-- Numbers have the same structure if they are equal or zeros with different signs. -/
theorem same_iff : left.same right = true ↔ left = right ∨ AreOppositeZeros left right := by
  cases left with
  | integer value => cases right <;> simp [same, AreOppositeZeros]
  | float value =>
      cases right with
      | integer other => simp [same, AreOppositeZeros]
      | float other =>
          obtain ⟨negative, rank, finite⟩ := value
          obtain ⟨otherNegative, otherRank, otherFinite⟩ := other
          simp only [same, Binary64.sameValue, AreOppositeZeros, float.injEq, Binary64.mk.injEq,
            Bool.and_eq_true, Bool.or_eq_true, beq_iff_eq]
          by_cases signs : negative = otherNegative
          · simp [signs]
          · simp only [signs, false_or, false_and, ne_eq, not_false_eq_true, and_true]
            constructor
            · rintro ⟨rfl, zero⟩
              exact ⟨zero, zero⟩
            · rintro ⟨rfl, rfl⟩
              exact ⟨rfl, rfl⟩

/-- A rounding involves an integer, and zeros with a sign are no integers. -/
theorem AreRounded.not_areOppositeZeros (rounded : AreRounded left right) :
    ¬ AreOppositeZeros left right := by
  cases left <;> cases right <;> first | exact id | exact absurd rounded id

end Number

namespace Json

mutual

/-- Whether there is an object in a value, at any depth of arrays. -/
def hasObject : Json → Bool
  | object _ => true
  | array items => itemsHaveObject items
  | _ => false

/-- Whether there is an object in one of the items. -/
def itemsHaveObject : List Json → Bool
  | [] => false
  | item :: items => item.hasObject || itemsHaveObject items

end

mutual

/-- Values without objects are equal up to their numbers, which are equal or near each other. -/
def EqualUpTo (near : Number → Number → Prop) : Json → Json → Prop
  | null, null => True
  | bool left, bool right => left = right
  | number left, number right => left = right ∨ near left right
  | string left, string right => left = right
  | array lefts, array rights => ItemsEqualUpTo near lefts rights
  | _, _ => False

/-- Sequences are equal up to their numbers, position by position. -/
def ItemsEqualUpTo (near : Number → Number → Prop) : List Json → List Json → Prop
  | [], [] => True
  | left :: lefts, right :: rights => EqualUpTo near left right ∧ ItemsEqualUpTo near lefts rights
  | _, _ => False

end

/-- Different arrays that are equal up to rounding, or equal up to the signs of zeros. -/
def AreRespelt : Json → Json → Prop
  | array lefts, array rights => lefts ≠ rights ∧
    (ItemsEqualUpTo Number.AreRounded lefts rights ∨
      ItemsEqualUpTo Number.AreOppositeZeros lefts rights)
  | _, _ => False

section Equality

variable {near other : Number → Number → Prop}

mutual

/-- A value without objects is equal to itself up to anything. -/
theorem equalUpTo_self (near : Number → Number → Prop) {value : Json}
    (plain : value.hasObject = false) : EqualUpTo near value value := by
  cases value with
  | null => trivial
  | bool value => rfl
  | number value => exact .inl rfl
  | string value => rfl
  | array items => exact itemsEqualUpTo_self near plain
  | object fields => exact absurd plain.symm Bool.false_ne_true

theorem itemsEqualUpTo_self (near : Number → Number → Prop) {items : List Json}
    (plain : itemsHaveObject items = false) : ItemsEqualUpTo near items items := by
  cases items with
  | nil => trivial
  | cons item rest =>
      rw [itemsHaveObject, Bool.or_eq_false_iff] at plain
      exact ⟨equalUpTo_self near plain.1, itemsEqualUpTo_self near plain.2⟩

end

mutual

/-- Values that are equal up to two things that exclude each other are equal. -/
theorem EqualUpTo.eq (apart : ∀ left right, near left right → ¬ other left right)
    {left right : Json} (one : EqualUpTo near left right) (two : EqualUpTo other left right) :
    left = right := by
  cases left with
  | number value =>
      cases right with
      | number another =>
          congr 1
          rcases one with same | close
          · exact same
          · exact two.resolve_right (apart _ _ close)
      | _ => exact one.elim
  | array items =>
      cases right with
      | array others => exact congrArg array (ItemsEqualUpTo.eq apart one two)
      | _ => exact one.elim
  | null =>
      cases right with
      | null => rfl
      | _ => exact one.elim
  | bool value =>
      cases right with
      | bool another => exact congrArg bool one
      | _ => exact one.elim
  | string value =>
      cases right with
      | string another => exact congrArg string one
      | _ => exact one.elim
  | object fields => cases right <;> exact one.elim

theorem ItemsEqualUpTo.eq (apart : ∀ left right, near left right → ¬ other left right)
    {lefts rights : List Json} (one : ItemsEqualUpTo near lefts rights)
    (two : ItemsEqualUpTo other lefts rights) : lefts = rights := by
  cases lefts with
  | nil =>
      cases rights with
      | nil => rfl
      | cons right rights => exact one.elim
  | cons left lefts =>
      cases rights with
      | nil => exact one.elim
      | cons right rights =>
          rw [EqualUpTo.eq apart one.1 two.1, ItemsEqualUpTo.eq apart one.2 two.2]

end

end Equality

mutual

/-- Values without objects compare as equal if they are equal up to rounding. -/
theorem order_eq_iff {left right : Json} (plain : left.hasObject = false) :
    left.order right = .eq ↔ EqualUpTo Number.AreRounded left right := by
  cases left with
  | number value =>
      cases right with
      | number other =>
          rw [order]
          exact Number.order_eq_iff
      | _ => simp [order, EqualUpTo, kindRank]
  | string value =>
      cases right with
      | string other =>
          rw [order]
          exact Std.LawfulEqCmp.compare_eq_iff_eq
      | _ => simp [order, EqualUpTo, kindRank]
  | bool value =>
      cases right with
      | bool other =>
          rw [order]
          exact Std.LawfulEqCmp.compare_eq_iff_eq
      | _ => simp [order, EqualUpTo, kindRank]
  | array items =>
      cases right with
      | array others =>
          rw [order]
          exact orderItems_eq_iff plain
      | _ => simp [order, EqualUpTo, kindRank]
  | null =>
      cases right with
      | null => exact iff_of_true rfl trivial
      | _ => simp [order, EqualUpTo, kindRank]
  | object fields => exact absurd plain.symm Bool.false_ne_true

theorem orderItems_eq_iff {lefts rights : List Json} (plain : itemsHaveObject lefts = false) :
    orderItems lefts rights = .eq ↔ ItemsEqualUpTo Number.AreRounded lefts rights := by
  cases lefts with
  | nil =>
      cases rights with
      | nil => exact iff_of_true rfl trivial
      | cons right rights => simp [orderItems, ItemsEqualUpTo]
  | cons left lefts =>
      cases rights with
      | nil => simp [orderItems, ItemsEqualUpTo]
      | cons right rights =>
          rw [itemsHaveObject, Bool.or_eq_false_iff] at plain
          rw [orderItems, Ordering.then_eq_eq, order_eq_iff plain.1, orderItems_eq_iff plain.2]
          rfl

end

mutual

/-- Values without objects have the same structure if they are equal up to the signs of zeros. -/
theorem same_iff {left right : Json} (plain : left.hasObject = false) :
    left.same right = true ↔ EqualUpTo Number.AreOppositeZeros left right := by
  cases left with
  | number value =>
      cases right with
      | number other =>
          rw [same]
          exact Number.same_iff
      | _ => simp [same, EqualUpTo]
  | string value =>
      cases right with
      | string other => exact beq_iff_eq
      | _ => simp [same, EqualUpTo]
  | bool value =>
      cases right with
      | bool other => exact beq_iff_eq
      | _ => simp [same, EqualUpTo]
  | array items =>
      cases right with
      | array others =>
          rw [same]
          exact sameItems_iff plain
      | _ => simp [same, EqualUpTo]
  | null =>
      cases right with
      | null => exact iff_of_true rfl trivial
      | _ => simp [same, EqualUpTo]
  | object fields => exact absurd plain.symm Bool.false_ne_true

theorem sameItems_iff {lefts rights : List Json} (plain : itemsHaveObject lefts = false) :
    sameItems lefts rights = true ↔ ItemsEqualUpTo Number.AreOppositeZeros lefts rights := by
  cases lefts with
  | nil =>
      cases rights with
      | nil => exact iff_of_true rfl trivial
      | cons right rights => simp [sameItems, ItemsEqualUpTo]
  | cons left lefts =>
      cases rights with
      | nil => simp [sameItems, ItemsEqualUpTo]
      | cons right rights =>
          rw [itemsHaveObject, Bool.or_eq_false_iff] at plain
          rw [sameItems, Bool.and_eq_true, same_iff plain.1, sameItems_iff plain.2]
          rfl

end

/-- Arrays without objects compare as equal exactly if they have the same structure, unless they
are respelt. -/
theorem orderItems_eq_iff_sameItems {lefts rights : List Json}
    (plain : itemsHaveObject lefts = false) :
    (orderItems lefts rights = .eq ↔ sameItems lefts rights = true) ↔
      ¬ AreRespelt (array lefts) (array rights) := by
  have apart (left right : Number) (rounded : left.AreRounded right) :
      ¬ left.AreOppositeZeros right := rounded.not_areOppositeZeros
  rw [orderItems_eq_iff plain, sameItems_iff plain]
  constructor
  · rintro both ⟨differ, rounded | zeros⟩
    · exact differ (rounded.eq apart (both.mp rounded))
    · exact differ ((both.mpr zeros).eq apart zeros)
  · intro alone
    by_cases same : lefts = rights
    · subst same
      exact iff_of_true (itemsEqualUpTo_self _ plain) (itemsEqualUpTo_self _ plain)
    · apply iff_of_false
      · intro rounded
        exact alone ⟨same, .inl rounded⟩
      · intro zeros
        exact alone ⟨same, .inr zeros⟩

/-- Without objects, a value compares as equal to another exactly if it equals it in conditions,
unless the two are respelt. -/
theorem order_eq_iff_equals {left right : Json} (plain : left.hasObject = false) :
    (left.order right = .eq ↔ left.equals right = true) ↔ ¬ AreRespelt left right := by
  -- Only numbers can be near each other, so other values are alike in both ways or in none.
  have alike (same : EqualUpTo Number.AreRounded left right ↔
      EqualUpTo Number.AreOppositeZeros left right) :
      left.order right = .eq ↔ left.same right = true :=
    (order_eq_iff plain).trans (same.trans (same_iff plain).symm)
  cases left with
  | number value =>
      refine iff_of_true ?_ id
      cases right with
      | number other => rw [order, equals, beq_iff_eq]
      | _ => exact alike Iff.rfl
  | array items =>
      cases right with
      | array others =>
          rw [order]
          exact orderItems_eq_iff_sameItems plain
      | _ => exact iff_of_true (alike Iff.rfl) id
  | object fields => exact absurd plain.symm Bool.false_ne_true
  | _ =>
      refine iff_of_true ?_ id
      cases right <;> exact alike Iff.rfl

end Json

section Conditions

variable {record field value : Json} {path : Path}

/-- A comparison holds of what a path of a record leads to and a literal. -/
def Comparison.HoldsAt (comparison : Comparison) (record : Json) (path : Path) (value : Json) :
    Prop :=
  (Predicate.compare path comparison value).holds record = true

instance (comparison : Comparison) (record : Json) (path : Path) (value : Json) :
    Decidable (comparison.HoldsAt record path value) :=
  inferInstanceAs (Decidable (_ = true))

/-- The comparison that says how two values compare. -/
def Comparison.ofOrdering : Ordering → Comparison
  | .lt => less
  | .eq => equal
  | .gt => greater

/-- The comparisons agree about a record: exactly one of less, equal and greater holds, and the
others hold where one of the two that they are made of holds. -/
structure ComparisonsAgree (record : Json) (path : Path) (value : Json) : Prop where
  single : ∃! comparison, comparison ∈ [Comparison.less, .equal, .greater] ∧
    comparison.HoldsAt record path value
  greaterEqual : Comparison.greaterEqual.HoldsAt record path value ↔
    Comparison.greater.HoldsAt record path value ∨ Comparison.equal.HoldsAt record path value
  lessEqual : Comparison.lessEqual.HoldsAt record path value ↔
    Comparison.less.HoldsAt record path value ∨ Comparison.equal.HoldsAt record path value

theorem holdsAt_iff (resolved : path.resolve? record = some field) (comparison : Comparison) :
    comparison.HoldsAt record path value ↔ comparison.holds field value = true := by
  rw [Comparison.HoldsAt, Predicate.holds, resolved, Option.any_some]

/-- Where the order and the equality in conditions agree, the comparison that holds is the one that
says how the values compare. -/
private theorem holdsAt_iff_ofOrdering (resolved : path.resolve? record = some field)
    (agree : field.order value = .eq ↔ field.equals value = true) :
    ∀ comparison ∈ [Comparison.less, .equal, .greater],
      (comparison.HoldsAt record path value ↔
        comparison = .ofOrdering (field.order value)) := by
  simp only [List.forall_mem_cons, holdsAt_iff resolved, Comparison.holds, beq_iff_eq, ← agree]
  cases field.order value <;> simp [Comparison.ofOrdering]

/-- The comparisons agree exactly if the order and the equality in conditions do. -/
theorem comparisonsAgree_iff_equals (resolved : path.resolve? record = some field) :
    ComparisonsAgree record path value ↔
      (field.order value = .eq ↔ field.equals value = true) := by
  constructor
  · intro agree
    constructor
    · intro same
      have either := agree.greaterEqual
      simpa [holdsAt_iff resolved, Comparison.holds, same] using either
    · intro equals
      have equal := (holdsAt_iff resolved .equal).mpr equals
      cases found : field.order value with
      | eq => rfl
      | lt =>
          have less := (holdsAt_iff resolved .less).mpr (beq_iff_eq.mpr found)
          exact nomatch agree.single.unique ⟨by decide, less⟩ ⟨by decide, equal⟩
      | gt =>
          have greater := (holdsAt_iff resolved .greater).mpr (beq_iff_eq.mpr found)
          exact nomatch agree.single.unique ⟨by decide, greater⟩ ⟨by decide, equal⟩
  · intro agree
    have told := holdsAt_iff_ofOrdering resolved agree
    constructor
    · have listed : Comparison.ofOrdering (field.order value) ∈
          [Comparison.less, .equal, .greater] := by
        cases field.order value <;> decide
      refine ⟨_, ⟨listed, (told _ listed).mpr rfl⟩, ?_⟩
      rintro comparison ⟨member, holds⟩
      exact (told comparison member).mp holds
    · simp only [holdsAt_iff resolved, Comparison.holds, beq_iff_eq, bne_iff_ne, ← agree]
      cases field.order value <;> simp
    · simp only [holdsAt_iff resolved, Comparison.holds, beq_iff_eq, bne_iff_ne, ← agree]
      cases field.order value <;> simp

/-- **When the comparisons agree.** Of a field without objects and a literal, exactly one of less,
equal and greater holds, and the others hold accordingly, unless the field and the literal are
different arrays that are equal up to rounding or equal up to the signs of zeros. -/
theorem comparisons_agree_iff (resolved : path.resolve? record = some field)
    (plain : field.hasObject = false) :
    ComparisonsAgree record path value ↔ ¬ field.AreRespelt value := by
  rw [comparisonsAgree_iff_equals resolved]
  exact Json.order_eq_iff_equals plain

/-- A record with numbers in a list of lists. -/
def sized (numbers : List Number) : Json :=
  .object [("size", .array [.array (numbers.map .number)])]

/-- The comparisons agree about numbers that differ in an integer, and in the sign of a zero besides. -/
theorem comparisons_agree_ordered :
    (Path.ofText "size").resolve? (sized [.integer 1, .float (.zero false)]) =
      some (.array [.array [.int 1, .number (.float (.zero false))]]) ∧
    ComparisonsAgree (sized [.integer 1, .float (.zero false)]) (Path.ofText "size")
      (.array [.array [.int 2, .number (.float (.zero true))]]) := by
  have resolved : (Path.ofText "size").resolve? (sized [.integer 1, .float (.zero false)]) =
      some (.array [.array [.int 1, .number (.float (.zero false))]]) := rfl
  refine ⟨resolved, (comparisons_agree_iff resolved rfl).mpr ?_⟩
  rintro ⟨_, ⟨⟨same | near, _⟩, _⟩ | ⟨⟨same | near, _⟩, _⟩⟩
  · exact nomatch same
  · exact near
  · exact nomatch same
  · exact near

/-- Of a list with the integer one and a list with the binary64 number one, neither is less than the
other and they are not equal. -/
theorem comparisons_disagree_respelt :
    let record := sized [.integer 1]
    let literal := Json.array [.array [.number (.float (Binary64.ofInt 1))]]
    (Path.ofText "size").resolve? record = some (.array [.array [.int 1]]) ∧
    (Json.array [.array [.int 1]]).hasObject = false ∧ literal.hasObject = false ∧
    (∀ comparison ∈ [Comparison.less, .equal, .greater],
      ¬ comparison.HoldsAt record (Path.ofText "size") literal) ∧
    ¬ ComparisonsAgree record (Path.ofText "size") literal := by
  intro record literal
  have none : ∀ comparison ∈ [Comparison.less, .equal, .greater],
      ¬ comparison.HoldsAt record (Path.ofText "size") literal := by
    decide +kernel
  refine ⟨rfl, rfl, rfl, none, ?_⟩
  intro agree
  obtain ⟨comparison, ⟨member, holds⟩, _⟩ := agree.single
  exact none comparison member holds

end Conditions

end LiveSearch
