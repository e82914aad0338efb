import LiveSearch.Query.Order

/-! # Comparing values

Comparing two values from the other side gives the opposite answer (`LiveSearch.Json.order_swap`),
and so does comparing two records (`LiveSearch.orderRecords_swap`). Equality does not depend on the
side, neither that of structure (`LiveSearch.Json.same_comm`) nor that of conditions
(`LiveSearch.Json.equals_comm`), and every value equals itself (`LiveSearch.Json.order_self`,
`LiveSearch.Json.same_self`).
-/

namespace LiveSearch

namespace Number

theorem order_swap (left right : Number) : left.order right = (right.order left).swap := by
  cases left <;> cases right <;> simp only [order, Binary64.compareTotal] <;>
    exact Std.OrientedCmp.eq_swap

/-- Equality of numbers does not depend on the side. -/
theorem same_comm (left right : Number) : left.same right = right.same left := by
  cases left with
  | integer value =>
      cases right with
      | integer other => exact Bool.beq_comm
      | float other => rfl
  | float value =>
      cases right with
      | integer other => rfl
      | float other =>
          rw [Bool.eq_iff_iff]
          simp only [Number.same, Binary64.sameValue, Bool.and_eq_true, Bool.or_eq_true, beq_iff_eq]
          constructor
          · rintro ⟨ranks, signs⟩
            exact ⟨ranks.symm, signs.imp Eq.symm (ranks ▸ ·)⟩
          · rintro ⟨ranks, signs⟩
            exact ⟨ranks.symm, signs.imp Eq.symm (ranks ▸ ·)⟩

theorem same_self (value : Number) : value.same value = true := by
  cases value <;> simp [Number.same, Binary64.sameValue]

end Number

namespace Json

mutual

/-- From the other side two values compare the opposite way. -/
theorem order_swap (left right : Json) : left.order right = (right.order left).swap := by
  cases left with
  | number value =>
      cases right with
      | number other =>
          rw [order, order]
          exact value.order_swap other
      | _ => rfl
  | string value =>
      cases right with
      | string other =>
          rw [order, order]
          exact Std.OrientedCmp.eq_swap
      | _ => rfl
  | bool value =>
      cases right with
      | bool other =>
          rw [order, order]
          exact Std.OrientedCmp.eq_swap
      | _ => rfl
  | array items =>
      cases right with
      | array others =>
          rw [order, order]
          exact orderItems_swap items others
      | _ => rfl
  | null => cases right <;> rfl
  | object fields => cases right <;> rfl

theorem orderItems_swap (lefts rights : List Json) :
    orderItems lefts rights = (orderItems rights lefts).swap := by
  cases lefts with
  | nil => cases rights <;> rfl
  | cons left lefts =>
      cases rights with
      | nil => rfl
      | cons right rights =>
          rw [orderItems, orderItems, Ordering.swap_then, ← order_swap left right,
            ← orderItems_swap lefts rights]

end

/-- Every value compares as equal to itself. -/
theorem order_self (value : Json) : value.order value = .eq :=
  Ordering.eq_eq_of_eq_swap (order_swap value value)

mutual

/-- Structural equality does not depend on the side. -/
theorem same_comm (left right : Json) : left.same right = right.same left := by
  cases left with
  | number value =>
      cases right with
      | number other =>
          rw [same, same]
          exact value.same_comm other
      | _ => rfl
  | string value =>
      cases right with
      | string other => exact Bool.beq_comm
      | _ => rfl
  | bool value =>
      cases right with
      | bool other => exact Bool.beq_comm
      | _ => rfl
  | array items =>
      cases right with
      | array others =>
          rw [same, same]
          exact sameItems_comm items others
      | _ => rfl
  | null => cases right <;> rfl
  | object fields =>
      cases right with
      | object others =>
          rw [same, same]
          exact sameFields_comm fields others
      | _ => rfl

theorem sameItems_comm (lefts rights : List Json) :
    sameItems lefts rights = sameItems rights lefts := by
  cases lefts with
  | nil => cases rights <;> rfl
  | cons left lefts =>
      cases rights with
      | nil => rfl
      | cons right rights =>
          rw [sameItems, sameItems, same_comm left right, sameItems_comm lefts rights]

theorem sameFields_comm (lefts rights : List (String × Json)) :
    sameFields lefts rights = sameFields rights lefts := by
  cases lefts with
  | nil => cases rights <;> rfl
  | cons left lefts =>
      cases rights with
      | nil => rfl
      | cons right rights =>
          obtain ⟨name, value⟩ := left
          obtain ⟨other, another⟩ := right
          rw [sameFields, sameFields, Bool.beq_comm, same_comm value another,
            sameFields_comm lefts rights]

end

mutual

/-- Every value has the structure of itself. -/
theorem same_self (value : Json) : value.same value = true := by
  cases value with
  | number value =>
      rw [same]
      exact value.same_self
  | array items =>
      rw [same]
      exact sameItems_self items
  | object fields =>
      rw [same]
      exact sameFields_self fields
  | null => rfl
  | bool value => exact beq_self_eq_true value
  | string value => exact beq_self_eq_true value

theorem sameItems_self (items : List Json) : sameItems items items = true := by
  cases items with
  | nil => rfl
  | cons item rest => rw [sameItems, same_self item, sameItems_self rest, Bool.and_true]

theorem sameFields_self (fields : List (String × Json)) : sameFields fields fields = true := by
  cases fields with
  | nil => rfl
  | cons field rest =>
      obtain ⟨name, value⟩ := field
      rw [sameFields, beq_self_eq_true, same_self value, sameFields_self rest, Bool.and_true,
        Bool.and_true]

end

/-- Equality in conditions does not depend on the side. -/
theorem equals_comm (left right : Json) : left.equals right = right.equals left := by
  cases left with
  | number value =>
      cases right with
      | number other =>
          rw [equals, equals, value.order_swap other]
          cases other.order value <;> rfl
      | _ => rfl
  | _ => cases right <;> exact same_comm _ _

end Json

theorem orderOptional_swap (left right : Option Json) :
    orderOptional left right = (orderOptional right left).swap := by
  cases left with
  | none => cases right <;> rfl
  | some value =>
      cases right with
      | none => rfl
      | some other => exact value.order_swap other

/-- From the other side two records compare the opposite way. -/
theorem orderRecords_swap (path : Path) (direction : Direction) (key : Option String)
    (left right : Json) : orderRecords path direction key left right =
      (orderRecords path direction key right left).swap := by
  have byKey : orderByKey key left right = (orderByKey key right left).swap := by
    cases key with
    | none => rfl
    | some field => exact Json.order_swap _ _
  rw [orderRecords, orderRecords, Ordering.swap_then, ← byKey,
    orderOptional_swap (path.resolve? left)]
  cases direction <;> rfl

/-- **Comparisons mirror each other.** From the other side values compare the opposite way and are
equal in conditions just as well, each value compares as equal to itself, and records compare the
opposite way by every path, in both directions, with a primary key or without one. -/
theorem comparisons_mirror :
    (∀ left right : Json, right.order left = (left.order right).swap ∧
      left.order left = .eq ∧ left.equals right = right.equals left) ∧
    ∀ (path : Path) (direction : Direction) (key : Option String) (left right : Json),
      orderRecords path direction key right left =
        (orderRecords path direction key left right).swap := by
  constructor
  · intro left right
    exact ⟨right.order_swap left, left.order_self, left.equals_comm right⟩
  · intro path direction key left right
    exact orderRecords_swap path direction key right left

end LiveSearch
