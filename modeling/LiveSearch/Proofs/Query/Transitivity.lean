import LiveSearch.Proofs.Binary64.Rounding
import LiveSearch.Proofs.Query.Values

/-! # When the order of values is transitive

Two integers compare exactly, an integer and a binary64 number after rounding. A number to which two
integers are rounded equals both, although they differ. Where no such number occurs, the order
composes (`LiveSearch.Json.order_eq_then`) and so is transitive (`LiveSearch.Json.order_trans`).
Integers of at most 53 binary digits never meet such a number
(`LiveSearch.Number.roundsApart_exact`).
-/

namespace LiveSearch

/-- A lawful order composes: the first step that is not an equality decides. -/
theorem compare_eq_then {α : Type} [Ord α] [Std.TransOrd α] {first second third : α}
    (low : compare first second ≠ .gt) (high : compare second third ≠ .gt) :
    compare first third = (compare first second).then (compare second third) := by
  cases step : compare first second with
  | lt => exact Std.TransCmp.lt_of_lt_of_isLE step (Ordering.isLE_iff_ne_gt.mpr high)
  | eq => exact Std.TransCmp.congr_left step
  | gt => exact absurd step low

theorem ne_gt_of_then_ne_gt {first second : Ordering} (notAbove : first.then second ≠ .gt) :
    first ≠ .gt := by
  rintro rfl
  exact notAbove rfl

namespace Number

variable {allowed : Number → Prop}

/-- No number that is allowed is the rounding of two integers that are. -/
def RoundsApart (allowed : Number → Prop) : Prop :=
  ∀ (left right : Int) (value : Binary64), allowed (.integer left) → allowed (.integer right) →
    allowed (.float value) → Binary64.ofInt left = value → Binary64.ofInt right = value →
    left = right

/-- Integers that are not rounded are apart. -/
theorem roundsApart_exact (exact : ∀ value, allowed (.integer value) →
    value ∈ Binary64.exactIntegers) : RoundsApart allowed :=
  fun _ _ _ left right _ same same' =>
    Binary64.ofInt_injOn (exact _ left) (exact _ right) (same.trans same'.symm)

/-- With a number between their roundings, two different integers keep different roundings. -/
theorem RoundsApart.place_lt (apart : RoundsApart allowed) {left right : Int} {value : Binary64}
    (allowedLeft : allowed (.integer left)) (allowedRight : allowed (.integer right))
    (allowedValue : allowed (.float value)) (less : left < right)
    (low : (Binary64.ofInt left).place ≤ value.place)
    (high : value.place ≤ (Binary64.ofInt right).place) :
    (Binary64.ofInt left).place < (Binary64.ofInt right).place := by
  refine lt_of_le_of_ne (low.trans high) fun same => less.ne ?_
  exact apart left right value allowedLeft allowedRight allowedValue
    (Binary64.place_injective (by omega)) (Binary64.place_injective (by omega))

section Mixed

open Binary64 (ofInt)

variable {left right : Int} {value : Binary64} (apart : RoundsApart allowed)
  (allowedLeft : allowed (.integer left)) (allowedRight : allowed (.integer right))
  (allowedValue : allowed (.float value))

include apart allowedLeft allowedRight allowedValue

/-- Two integers with a number between their roundings compare as their roundings do. -/
theorem compare_ofInt (low : (ofInt left).place ≤ value.place)
    (high : value.place ≤ (ofInt right).place) :
    compare left right = compare (ofInt left).place (ofInt right).place := by
  rcases Int.lt_trichotomy left right with less | rfl | greater
  · have := apart.place_lt allowedLeft allowedRight allowedValue less low high
    rw [Int.compare_eq_lt.mpr less, Int.compare_eq_lt.mpr this]
  · rw [Std.ReflOrd.compare_self, Std.ReflOrd.compare_self]
  · -- Rounding keeps the order, so all three places are one.
    have rounded := Binary64.place_ofInt_mono greater.le
    have := apart.place_lt allowedRight allowedLeft allowedValue greater (by omega) (by omega)
    omega

/-- A number above the larger of two integers decides as it would if both were rounded. -/
theorem compare_value_eq_then (low : left ≤ right) (high : (ofInt right).place ≤ value.place) :
    compare (ofInt left).place value.place =
      (compare left right).then (compare (ofInt right).place value.place) := by
  rcases low.eq_or_lt with rfl | less
  · rw [Std.ReflOrd.compare_self]
    rfl
  · have rounded := Binary64.place_ofInt_mono less.le
    have strict : (ofInt left).place < value.place := by
      by_contra reached
      have := apart.place_lt allowedLeft allowedRight allowedValue less (by omega) (by omega)
      omega
    rw [Int.compare_eq_lt.mpr less, Int.compare_eq_lt.mpr strict]
    rfl

/-- A number below the smaller of two integers decides as it would if both were rounded. -/
theorem value_compare_eq_then (low : value.place ≤ (ofInt left).place) (high : left ≤ right) :
    compare value.place (ofInt right).place =
      (compare value.place (ofInt left).place).then (compare left right) := by
  rcases high.eq_or_lt with rfl | less
  · rw [Std.ReflOrd.compare_self, Ordering.then_eq]
  · have rounded := Binary64.place_ofInt_mono less.le
    have strict : value.place < (ofInt right).place := by
      by_contra reached
      have := apart.place_lt allowedLeft allowedRight allowedValue less (by omega) (by omega)
      omega
    rw [Int.compare_eq_lt.mpr less, Int.compare_eq_lt.mpr strict]
    rcases low.lt_or_eq with below | same
    · rw [Int.compare_eq_lt.mpr below]
      rfl
    · rw [same, Std.ReflOrd.compare_self]
      rfl

end Mixed

/-- Where no number is the rounding of two integers, the order composes. -/
theorem order_eq_then (apart : RoundsApart allowed) {first second third : Number}
    (allowed₁ : allowed first) (allowed₂ : allowed second) (allowed₃ : allowed third)
    (low : first.order second ≠ .gt) (high : second.order third ≠ .gt) :
    first.order third = (first.order second).then (second.order third) := by
  -- The two ways to compare mix only where two of the three numbers are integers.
  cases first with
  | integer left =>
      cases second with
      | integer middle =>
          cases third with
          | integer right => exact compare_eq_then low high
          | float value =>
              exact compare_value_eq_then apart allowed₁ allowed₂ allowed₃
                (Int.compare_ne_gt.mp low) (Int.compare_ne_gt.mp high)
      | float value =>
          cases third with
          | integer right =>
              exact (compare_ofInt apart allowed₁ allowed₃ allowed₂ (Int.compare_ne_gt.mp low)
                (Int.compare_ne_gt.mp high)).trans (compare_eq_then low high)
          | float other => exact compare_eq_then low high
  | float value =>
      cases second with
      | integer middle =>
          cases third with
          | integer right =>
              exact value_compare_eq_then apart allowed₂ allowed₃ allowed₁
                (Int.compare_ne_gt.mp low) (Int.compare_ne_gt.mp high)
          | float other => exact compare_eq_then low high
      | float other => cases third <;> exact compare_eq_then low high

end Number

namespace Json

mutual

/-- The numbers that a comparison can reach: those that are in no object. -/
def numbers : Json → List Number
  | number value => [value]
  | array items => numbersOfItems items
  | _ => []

/-- The numbers of all items. -/
def numbersOfItems : List Json → List Number
  | [] => []
  | item :: items => numbers item ++ numbersOfItems items

end

section Kinds

variable {left right : Json}

theorem order_of_kindRank_lt (less : left.kindRank < right.kindRank) : left.order right = .lt := by
  have differ : left.order right = compare left.kindRank right.kindRank := by
    cases left <;> cases right <;> first | rfl | exact absurd less (Nat.lt_irrefl _)
  rw [differ]
  exact Nat.compare_eq_lt.mpr less

theorem kindRank_le (notAbove : left.order right ≠ .gt) : left.kindRank ≤ right.kindRank := by
  by_contra above
  refine notAbove ?_
  rw [order_swap, order_of_kindRank_lt (Nat.lt_of_not_le above)]
  rfl

end Kinds

variable {allowed : Number → Prop}

mutual

/-- Where no number is the rounding of two integers, the order composes. -/
theorem order_eq_then (apart : Number.RoundsApart allowed) {first second third : Json}
    (allowed₁ : ∀ number ∈ first.numbers, allowed number)
    (allowed₂ : ∀ number ∈ second.numbers, allowed number)
    (allowed₃ : ∀ number ∈ third.numbers, allowed number)
    (low : first.order second ≠ .gt) (high : second.order third ≠ .gt) :
    first.order third = (first.order second).then (second.order third) := by
  rcases (kindRank_le low).lt_or_eq with less | same
  · rw [order_of_kindRank_lt less, order_of_kindRank_lt (less.trans_le (kindRank_le high))]
    rfl
  rcases (kindRank_le high).lt_or_eq with less | same'
  · rw [order_of_kindRank_lt less, order_of_kindRank_lt (same ▸ less)]
    cases step : first.order second with
    | gt => exact absurd step low
    | _ => rfl
  cases first with
  | number value =>
      cases second with
      | number other =>
          cases third with
          | number another =>
              rw [order] at low high ⊢
              rw [order, order]
              exact Number.order_eq_then apart (allowed₁ _ (.head _)) (allowed₂ _ (.head _))
                (allowed₃ _ (.head _)) low high
          | _ => exact nomatch same'
      | _ => exact nomatch same
  | string value =>
      cases second with
      | string other =>
          cases third with
          | string another =>
              rw [order] at low high ⊢
              rw [order, order]
              exact compare_eq_then low high
          | _ => exact nomatch same'
      | _ => exact nomatch same
  | bool value =>
      cases second with
      | bool other =>
          cases third with
          | bool another =>
              rw [order] at low high ⊢
              rw [order, order]
              exact compare_eq_then low high
          | _ => exact nomatch same'
      | _ => exact nomatch same
  | array items =>
      cases second with
      | array others =>
          cases third with
          | array more =>
              rw [order] at low high ⊢
              rw [order, order]
              exact orderItems_eq_then apart allowed₁ allowed₂ allowed₃ low high
          | _ => exact nomatch same'
      | _ => exact nomatch same
  | null =>
      cases second with
      | null => rfl
      | _ => exact nomatch same
  | object fields =>
      cases second with
      | object others => rfl
      | _ => exact nomatch same

theorem orderItems_eq_then (apart : Number.RoundsApart allowed) {first second third : List Json}
    (allowed₁ : ∀ number ∈ numbersOfItems first, allowed number)
    (allowed₂ : ∀ number ∈ numbersOfItems second, allowed number)
    (allowed₃ : ∀ number ∈ numbersOfItems third, allowed number)
    (low : orderItems first second ≠ .gt) (high : orderItems second third ≠ .gt) :
    orderItems first third = (orderItems first second).then (orderItems second third) := by
  cases first with
  | nil =>
      cases second with
      | nil => cases third <;> rfl
      | cons other others =>
          cases third with
          | nil => exact absurd rfl high
          | cons another more => rfl
  | cons item items =>
      cases second with
      | nil => exact absurd rfl low
      | cons other others =>
          cases third with
          | nil => exact absurd rfl high
          | cons another more =>
              rw [numbersOfItems, List.forall_mem_append] at allowed₁ allowed₂ allowed₃
              rw [orderItems] at low high ⊢
              rw [orderItems, orderItems]
              have heads := order_eq_then apart allowed₁.1 allowed₂.1 allowed₃.1
                (ne_gt_of_then_ne_gt low) (ne_gt_of_then_ne_gt high)
              have tails := orderItems_eq_then apart allowed₁.2 allowed₂.2 allowed₃.2
              rw [heads]
              cases step : item.order other with
              | lt => rfl
              | gt => exact absurd (step ▸ rfl) (ne_gt_of_then_ne_gt low)
              | eq =>
                  rw [step] at low
                  cases step' : other.order another with
                  | lt =>
                      cases rest : orderItems items others with
                      | gt => exact absurd rest low
                      | _ => rfl
                  | gt => exact absurd step' (ne_gt_of_then_ne_gt high)
                  | eq =>
                      rw [step'] at high
                      exact tails low high

end

theorem order_trans (apart : Number.RoundsApart allowed) {first second third : Json}
    (allowed₁ : ∀ number ∈ first.numbers, allowed number)
    (allowed₂ : ∀ number ∈ second.numbers, allowed number)
    (allowed₃ : ∀ number ∈ third.numbers, allowed number)
    (low : first.order second ≠ .gt) (high : second.order third ≠ .gt) :
    first.order third ≠ .gt := by
  rw [order_eq_then apart allowed₁ allowed₂ allowed₃ low high]
  cases step : first.order second with
  | lt => exact nofun
  | eq => exact high
  | gt => exact absurd step low

/-- Values whose integers have at most 53 binary digits compare transitively. -/
theorem order_trans_of_exact {first second third : Json}
    (exact : ∀ value, .integer value ∈ first.numbers ++ second.numbers ++ third.numbers →
      value ∈ Binary64.exactIntegers)
    (low : first.order second ≠ .gt) (high : second.order third ≠ .gt) :
    first.order third ≠ .gt :=
  order_trans (Number.roundsApart_exact exact)
    (fun _ inside => List.mem_append_left _ (List.mem_append_left _ inside))
    (fun _ inside => List.mem_append_left _ (List.mem_append_right _ inside))
    (fun _ inside => List.mem_append_right _ inside) low high

/-- The order of values is transitive where no number is the rounding of two different integers,
and only there. -/
theorem order_transitive_iff (allowed : Number → Prop) :
    (∀ first second third : Json, (∀ number ∈ first.numbers, allowed number) →
      (∀ number ∈ second.numbers, allowed number) → (∀ number ∈ third.numbers, allowed number) →
      first.order second ≠ .gt → second.order third ≠ .gt → first.order third ≠ .gt) ↔
    Number.RoundsApart allowed := by
  constructor
  · intro transitive left right value allowedLeft allowedRight allowedValue same same'
    have single {number : Number} (granted : allowed number) :
        ∀ other ∈ (Json.number number).numbers, allowed other := by
      intro other inside
      rw [numbers, List.mem_singleton] at inside
      exact inside ▸ granted
    have equal (number : Binary64) : number.compareTotal number ≠ .gt := by
      rw [Binary64.compareTotal, Std.ReflOrd.compare_self]
      decide
    -- The higher integer is not above the number, nor is that above the lower integer.
    have notAbove {low high : Int} (allowedLow : allowed (.integer low))
        (allowedHigh : allowed (.integer high)) (lowSame : Binary64.ofInt low = value)
        (highSame : Binary64.ofInt high = value) : high ≤ low := by
      have first : (Json.number (.integer high)).order (.number (.float value)) ≠ .gt := by
        rw [order, Number.order, Number.toBinary64, highSame]
        · exact equal value
        · intro _ _ _ same
          cases same
      have second : (Json.number (.float value)).order (.number (.integer low)) ≠ .gt := by
        rw [order, Number.order, Number.toBinary64, Number.toBinary64, lowSame]
        · exact equal value
        · intro _ _ same
          cases same
      have ordered := transitive _ _ _ (single allowedHigh) (single allowedValue)
        (single allowedLow) first second
      rw [order] at ordered
      exact Int.compare_ne_gt.mp ordered
    exact Int.le_antisymm (notAbove allowedRight allowedLeft same' same)
      (notAbove allowedLeft allowedRight same same')
  · intro apart first second third allowed₁ allowed₂ allowed₃ low high
    exact order_trans apart allowed₁ allowed₂ allowed₃ low high

/-- Two neighbours that fit a word of 64 bits both equal the number that one of them is rounded to,
but not each other. -/
theorem order_not_transitive :
    let above := Json.int 9007199254740993
    let between := Json.number (.float (Binary64.ofInt 9007199254740992))
    let below := Json.int 9007199254740992
    above.order between ≠ .gt ∧ between.order below ≠ .gt ∧ above.order below = .gt := by
  decide +kernel

end Json

end LiveSearch
