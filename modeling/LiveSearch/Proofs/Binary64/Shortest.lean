import Mathlib.Algebra.Order.Field.Rat
import Mathlib.Tactic.FieldSimp
import Mathlib.Tactic.Linarith
import Mathlib.Tactic.Positivity
import Mathlib.Tactic.Ring
import LiveSearch.Binary64.Decimal
import LiveSearch.Proofs.Binary64.Rounding

/-! # Shortest decimals tell numbers apart

The intervals of numbers that are read as one binary64 number lie side by side: each begins where
the one before it ends (`LiveSearch.Binary64.low_interval`), and of two neighbours one is open. So
no value lies in the intervals of two magnitudes (`LiveSearch.Binary64.rank_eq_of_contains`). The
shortest decimal of a number lies in its interval (`LiveSearch.Binary64.contains_shortest`), and
hence belongs to one magnitude alone (`LiveSearch.Binary64.rank_eq_of_shortest`).
-/

namespace LiveSearch

namespace Binary64

section Edges

/-- The upper end of the interval of a magnitude, in quarters of the smallest positive number. -/
def upperEdge (rank : Nat) : Nat :=
  (4 * (rank - (rank / binade - 1) * binade) + 2) * 2 ^ (rank / binade - 1)

theorem high_interval (number : Binary64) : number.interval.high = upperEdge number.rank := by
  rw [interval, upperEdge, Nat.one_shiftLeft]
  rfl

/-- The interval of a magnitude begins where that of the one before it ends. -/
theorem low_interval {number : Binary64} (positive : number.rank ≠ 0) :
    number.interval.low = upperEdge (number.rank - 1) := by
  simp only [interval, upperEdge, Nat.one_shiftLeft]
  by_cases narrow : number.significand = binade ∧ 0 < number.scale
  · -- At a power of two the step below is half the step above.
    rw [if_pos narrow]
    obtain ⟨exponent, same⟩ : ∃ exponent, number.scale = exponent + 1 :=
      ⟨_, (Nat.sub_add_cancel narrow.2).symm⟩
    have before : (number.rank - 1) / binade - 1 = exponent := by
      unfold significand scale binade at *
      omega
    have below : 4 * number.significand - 1 = 0x3fffffffffffff := by
      rw [narrow.1, binade]
    have above : 4 * (number.rank - 1 - exponent * binade) + 2 = 2 * 0x3fffffffffffff := by
      unfold significand scale binade at *
      omega
    rw [before, same, Nat.pow_succ, below, above]
    ring
  · rw [if_neg narrow]
    unfold significand scale binade at *
    have before : (number.rank - 1) / 0x10000000000000 - 1 =
        number.rank / 0x10000000000000 - 1 := by omega
    rw [before]
    congr 1
    omega

theorem strictMono_upperEdge : StrictMono upperEdge := by
  refine strictMono_nat_of_lt_succ fun rank => ?_
  unfold upperEdge binade
  have step : (rank + 1) / 0x10000000000000 - 1 = rank / 0x10000000000000 - 1 ∨
      (rank + 1) / 0x10000000000000 - 1 = rank / 0x10000000000000 - 1 + 1 ∧
        rank + 1 = (rank / 0x10000000000000 - 1 + 2) * 0x10000000000000 := by omega
  rcases step with same | ⟨next, border⟩
  · rw [same]
    refine Nat.mul_lt_mul_of_pos_right ?_ (Nat.two_pow_pos _)
    omega
  · rw [next, Nat.pow_succ]
    generalize rank / 0x10000000000000 - 1 = scale at border
    have below : 4 * (rank - scale * 0x10000000000000) + 2 = 2 * 0x3fffffffffffff := by omega
    have above : 4 * (rank + 1 - (scale + 1) * 0x10000000000000) + 2 =
        0x40000000000002 := by omega
    rw [below, above]
    have positive := Nat.two_pow_pos scale
    omega

theorem closed_interval (number : Binary64) :
    number.interval.closed = decide (number.rank % 2 = 0) := by
  simp only [interval, significand, scale]
  unfold binade
  congr 1
  rw [eq_iff_iff]
  omega

end Edges

/-- A quotient lies in the interval. -/
def Interval.Contains (range : Interval) (value : ℚ) : Prop :=
  if range.closed then range.low ≤ value ∧ value ≤ range.high
  else range.low < value ∧ value < range.high

namespace Interval

variable {range : Interval} {value : ℚ}

theorem Contains.low_le (contains : range.Contains value) : (range.low : ℚ) ≤ value := by
  unfold Contains at contains
  split at contains
  · exact contains.1
  · exact contains.1.le

theorem Contains.le_high (contains : range.Contains value) : value ≤ range.high := by
  unfold Contains at contains
  split at contains
  · exact contains.2
  · exact contains.2.le

/-- Only a closed interval contains its ends. -/
theorem Contains.closed_of_end (contains : range.Contains value)
    (atEnd : value = range.low ∨ value = range.high) : range.closed = true := by
  unfold Contains at contains
  split at contains
  · assumption
  · rcases atEnd with same | same
    · exact absurd contains.1 (same ▸ lt_irrefl _)
    · exact absurd contains.2 (same ▸ lt_irrefl _)

theorem holds_iff (range : Interval) (amount : Nat) {denominator : Nat}
    (positive : 0 < denominator) :
    range.holds amount denominator = true ↔ range.Contains (amount / denominator) := by
  have above : (0 : ℚ) < denominator := Nat.cast_pos.mpr positive
  unfold holds Contains
  split
  · simp only [Bool.and_eq_true, decide_eq_true_eq, le_div_iff₀ above, div_le_iff₀ above]
    norm_cast
  · simp only [Bool.and_eq_true, decide_eq_true_eq, lt_div_iff₀ above, div_lt_iff₀ above]
    norm_cast

end Interval

/-- No value lies in the intervals of two magnitudes. -/
theorem rank_eq_of_contains {first second : Binary64} {value : ℚ} (one : first.rank ≠ 0)
    (two : second.rank ≠ 0) (left : first.interval.Contains value)
    (right : second.interval.Contains value) : first.rank = second.rank := by
  have apart {lesser greater : Binary64} (nonzero : greater.rank ≠ 0)
      (below : lesser.interval.Contains value) (above : greater.interval.Contains value) :
      ¬ lesser.rank < greater.rank := by
    intro less
    have ends : (lesser.interval.high : ℚ) ≤ greater.interval.low := by
      rw [high_interval, low_interval nonzero, Nat.cast_le]
      exact strictMono_upperEdge.monotone (Nat.le_sub_one_of_lt less)
    have atHigh := le_antisymm below.le_high (ends.trans above.low_le)
    have atLow := le_antisymm (below.le_high.trans ends) above.low_le
    -- The value is where the first interval ends and the second begins, so both are closed.
    have next : lesser.rank = greater.rank - 1 := by
      refine strictMono_upperEdge.injective ?_
      rw [← high_interval, ← low_interval nonzero]
      exact_mod_cast atHigh.symm.trans atLow
    have even := below.closed_of_end (.inr atHigh)
    have also := above.closed_of_end (.inl atLow)
    rw [closed_interval, decide_eq_true_eq] at even also
    omega
  rcases Nat.lt_trichotomy first.rank second.rank with less | same | more
  · exact absurd less (apart two left right)
  · exact same
  · exact absurd more (apart one right left)

/-- The value of a decimal. -/
def Decimal.value (decimal : Decimal) : ℚ := decimal.digits * 10 ^ decimal.exponent

section Shortest

/-- One step on a grid, counted in quarters of the smallest positive number. -/
private theorem step_div (exponent : Int) :
    (((if 0 ≤ exponent then quarters * tenTo exponent.toNat else quarters : Nat) : ℚ) /
      ((if 0 ≤ exponent then 1 else tenTo (-exponent).toNat : Nat) : ℚ)) =
        quarters * (10 : ℚ) ^ exponent := by
  have power (count : Nat) : ((tenTo count : Nat) : ℚ) = 10 ^ count := by
    rw [tenTo]
    exact_mod_cast rfl
  by_cases positive : 0 ≤ exponent
  · obtain ⟨count, rfl⟩ := Int.eq_ofNat_of_zero_le positive
    simp only [positive, ↓reduceIte, Int.toNat_natCast, Nat.cast_mul, power, Nat.cast_one, div_one,
      zpow_natCast]
  · obtain ⟨count, rfl⟩ := Int.exists_eq_neg_ofNat (Int.le_of_not_le positive)
    simp only [positive, ↓reduceIte, neg_neg, Int.toNat_natCast, power, zpow_neg, zpow_natCast,
      div_eq_mul_inv]

/-- A hit on a grid lies in the interval. -/
theorem contains_onGrid {range : Interval} {exponent : Int} {hit : Decimal}
    (found : range.onGrid exponent = some hit) : range.Contains (quarters * hit.value) := by
  have steps := step_div exponent
  have positive : 0 < if 0 ≤ exponent then 1 else tenTo (-exponent).toNat := by
    split
    · exact Nat.one_pos
    · exact Nat.pow_pos (by decide)
  unfold Interval.onGrid at found
  dsimp only at found
  generalize (if 0 ≤ exponent then quarters * tenTo exponent.toNat else quarters) = step at *
  generalize (if 0 ≤ exponent then 1 else tenTo (-exponent).toNat) = denominator at *
  have contains {digits : Nat} (holds : range.holds (digits * step) denominator = true) :
      range.Contains (quarters * (⟨digits, exponent⟩ : Decimal).value) := by
    have inside := (range.holds_iff _ positive).mp holds
    rw [Nat.cast_mul, mul_div_assoc, steps, ← mul_assoc, mul_comm (digits : ℚ),
      mul_assoc] at inside
    exact inside
  split at found
  · exact nomatch found
  · rename_i low _
    rw [← Option.some.inj found]
    exact contains low
  · rename_i _ high
    rw [← Option.some.inj found]
    exact contains high
  · rename_i low high
    rw [← Option.some.inj found]
    rcases nearestQuotient_cases (range.value * denominator) step with same | same
    · rw [same]
      exact contains low
    · rw [same]
      exact contains high

theorem contains_firstHit {range : Interval} {leading : Int} {places remaining : Nat}
    {hit : Decimal} (found : range.firstHit leading places remaining = some hit) :
    range.Contains (quarters * hit.value) := by
  induction remaining generalizing places with
  | zero => exact nomatch found
  | succ remaining ih =>
      unfold Interval.firstHit at found
      split at found
      · rename_i grid
        rw [← Option.some.inj found]
        exact contains_onGrid grid
      · exact ih found

/-- Trailing zeros do not matter. -/
theorem value_trim (fuel : Nat) (decimal : Decimal) :
    (decimal.trim fuel).value = decimal.value := by
  induction fuel generalizing decimal with
  | zero => rfl
  | succ fuel ih =>
      unfold Decimal.trim
      split
      · rename_i trailing
        rw [ih, Decimal.value, Decimal.value, zpow_add_one₀ (by norm_num)]
        have whole : decimal.digits / 10 * 10 = decimal.digits :=
          Nat.div_mul_cancel (Nat.dvd_of_mod_eq_zero trailing.2)
        have cast : ((decimal.digits / 10 : Nat) : ℚ) * 10 = decimal.digits := by
          exact_mod_cast whole
        rw [← cast]
        ring
      · rfl

private theorem quarters_exact (units count : Nat) {exponent : ℤ}
    (down : exponent = -(count : ℤ)) :
    ((4 <<< count : Nat) : ℚ) * (((units * Nat.pow 5 count : Nat) : ℚ) * 10 ^ exponent) =
      ((4 * units : Nat) : ℚ) := by
  have ten : (10 : ℚ) ^ count = 2 ^ count * 5 ^ count := by
    rw [← mul_pow]
    norm_num
  rw [down, zpow_neg, zpow_natCast, ten, Nat.shiftLeft_eq, Nat.pow_eq]
  push_cast
  field_simp

/-- A number itself lies in its interval. -/
theorem contains_exact {number : Binary64} (nonzero : number.rank ≠ 0) :
    number.interval.Contains (quarters * number.exact.value) := by
  have value : (quarters : ℚ) * number.exact.value = ((4 * number.units : Nat) : ℚ) := by
    obtain ⟨count, same⟩ : ∃ count : Nat, count = 1074 := ⟨_, rfl⟩
    rw [quarters, exact, Decimal.value, ← same]
    have down : (-1074 : ℤ) = -(count : ℤ) := by omega
    exact quarters_exact number.units count down
  have some : 0 < number.significand := by
    unfold significand scale binade
    omega
  have unit := Nat.two_pow_pos number.scale
  have low : number.interval.low < 4 * number.units := by
    simp only [interval, units, Nat.shiftLeft_eq, one_mul, ← mul_assoc]
    refine Nat.mul_lt_mul_of_pos_right ?_ unit
    split <;> omega
  have high : 4 * number.units < number.interval.high := by
    simp only [interval, units, Nat.shiftLeft_eq, one_mul, ← mul_assoc]
    refine Nat.mul_lt_mul_of_pos_right ?_ unit
    omega
  rw [value]
  unfold Interval.Contains
  split
  · exact ⟨Nat.cast_le.mpr low.le, Nat.cast_le.mpr high.le⟩
  · exact ⟨Nat.cast_lt.mpr low, Nat.cast_lt.mpr high⟩

/-- The shortest decimal of a number lies in its interval. -/
theorem contains_shortest {number : Binary64} (nonzero : number.rank ≠ 0) :
    number.interval.Contains (quarters * number.shortest.value) := by
  rw [shortest, if_neg nonzero, value_trim]
  cases found : number.interval.firstHit
      (leadingExponent number.interval.value quarters) 0 18 with
  | none => exact contains_exact nonzero
  | some hit => exact contains_firstHit found

/-- Magnitudes with the same shortest decimal are the same. -/
theorem rank_eq_of_shortest {first second : Binary64}
    (same : first.shortest.value = second.shortest.value) : first.rank = second.rank := by
  have zero {number : Binary64} (none : number.rank = 0) : number.shortest.value = 0 := by
    rw [shortest, if_pos none, Decimal.value, Nat.cast_zero, zero_mul]
  have positive {number : Binary64} (some : number.rank ≠ 0) : number.shortest.value ≠ 0 := by
    intro equal
    have low := (contains_shortest some).low_le
    rw [equal, mul_zero, low_interval some] at low
    have edge : 0 < upperEdge (number.rank - 1) :=
      Nat.mul_pos (Nat.succ_pos _) (Nat.two_pow_pos _)
    exact edge.ne' (Nat.cast_nonpos.mp low)
  by_cases one : first.rank = 0
  · by_cases two : second.rank = 0
    · rw [one, two]
    · exact absurd (same.symm.trans (zero one)) (positive two)
  · by_cases two : second.rank = 0
    · exact absurd (same.trans (zero two)) (positive one)
    · exact rank_eq_of_contains one two (contains_shortest one) (same ▸ contains_shortest two)

end Shortest

end Binary64

end LiveSearch
