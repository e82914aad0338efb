import Mathlib.Algebra.Group.Nat.Defs
import Mathlib.Data.Nat.Log
import Mathlib.Data.Set.Function
import Mathlib.Order.Lattice
import LiveSearch.Binary64

/-! # Rounding integers

Rounding keeps the order: of two integers the smaller one is not rounded to the larger number
(`LiveSearch.Binary64.place_ofInt_mono`). Different integers may be rounded to one number, but not
when each has at most 53 binary digits (`LiveSearch.Binary64.ofInt_injOn`).
-/

namespace LiveSearch

namespace Binary64

theorem place_injective : Function.Injective place := by
  rintro ⟨_ | _, rank, finite⟩ ⟨_ | _, other, finite'⟩ same <;>
    simp only [place, Bool.false_eq_true, if_false, if_true] at same
  · obtain rfl : rank = other := by omega
    rfl
  · omega
  · omega
  · obtain rfl : rank = other := by omega
    rfl

section Quotients

variable {left right step : Nat}

/-- Rounding a quotient gives one of its neighbours. -/
theorem nearestQuotient_cases (numerator denominator : Nat) :
    nearestQuotient numerator denominator = numerator / denominator ∨
      nearestQuotient numerator denominator = numerator / denominator + 1 := by
  unfold nearestQuotient
  grind

/-- A quotient without rest is its own nearest number. -/
theorem nearestQuotient_mul (count : Nat) (positive : 0 < step) :
    nearestQuotient (count * step) step = count := by
  unfold nearestQuotient
  simp only [Nat.mul_mod_left, Nat.mul_div_cancel _ positive, Nat.mul_zero, if_pos positive]

theorem nearestQuotient_mono (step : Nat) (ordered : left ≤ right) :
    nearestQuotient left step ≤ nearestQuotient right step := by
  have quotients : left / step ≤ right / step := Nat.div_le_div_right ordered
  rcases Nat.lt_or_eq_of_le quotients with less | same
  · have := nearestQuotient_cases left step
    have := nearestQuotient_cases right step
    omega
  · -- Equal quotients leave the rests to decide.
    have rests : left % step ≤ right % step := by
      have := Nat.div_add_mod left step
      have := Nat.div_add_mod right step
      rw [same] at *
      omega
    unfold nearestQuotient
    rw [same]
    grind

end Quotients

/-- The rank to which a number of units is rounded in the format without a largest number. -/
def nearestRank (units : Nat) : Nat :=
  (Nat.log2 units - 52) * binade + nearestQuotient units (2 ^ (Nat.log2 units - 52))

section Ranks

variable {left right : Nat}

theorem log2_mono (ordered : left ≤ right) : Nat.log2 left ≤ Nat.log2 right := by
  simpa only [Nat.log2_eq_log_two] using Nat.log_mono_right ordered

/-- At its own scale a number of units is below two binades. -/
theorem lt_scaled (units : Nat) : units < 2 * binade * 2 ^ (Nat.log2 units - 52) := by
  have two : 2 * binade = 2 ^ 53 := by decide
  rw [two, ← Nat.pow_add]
  exact Nat.lt_log2_self.trans_le (Nat.pow_le_pow_right (by decide) (by omega))

/-- Above the lowest scale it is not below one binade. -/
theorem scaled_le {units : Nat} (large : 0 < Nat.log2 units - 52) :
    binade * 2 ^ (Nat.log2 units - 52) ≤ units := by
  have one : binade = 2 ^ 52 := by decide
  have nonzero : units ≠ 0 := by
    rintro rfl
    exact absurd large (by decide)
  rw [one, ← Nat.pow_add, Nat.add_sub_cancel' (by omega)]
  exact Nat.log2_self_le nonzero

theorem nearestRank_mono (ordered : left ≤ right) : nearestRank left ≤ nearestRank right := by
  have scales : Nat.log2 left - 52 ≤ Nat.log2 right - 52 :=
    Nat.sub_le_sub_right (log2_mono ordered) 52
  rcases Nat.lt_or_eq_of_le scales with less | same
  · -- The quotient of a smaller scale reaches at most the next binade.
    have below : nearestQuotient left (2 ^ (Nat.log2 left - 52)) ≤ 2 * binade :=
      (nearestQuotient_mono _ (lt_scaled left).le).trans
        (nearestQuotient_mul _ (Nat.two_pow_pos _)).le
    have above : binade ≤ nearestQuotient right (2 ^ (Nat.log2 right - 52)) :=
      (nearestQuotient_mul _ (Nat.two_pow_pos _)).ge.trans
        (nearestQuotient_mono _ (scaled_le (by omega)))
    unfold nearestRank binade at *
    omega
  · unfold nearestRank
    rw [same]
    exact Nat.add_le_add_left (nearestQuotient_mono _ ordered) _

/-- Whole steps of their scales are not rounded, so different ones keep different ranks. -/
theorem nearestRank_strictMono (whole : 2 ^ (Nat.log2 left - 52) ∣ left)
    (whole' : 2 ^ (Nat.log2 right - 52) ∣ right) (less : left < right) :
    nearestRank left < nearestRank right := by
  have scales : Nat.log2 left - 52 ≤ Nat.log2 right - 52 :=
    Nat.sub_le_sub_right (log2_mono less.le) 52
  have leftFits := lt_scaled left
  have rightFills (large : 0 < Nat.log2 right - 52) := scaled_le large
  unfold nearestRank
  generalize Nat.log2 left - 52 = scale at *
  generalize Nat.log2 right - 52 = scale' at *
  obtain ⟨count, rfl⟩ : ∃ count, left = count * 2 ^ scale := ⟨_, (Nat.div_mul_cancel whole).symm⟩
  obtain ⟨count', rfl⟩ : ∃ count, right = count * 2 ^ scale' :=
    ⟨_, (Nat.div_mul_cancel whole').symm⟩
  rw [nearestQuotient_mul _ (Nat.two_pow_pos _), nearestQuotient_mul _ (Nat.two_pow_pos _)]
  have fits : count < 2 * binade := Nat.lt_of_mul_lt_mul_right leftFits
  rcases Nat.lt_or_eq_of_le scales with lower | rfl
  · have fills : binade ≤ count' :=
      Nat.le_of_mul_le_mul_right (rightFills (by omega)) (Nat.two_pow_pos _)
    unfold binade at *
    omega
  · exact Nat.add_lt_add_left (Nat.lt_of_mul_lt_mul_right less) _

variable {magnitude : Nat} (count : Nat)

theorem shiftLeft_lt_shiftLeft (less : left < right) : left <<< count < right <<< count := by
  rw [Nat.shiftLeft_eq, Nat.shiftLeft_eq]
  exact Nat.mul_lt_mul_of_pos_right less (Nat.two_pow_pos count)

/-- A magnitude of at most 53 binary digits is a whole number of steps of its scale. -/
theorem scale_dvd_shiftLeft (exact : magnitude ≤ 2 ^ 53) :
    2 ^ (Nat.log2 (magnitude <<< count) - 52) ∣ magnitude <<< count := by
  rcases Nat.lt_or_eq_of_le exact with less | rfl
  · have small : magnitude <<< count < 2 ^ (53 + count) := by
      rw [Nat.pow_add, ← Nat.shiftLeft_eq]
      exact shiftLeft_lt_shiftLeft count less
    have scale : Nat.log2 (magnitude <<< count) - 52 ≤ count := by
      by_cases zero : magnitude <<< count = 0
      · rw [zero, show Nat.log2 0 - 52 = 0 by decide]
        exact Nat.zero_le count
      · have := (Nat.log2_lt zero).mpr small
        omega
    rw [Nat.shiftLeft_eq] at scale ⊢
    exact Nat.dvd_trans (Nat.pow_dvd_pow 2 scale) (Nat.dvd_mul_left _ _)
  · rw [Nat.shiftLeft_eq, ← Nat.pow_add, Nat.log2_two_pow]
    exact Nat.pow_dvd_pow 2 (Nat.sub_le _ _)

theorem nearestRank_two_pow (exponent : Nat) :
    nearestRank (2 ^ (52 + exponent)) = (exponent + 1) * binade := by
  have one : binade = 2 ^ 52 := by decide
  rw [nearestRank, Nat.log2_two_pow, Nat.add_sub_cancel_left, Nat.pow_add, ← one,
    nearestQuotient_mul _ (Nat.two_pow_pos _), Nat.succ_mul]

theorem nearestRank_shiftLeft_le (exact : magnitude ≤ 2 ^ 53) :
    nearestRank (magnitude <<< count) ≤ (count + 2) * binade := by
  have top : 2 ^ 53 * 2 ^ count = 2 ^ (52 + (count + 1)) := by
    rw [← Nat.pow_add]
    congr 1
    omega
  rw [Nat.shiftLeft_eq, ← nearestRank_two_pow, ← top]
  exact nearestRank_mono (Nat.mul_le_mul_right _ exact)

end Ranks

theorem negative_ofInt (value : Int) : (ofInt value).negative = decide (value < 0) := by
  unfold ofInt ofRatio
  dsimp only
  split <;> rfl

theorem rank_ofInt (value : Int) :
    (ofInt value).rank = min (nearestRank (value.natAbs <<< 1074)) (2047 * binade - 1) := by
  unfold ofInt ofRatio nearestRank
  dsimp only
  rw [Nat.div_one, Nat.one_shiftLeft]
  split
  · next finite => exact (Nat.min_eq_left (Nat.le_sub_one_of_lt finite)).symm
  · next large => exact (Nat.min_eq_right ((Nat.sub_le _ _).trans (Nat.le_of_not_lt large))).symm

/-- Rounding keeps the order. -/
theorem place_ofInt_mono {left right : Int} (ordered : left ≤ right) :
    (ofInt left).place ≤ (ofInt right).place := by
  have ranks (low high : Int) (magnitudes : low.natAbs ≤ high.natAbs) :
      (ofInt low).rank ≤ (ofInt high).rank := by
    rw [rank_ofInt, rank_ofInt, Nat.shiftLeft_eq, Nat.shiftLeft_eq]
    exact inf_le_inf_right _ (nearestRank_mono (Nat.mul_le_mul_right _ magnitudes))
  simp only [place, negative_ofInt, decide_eq_true_eq]
  by_cases below : right < 0
  · have := ranks right left (by omega)
    rw [if_pos below, if_pos (by omega)]
    omega
  · by_cases mixed : left < 0
    · rw [if_pos mixed, if_neg below]
      omega
    · have := ranks left right (by omega)
      rw [if_neg mixed, if_neg below]
      omega

section Exact

/-- The integers with at most 53 binary digits, and the first one with 54. -/
def exactIntegers : Set Int :=
  {value | value.natAbs ≤ 2 ^ 53}

variable {value : Int}

theorem rank_of_exact (exact : value ∈ exactIntegers) :
    (ofInt value).rank = nearestRank (value.natAbs <<< 1074) := by
  rw [rank_ofInt]
  refine min_eq_left ((nearestRank_shiftLeft_le 1074 exact).trans ?_)
  decide

/-- Integers of that size are not rounded. -/
theorem ofInt_injOn : Set.InjOn ofInt exactIntegers := by
  intro left exact right exact' same
  have signs : left < 0 ↔ right < 0 := by
    simpa only [negative_ofInt, decide_eq_decide] using congrArg negative same
  have ranks := congrArg rank same
  rw [rank_of_exact exact, rank_of_exact exact'] at ranks
  have differ {low high : Int} (exact : low ∈ exactIntegers) (exact' : high ∈ exactIntegers)
      (less : low.natAbs < high.natAbs) :
      nearestRank (low.natAbs <<< 1074) < nearestRank (high.natAbs <<< 1074) := by
    refine nearestRank_strictMono (scale_dvd_shiftLeft 1074 exact)
      (scale_dvd_shiftLeft 1074 exact') ?_
    exact shiftLeft_lt_shiftLeft 1074 less
  rcases Nat.lt_trichotomy left.natAbs right.natAbs with less | equal | greater
  · exact absurd ranks (differ exact exact' less).ne
  · omega
  · exact absurd ranks (differ exact' exact greater).ne'

end Exact

end Binary64

end LiveSearch
