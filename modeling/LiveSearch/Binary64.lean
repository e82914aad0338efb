/-!
# Finite binary64 numbers

A finite number of the binary64 format is a sign together with the position of its magnitude in
the increasing list of all magnitudes of the format.  The position of a magnitude is also the
number that its exponent and fraction bits spell, so no arithmetic on the fields is needed to
compare two numbers.  All computation is exact arithmetic on natural numbers.

Main definitions: `Binary64.compareTotal` is the order in which the two zeros differ,
`Binary64.sameValue` the equality in which they do not, and `Binary64.ofRatio` the nearest number
to a quotient.
-/

namespace LiveSearch

/-- The number of magnitudes between one power of two and the next: 2 to the power of 52. -/
def binade : Nat := 0x10000000000000

/-- A finite number: its sign and the position of its magnitude among all magnitudes. -/
structure Binary64 where
  negative : Bool
  rank : Nat
  finite : rank < 2047 * binade
deriving DecidableEq

namespace Binary64

/-- Positive or negative zero. -/
def zero (negative : Bool) : Binary64 := ⟨negative, 0, by decide⟩

instance : Inhabited Binary64 := ⟨zero false⟩

/-- The number of halvings that separate the unit of the last place from the largest one. -/
def scale (number : Binary64) : Nat := number.rank / binade - 1

/-- The magnitude counted in units of the last place. -/
def significand (number : Binary64) : Nat := number.rank - number.scale * binade

/-- The magnitude counted in units of the smallest positive number, which is 2 to the power of
-1074. -/
def units (number : Binary64) : Nat := number.significand <<< number.scale

/-- A place on the integer line that puts every negative number, negative zero included, below
every positive one. -/
def place (number : Binary64) : Int :=
  if number.negative then -(number.rank : Int) - 1 else number.rank

/-- The total order: by value, with negative zero below positive zero. -/
def compareTotal (left right : Binary64) : Ordering := compare left.place right.place

/-- Equality of values: the two zeros are equal. -/
def sameValue (left right : Binary64) : Bool :=
  left.rank == right.rank && (left.negative == right.negative || left.rank == 0)

/-- The natural number nearest to a quotient; of two equally near, the even one. -/
def nearestQuotient (numerator denominator : Nat) : Nat :=
  let quotient := numerator / denominator
  let twiceRest := 2 * (numerator % denominator)
  if twiceRest < denominator then quotient
  else if denominator < twiceRest then quotient + 1
  else quotient + quotient % 2

/-- The number nearest to `numerator / denominator`, the even one of two equally near; `none` when
the quotient lies beyond the largest finite number. -/
def ofRatio (negative : Bool) (numerator denominator : Nat) : Option Binary64 :=
  let wide := numerator <<< 1074
  let scale := Nat.log2 (wide / denominator) - 52
  let rank := scale * binade + nearestQuotient wide (denominator <<< scale)
  if finite : rank < 2047 * binade then some ⟨negative, rank, finite⟩ else none

/-- The number nearest to an integer; integers beyond the finite range give the largest number of
their sign. -/
def ofInt (value : Int) : Binary64 :=
  (ofRatio (decide (value < 0)) value.natAbs 1).getD
    ⟨decide (value < 0), 2047 * binade - 1, by decide⟩

end Binary64

end LiveSearch
