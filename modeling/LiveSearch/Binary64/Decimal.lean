import LiveSearch.Binary64

/-!
# Decimal text of binary64 numbers

Reading is quick instead of exact: the digits and the power of ten that scales them are rounded, and
so is their product or quotient.  Writing uses the fewest decimal digits to which no other number is
as near, and of those the digits nearest to the exact value.  `Binary64.Layout` fixes where plain
notation ends and how an exponent is written.
-/

namespace LiveSearch

/-- A power of ten. -/
def tenTo (exponent : Nat) : Nat := Nat.pow 10 exponent

/-- The number of decimal digits, one for zero. -/
def decimalLength (value : Nat) : Nat := (Nat.toDigits 10 value).length

namespace Binary64

/-- The largest exponent of a power of ten in the finite range. -/
def largestTen : Nat := 308

/-- The number nearest to a power of ten. -/
def nearestTen? (exponent : Nat) : Option Binary64 := ofRatio false (tenTo exponent) 1

/-- The product of a positive number and the nearest number to a power of ten. -/
def timesTen? (number : Binary64) (places : Nat) : Option Binary64 := do
  let ten ← nearestTen? places
  ofRatio false (number.units * ten.units) (1 <<< 2148)

/-- The quotient of a positive number and the nearest number to a power of ten. -/
def overTen? (number : Binary64) (places : Nat) : Option Binary64 := do
  let ten ← nearestTen? places
  ofRatio false number.units ten.units

/-- A positive number, divided by powers of ten until it has been moved by all places or is zero. -/
def shrink? (number : Binary64) (places : Nat) : Option Binary64 :=
  if places ≤ largestTen then number.overTen? places
  else if number.rank = 0 then some number
  else (number.overTen? largestTen).bind fun less => less.shrink? (places - largestTen)
termination_by places
decreasing_by simp only [largestTen] at *; omega

/-- A positive number, multiplied by a power of ten; `none` beyond the finite range. -/
def grow? (number : Binary64) (places : Nat) : Option Binary64 :=
  if places ≤ largestTen then number.timesTen? places
  else if number.rank = 0 then some number
  else none

/-- The number read for `significand * 10 ^ exponent`, `none` beyond the finite range.  It need not
be the nearest one: the significand is rounded before it is scaled, and the result once more. -/
def ofDecimal (negative : Bool) (significand : Nat) (exponent : Int) : Option Binary64 := do
  let number ← ofRatio false significand 1
  let scaled ←
    if 0 ≤ exponent then number.grow? exponent.toNat else number.shrink? (-exponent).toNat
  some { scaled with negative }

/-- A positive decimal value `digits * 10 ^ exponent`. -/
structure Decimal where
  digits : Nat
  exponent : Int
deriving DecidableEq

/-- The interval of values to which one number is the nearest, together with that number, all
counted in quarters of the smallest positive number. -/
structure Interval where
  low : Nat
  value : Nat
  high : Nat
  closed : Bool

/-- The values nearer to this number than to its neighbours.  The ends belong to the interval when
ties are resolved towards this number. -/
def interval (number : Binary64) : Interval :=
  let unit := 1 <<< number.scale
  let narrow := number.significand = binade ∧ 0 < number.scale
  { low := (4 * number.significand - if narrow then 1 else 2) * unit
    value := 4 * number.significand * unit
    high := (4 * number.significand + 2) * unit
    closed := number.significand % 2 = 0 }

/-- Whether `amount / denominator` lies in the interval. -/
def Interval.holds (range : Interval) (amount denominator : Nat) : Bool :=
  let low := range.low * denominator
  let high := range.high * denominator
  if range.closed then low ≤ amount && amount ≤ high else low < amount && amount < high

/-- The quarters of the smallest positive number in one. -/
def quarters : Nat := 4 <<< 1074

/-- The exponent of the leading decimal digit of `numerator / denominator`. -/
def leadingExponent (numerator denominator : Nat) : Int :=
  if denominator ≤ numerator then decimalLength (numerator / denominator) - 1
  else
    let length := decimalLength (denominator / numerator)
    if denominator ≤ numerator * tenTo (length - 1) then 1 - (length : Int) else -(length : Int)

/-- On the grid of multiples of `10 ^ exponent`, the neighbour of the value that lies in the
interval; the nearer one if both do, and the even one of two equally near. -/
def Interval.onGrid (range : Interval) (exponent : Int) : Option Decimal :=
  let step := if 0 ≤ exponent then quarters * tenTo exponent.toNat else quarters
  let denominator := if 0 ≤ exponent then 1 else tenTo (-exponent).toNat
  let value := range.value * denominator
  let below := value / step
  let lowHit := range.holds (below * step) denominator
  let highHit := range.holds ((below + 1) * step) denominator
  match lowHit, highHit with
  | false, false => none
  | true, false => some ⟨below, exponent⟩
  | false, true => some ⟨below + 1, exponent⟩
  | true, true => some ⟨nearestQuotient value step, exponent⟩

/-- The first grid, from coarse to fine, with a hit. -/
def Interval.firstHit (range : Interval) (leading : Int) : Nat → Nat → Option Decimal
  | _, 0 => none
  | places, remaining + 1 =>
    match range.onGrid (leading - places) with
    | some hit => some hit
    | none => range.firstHit leading (places + 1) remaining

/-- The value without its trailing zeros, at most `fuel` of them. -/
def Decimal.trim : Nat → Decimal → Decimal
  | 0, decimal => decimal
  | fuel + 1, decimal =>
    if decimal.digits ≠ 0 ∧ decimal.digits % 10 = 0 then
      Decimal.trim fuel ⟨decimal.digits / 10, decimal.exponent + 1⟩
    else decimal

/-- The decimal value that is the magnitude itself. -/
def exact (number : Binary64) : Decimal := ⟨number.units * Nat.pow 5 1074, -1074⟩

/-- The fewest decimal digits to which the number is the nearest, and of those the nearest to it;
all of its digits if the grids with up to eighteen digits had no hit. -/
def shortest (number : Binary64) : Decimal :=
  if number.rank = 0 then ⟨0, 0⟩
  else
    let range := number.interval
    let hit := range.firstHit (leadingExponent range.value quarters) 0 18
    (hit.getD number.exact).trim 20

/-- How a decimal value is laid out. -/
structure Layout where
  /-- The least exponent of a leading digit that is written in plain notation. -/
  leastPlain : Int
  /-- The least exponent of a leading digit that is not. -/
  firstScientific : Int
  /-- Written between the exponent mark and a non-negative exponent. -/
  plus : List Char

/-- Write a decimal value.  A whole number in plain notation ends in `.0`, so that it cannot be
taken for an integer. -/
def Layout.write (layout : Layout) (decimal : Decimal) : List Char :=
  let digits := Nat.toDigits 10 decimal.digits
  let leading : Int := digits.length - 1 + decimal.exponent
  if leading < layout.leastPlain ∨ layout.firstScientific ≤ leading then
    let mantissa := if digits.length ≤ 1 then digits else digits.take 1 ++ '.' :: digits.drop 1
    let exponent := Nat.toDigits 10 leading.natAbs
    mantissa ++ 'e' :: (if leading < 0 then '-' :: exponent else layout.plus ++ exponent)
  else if 0 ≤ decimal.exponent then
    digits ++ List.replicate decimal.exponent.toNat '0' ++ ['.', '0']
  else if 0 ≤ leading then
    let whole := leading.toNat + 1
    digits.take whole ++ '.' :: digits.drop whole
  else
    '0' :: '.' :: List.replicate (-leading - 1).toNat '0' ++ digits

/-- Write a number with its sign, the sign of zero included. -/
def write (layout : Layout) (number : Binary64) : List Char :=
  let magnitude := layout.write number.shortest
  if number.negative then '-' :: magnitude else magnitude

end Binary64

end LiveSearch
