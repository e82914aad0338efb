import LiveSearch.Json
import LiveSearch.Binary64.Decimal

/-!
# Number literals

A literal is an optional minus sign, digits without a superfluous leading zero, an optional
fraction and an optional exponent.  A literal without fraction and exponent whose value fits a
word of 64 bits is an integer; every other literal is a binary64 number near to it, and one beyond
the finite range is no literal at all.  Minus zero is a binary64 number.
-/

namespace LiveSearch

namespace Number

/-- The parts of a literal. -/
structure Literal where
  negative : Bool
  whole : List Char
  fraction : Option (List Char)
  exponent : Option (Bool × List Char)

/-- The value of a list of decimal digits. -/
def digitsValue (digits : List Char) : Nat :=
  digits.foldl (fun value digit => 10 * value + (digit.toNat - '0'.toNat)) 0

/-- Split off an optional minus sign. -/
def splitMinus : List Char → Bool × List Char
  | '-' :: rest => (true, rest)
  | rest => (false, rest)

/-- Split off an optional sign of an exponent. -/
def splitSign : List Char → Bool × List Char
  | '-' :: rest => (true, rest)
  | '+' :: rest => (false, rest)
  | rest => (false, rest)

/-- Split off an optional fraction. -/
def splitFraction : List Char → Option (List Char) × List Char
  | '.' :: rest => (some (rest.takeWhile Char.isDigit), rest.dropWhile Char.isDigit)
  | rest => (none, rest)

/-- Split off an optional exponent. -/
def splitExponent : List Char → Option (Bool × List Char) × List Char
  | mark :: rest =>
    if mark = 'e' ∨ mark = 'E' then
      let (negative, digits) := splitSign rest
      (some (negative, digits.takeWhile Char.isDigit), digits.dropWhile Char.isDigit)
    else (none, mark :: rest)
  | [] => (none, [])

/-- The parts of a text that is a literal from its first character to its last. -/
def Literal.ofChars? (text : List Char) : Option Literal :=
  let (negative, unsigned) := splitMinus text
  let whole := unsigned.takeWhile Char.isDigit
  let (fraction, afterFraction) := splitFraction (unsigned.dropWhile Char.isDigit)
  let (exponent, rest) := splitExponent afterFraction
  let leadingZero := whole.head? = some '0' ∧ 1 < whole.length
  if whole = [] ∨ leadingZero ∨ fraction = some [] ∨ exponent.any (·.2 = []) ∨ rest ≠ [] then none
  else some { negative, whole, fraction, exponent }

/-- Read digits behind a value as long as it fits a word of 64 bits; the digits that are left. -/
def readDigits (value : Nat) : List Char → Nat × List Char
  | [] => (value, [])
  | digit :: rest =>
    let longer := 10 * value + (digit.toNat - '0'.toNat)
    if holdsExactly longer then readDigits longer rest else (value, digit :: rest)

/-- The binary64 number of a literal.  Its significand is a word of 64 bits: of a longer literal the
digits that do not fit count for the exponent only. -/
def Literal.toBinary64? (literal : Literal) : Option Binary64 :=
  let fraction := literal.fraction.getD []
  let exponent : Int := match literal.exponent with
    | none => 0
    | some (negative, digits) =>
      if negative then -(digitsValue digits : Int) else digitsValue digits
  let (whole, dropped) := readDigits 0 literal.whole
  let (significand, ignored) := readDigits whole fraction
  Binary64.ofDecimal literal.negative significand
    (exponent + dropped.length - (fraction.length - ignored.length))

/-- The number of a literal. -/
def Literal.toNumber? (literal : Literal) : Option Number :=
  let magnitude := digitsValue literal.whole
  let value : Int := if literal.negative then -(magnitude : Int) else magnitude
  if literal.fraction.isNone && literal.exponent.isNone && holdsExactly value
      && !(literal.negative && magnitude == 0) then
    some (.integer value)
  else literal.toBinary64?.map .float

/-- The number that a text spells. -/
def ofChars? (text : List Char) : Option Number := (Literal.ofChars? text).bind Literal.toNumber?

/-- Binary64 numbers are written plainly when their leading digit stands between the fifth decimal
place and the sixteenth digit before the point; every written exponent has a sign. -/
def layout : Binary64.Layout := ⟨-5, 16, ['+']⟩

/-- The text of a number. -/
def write : Number → List Char
  | integer value =>
    let digits := Nat.toDigits 10 value.natAbs
    if value < 0 then '-' :: digits else digits
  | float value => value.write layout

end Number

end LiveSearch
