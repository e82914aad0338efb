import LiveSearch.Unicode.CodeSet

/-!
# Characters as bytes

In UTF-8 a character is one to four bytes: the first one says how many there are, and each further
one carries six bits.  A range of characters is a list of sequences of byte ranges, each of which
stands for all characters that take one byte out of every range.
-/

namespace LiveSearch

namespace Pattern

open Unicode

/-- The bytes from one to another. -/
abbrev ByteRange := Nat × Nat

/-- The bytes of a character. -/
def charBytes (char : Char) : List Nat :=
  (String.utf8EncodeChar char).map UInt8.toNat

/-- The bytes of a text. -/
def textBytes (text : List Char) : List Nat := text.flatMap charBytes

/-- The numbers from `low` to `high` as sequences of ranges of digits to the base 64: the leading
digit, which may be larger, and the given number of further ones.  The numbers with the least
leading digit stand by themselves unless all of them are meant, and so do those with the greatest
one. -/
def digitRanges : Nat → Nat → Nat → List (List (Nat × Nat))
  | 0, low, high => [[(low, high)]]
  | count + 1, low, high =>
    let unit := 1 <<< (6 * (count + 1))
    let first := low / unit
    let last := high / unit
    if first = last then
      (digitRanges count (low % unit) (high % unit)).map fun rest => (first, first) :: rest
    else
      let wholeFirst := low % unit = 0
      let wholeLast := high % unit = unit - 1
      let start := if wholeFirst then first else first + 1
      let stop := if wholeLast then last else last - 1
      let head := if wholeFirst then [] else
        (digitRanges count (low % unit) (unit - 1)).map fun rest => (first, first) :: rest
      let middle := if start ≤ stop then [(start, stop) :: List.replicate (count + 1) (0, 63)] else []
      let tail := if wholeLast then [] else
        (digitRanges count 0 (high % unit)).map fun rest => (last, last) :: rest
      head ++ middle ++ tail

/-- The characters of one length in UTF-8: how many bytes follow the first one, the first and the
last character, and the number that is added to the leading digit. -/
structure Utf8Length where
  further : Nat
  low : Nat
  high : Nat
  lead : Nat

/-- The lengths of characters. -/
def utf8Lengths : List Utf8Length :=
  [⟨0, 0, 0x7F, 0⟩, ⟨1, 0x80, 0x7FF, 0xC0⟩, ⟨2, 0x800, 0xFFFF, 0xE0⟩,
    ⟨3, 0x10000, CodeSet.lastCode, 0xF0⟩]

/-- The byte ranges that spell ranges of digits. -/
def Utf8Length.spell (length : Utf8Length) : List (Nat × Nat) → List ByteRange
  | [] => []
  | (low, high) :: rest =>
    (length.lead + low, length.lead + high) ::
      rest.map fun digits => (0x80 + digits.1, 0x80 + digits.2)

/-- The sequences of bytes of a range of characters. -/
def byteSequences (range : Nat × Nat) : List (List ByteRange) :=
  utf8Lengths.flatMap fun length =>
    let low := max range.1 length.low
    let high := min range.2 length.high
    if low ≤ high then (digitRanges length.further low high).map length.spell else []

/-- The sequences of bytes of a set of characters, in increasing order. -/
def setSequences (codes : CodeSet) : List (List ByteRange) :=
  codes.characters.ranges.flatMap byteSequences

/-- The sequences of a list by their first range, which is the same for neighbours. -/
def byFirst : List (List ByteRange) → List (ByteRange × List (List ByteRange))
  | [] => []
  | [] :: rest => byFirst rest
  | (range :: tail) :: rest =>
    match byFirst rest with
    | [] => [(range, [tail])]
    | (next, tails) :: others =>
      if next = range then (range, tail :: tails) :: others
      else (range, [tail]) :: (next, tails) :: others

end Pattern

end LiveSearch
