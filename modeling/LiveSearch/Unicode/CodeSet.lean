/-!
# Sets of code points

A set of code points is a list of inclusive ranges.  `CodeSet.ofRanges` brings any list of ranges
into increasing order and joins those that touch; complements, and with them intersections and
differences, are taken of ordered lists.  Tables are written as text, in hexadecimal, with a
hyphen inside a range and spaces between ranges.
-/

namespace LiveSearch

namespace Unicode

/-- A set of code points as inclusive ranges. -/
structure CodeSet where
  ranges : List (Nat × Nat)
deriving DecidableEq

namespace CodeSet

/-- The last code point. -/
def lastCode : Nat := 0x10FFFF

/-- The empty set. -/
def empty : CodeSet := ⟨[]⟩

/-- The set of one code point. -/
def single (code : Nat) : CodeSet := ⟨[(code, code)]⟩

/-- Whether a code point is in the set. -/
def contains (set : CodeSet) (code : Nat) : Bool :=
  set.ranges.any fun range => range.1 ≤ code && code ≤ range.2

/-- Whether a character is in the set. -/
def holds (set : CodeSet) (char : Char) : Bool := set.contains char.toNat

/-- Join each range with those that begin inside it or right behind it; the ranges begin in
increasing order. -/
def join (low high : Nat) : List (Nat × Nat) → List (Nat × Nat)
  | [] => [(low, high)]
  | (nextLow, nextHigh) :: rest =>
    if nextLow ≤ high + 1 then join low (max high nextHigh) rest
    else (low, high) :: join nextLow nextHigh rest

/-- Put a range before the first one that does not begin in front of it. -/
def insertRange (range : Nat × Nat) : List (Nat × Nat) → List (Nat × Nat)
  | [] => [range]
  | next :: rest =>
    if range.1 ≤ next.1 then range :: next :: rest else next :: insertRange range rest

/-- The set of all code points in any of the ranges. -/
def ofRanges (ranges : List (Nat × Nat)) : CodeSet :=
  match ranges.foldr insertRange [] with
  | [] => empty
  | (low, high) :: rest => ⟨join low high rest⟩

/-- The gaps between ordered ranges, from `start` up to and including `last`. -/
def gaps (last : Nat) (start : Nat) : List (Nat × Nat) → List (Nat × Nat)
  | [] => if start ≤ last then [(start, last)] else []
  | (low, high) :: rest =>
    if start < low then (start, low - 1) :: gaps last (high + 1) rest
    else gaps last (high + 1) rest

/-- The code points up to `last` that are not in the set. -/
def complementWithin (last : Nat) (set : CodeSet) : CodeSet :=
  ⟨gaps last 0 (ofRanges set.ranges).ranges⟩

/-- All code points that are not in the set. -/
def complement (set : CodeSet) : CodeSet := set.complementWithin lastCode

/-- The code points in at least one of two sets. -/
def union (left right : CodeSet) : CodeSet := ofRanges (left.ranges ++ right.ranges)

/-- The code points in at least one of several sets. -/
def unions (sets : List CodeSet) : CodeSet := ofRanges (sets.flatMap CodeSet.ranges)

/-- The code points in both of two sets. -/
def inter (left right : CodeSet) : CodeSet := (left.complement.union right.complement).complement

/-- The code points in the first set alone. -/
def diff (left right : CodeSet) : CodeSet := left.inter right.complement

/-- The code points in exactly one of two sets. -/
def symmDiff (left right : CodeSet) : CodeSet := (left.diff right).union (right.diff left)

/-- The parts of a range in front of the surrogates and behind them. -/
def cutSurrogates (range : Nat × Nat) : List (Nat × Nat) :=
  (if range.1 < 0xD800 then [(range.1, min range.2 0xD7FF)] else []) ++
    (if 0xDFFF < range.2 then [(max range.1 0xE000, range.2)] else [])

/-- The set without the surrogates, which are no characters, as ordered ranges that do not touch. -/
def characters (set : CodeSet) : CodeSet :=
  ⟨(ofRanges set.ranges).ranges.flatMap cutSurrogates⟩

/-- What has been read of a table: complete ranges latest first, the low end of a range whose high
end is being read, and the number being read. -/
structure Draft where
  ranges : List (Nat × Nat)
  low : Option Nat
  number : Option Nat

/-- The ranges, with the one that ends here. -/
def Draft.finish (draft : Draft) : List (Nat × Nat) :=
  match draft.low, draft.number with
  | some low, some high => (low, high) :: draft.ranges
  | none, some code => (code, code) :: draft.ranges
  | _, none => draft.ranges

/-- The value of an upper-case hexadecimal digit. -/
def hexValue (char : Char) : Nat :=
  if char.isDigit then char.toNat - '0'.toNat else char.toNat - 'A'.toNat + 10

/-- Read one character of a table. -/
def Draft.step (draft : Draft) (char : Char) : Draft :=
  if char = ' ' then ⟨draft.finish, none, none⟩
  else if char = '-' then { draft with low := draft.number, number := none }
  else { draft with number := some (16 * draft.number.getD 0 + hexValue char) }

/-- The set that a table spells. -/
def ofText (table : String) : CodeSet :=
  ⟨(table.toList.foldl Draft.step ⟨[], none, none⟩).finish.reverse⟩

/-- A number in upper-case hexadecimal digits. -/
def hexText (number : Nat) : String :=
  String.ofList ((Nat.toDigits 16 number).map Char.toUpper)

/-- The table that spells a set. -/
def text (set : CodeSet) : String :=
  " ".intercalate (set.ranges.map fun range =>
    if range.1 = range.2 then hexText range.1 else hexText range.1 ++ "-" ++ hexText range.2)

end CodeSet

end Unicode

end LiveSearch
