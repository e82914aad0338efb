import LiveSearch.Json.Printer

/-!
# Field paths

A path such as `a.c[2].e` leads through nested objects and arrays.  Points and brackets only
separate the segments, so a path has many spellings; `Path.ofText` drops every empty piece.
-/

namespace LiveSearch

/-- The segments of a path, outermost first. -/
structure Path where
  segments : List String
deriving DecidableEq

namespace Path

/-- Whether a character separates segments. -/
def isSeparator (char : Char) : Bool := char = '.' || char = '[' || char = ']'

/-- The pieces between separators, empty pieces included. -/
def pieces : List Char → List (List Char)
  | [] => [[]]
  | char :: rest =>
    if isSeparator char then [] :: pieces rest
    else match pieces rest with
      | [] => [[char]]
      | piece :: later => (char :: piece) :: later

/-- The path that a text spells. -/
def ofText (text : String) : Path :=
  ⟨((pieces text.toList).filter (· ≠ [])).map String.ofList⟩

/-- The number of segments. -/
def depth (path : Path) : Nat := path.segments.length

/-- Whether a path has no segment. -/
def isEmpty (path : Path) : Bool := path.segments.isEmpty

/-- An array position: decimal digits after an optional plus sign. -/
def position? (segment : String) : Option Nat :=
  let digits := match segment.toList with
    | '+' :: rest => rest
    | text => text
  if digits ≠ [] ∧ digits.all Char.isDigit then some (Number.digitsValue digits) else none

/-- One step into a value: a field of an object or an item of an array. -/
def enter? (value : Json) (segment : String) : Option Json :=
  match value with
  | .object fields => Json.lookup segment fields
  | .array items => (position? segment).bind fun position => items[position]?
  | _ => none

/-- The value a path leads to.  The path without segments leads nowhere. -/
def resolve? (path : Path) (record : Json) : Option Json :=
  if path.isEmpty then none else path.segments.foldlM enter? record

/-- The written form `row("a")("b")`. -/
def write (path : Path) : List Char :=
  "row".toList ++ path.segments.flatMap fun segment => '(' :: (Json.writeString segment ++ [')'])

/-- The text of the written form. -/
def text (path : Path) : String := String.ofList path.write

end Path

end LiveSearch
