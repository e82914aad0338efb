import LiveSearch.Binary64

/-!
# JSON values

Numbers keep the distinction between integers and binary64 numbers, because `1` and `1.0` print
differently and compare as different values inside arrays.  An object is a list of fields in
increasing order of their names, each name once; `Json.insertField` is how such lists are built.
-/

namespace LiveSearch

/-- A JSON number. -/
inductive Number
  | integer (value : Int)
  | float (value : Binary64)
deriving DecidableEq

namespace Number

/-- Whether an integer is stored exactly: signed and unsigned words of 64 bits are. -/
def holdsExactly (value : Int) : Bool :=
  -0x8000000000000000 ≤ value && value < 0x10000000000000000

/-- The binary64 number nearest to a number. -/
def toBinary64 : Number → Binary64
  | integer value => Binary64.ofInt value
  | float value => value

/-- Equality of numbers of one kind; an integer never equals a binary64 number. -/
def same : Number → Number → Bool
  | integer left, integer right => left == right
  | float left, float right => left.sameValue right
  | _, _ => false

end Number

/-- A JSON value. -/
inductive Json
  | null
  | bool (value : Bool)
  | number (value : Number)
  | string (value : String)
  | array (items : List Json)
  | object (fields : List (String × Json))
deriving Inhabited

namespace Json

/-- An integer value. -/
def int (value : Int) : Json := .number (.integer value)

/-- A natural number value. -/
def nat (value : Nat) : Json := .number (.integer value)

/-- The value of the first field with this name. -/
def lookup (name : String) : List (String × Json) → Option Json
  | [] => none
  | (field, value) :: rest => if field = name then some value else lookup name rest

/-- A field of an object; other values have none. -/
def field? (name : String) : Json → Option Json
  | object fields => lookup name fields
  | _ => none

/-- Add a field to a list in increasing order of names, replacing a field of the same name. -/
def insertField (name : String) (value : Json) : List (String × Json) → List (String × Json)
  | [] => [(name, value)]
  | (field, old) :: rest =>
    if name = field then (name, value) :: rest
    else if name < field then (name, value) :: (field, old) :: rest
    else (field, old) :: insertField name value rest

/-- The object with the given fields; of two fields of one name the later one counts. -/
def ofFields (fields : List (String × Json)) : Json :=
  object (fields.foldl (fun known field => insertField field.1 field.2 known) [])

/-- Whether a value is an object. -/
def isObject : Json → Bool
  | object _ => true
  | _ => false

mutual

/-- Structural equality: same kind, same content, numbers by `Number.same`. -/
def same : Json → Json → Bool
  | null, null => true
  | bool left, bool right => left == right
  | number left, number right => left.same right
  | string left, string right => left == right
  | array left, array right => sameItems left right
  | object left, object right => sameFields left right
  | _, _ => false

/-- Structural equality of two sequences, position by position. -/
def sameItems : List Json → List Json → Bool
  | [], [] => true
  | left :: lefts, right :: rights => same left right && sameItems lefts rights
  | _, _ => false

/-- Structural equality of two field lists, position by position. -/
def sameFields : List (String × Json) → List (String × Json) → Bool
  | [], [] => true
  | (leftName, left) :: lefts, (rightName, right) :: rights =>
    leftName == rightName && same left right && sameFields lefts rights
  | _, _ => false

end

end Json

end LiveSearch
