import LiveSearch.Query.Plan

/-!
# Order of values and records

Integers compare exactly with each other and as binary64 numbers with those; arrays compare item
by item and then by length; values of different kinds compare by kind, and objects do not differ.
Records compare by the value at a path, those without one first, and then by their primary key.
-/

namespace LiveSearch

/-- The order of numbers. -/
def Number.order : Number → Number → Ordering
  | integer left, integer right => compare left right
  | left, right => left.toBinary64.compareTotal right.toBinary64

namespace Json

/-- The place of a value's kind among the kinds. -/
def kindRank : Json → Nat
  | null => 0
  | bool _ => 1
  | number _ => 2
  | string _ => 3
  | array _ => 4
  | object _ => 5

mutual

/-- The order of values. -/
def order : Json → Json → Ordering
  | number left, number right => left.order right
  | string left, string right => compare left right
  | bool left, bool right => compare left right
  | array left, array right => orderItems left right
  | left, right => compare left.kindRank right.kindRank

/-- The order of sequences: the first difference counts, and a beginning comes before the whole. -/
def orderItems : List Json → List Json → Ordering
  | [], [] => .eq
  | [], _ :: _ => .lt
  | _ :: _, [] => .gt
  | left :: lefts, right :: rights => (order left right).then (orderItems lefts rights)

end

/-- Equality in conditions: numbers by their order, everything else by structure. -/
def equals : Json → Json → Bool
  | number left, number right => left.order right == .eq
  | left, right => left.same right

end Json

/-- The order in a direction. -/
def Direction.apply : Direction → Ordering → Ordering
  | ascending, ordering => ordering
  | descending, ordering => ordering.swap

/-- The order of two values that may be missing: a missing one comes first. -/
def orderOptional : Option Json → Option Json → Ordering
  | some left, some right => left.order right
  | some _, none => .gt
  | none, some _ => .lt
  | none, none => .eq

/-- The order of two records by their primary key; a missing key counts as `null`. -/
def orderByKey (primaryKey : Option String) (left right : Json) : Ordering :=
  match primaryKey with
  | none => .eq
  | some field => ((left.field? field).getD .null).order ((right.field? field).getD .null)

/-- The order of two records: by the value at a path in a direction, then by the primary key. -/
def orderRecords (path : Path) (direction : Direction) (primaryKey : Option String)
    (left right : Json) : Ordering :=
  (direction.apply (orderOptional (path.resolve? left) (path.resolve? right))).then
    (orderByKey primaryKey left right)

/-- The record with only the given fields, as far as it has them. -/
def projectFields (fields : List String) (record : Json) : Json :=
  Json.ofFields <| fields.filterMap fun field =>
    (record.field? field).map fun value => (field, value)

end LiveSearch
