import LiveSearch.Query.Descriptor

/-!
# Query plans

A plan is a table and a sequence of stages.  Its accessors report the first stage of a kind.  The
written form of a plan names every stage with its arguments, values as JSON.
-/

namespace LiveSearch

/-- A direction of sorting. -/
inductive Direction
  | ascending
  | descending
deriving DecidableEq

/-- A comparison of a field with a literal. -/
inductive Comparison
  | equal
  | notEqual
  | greater
  | greaterEqual
  | less
  | lessEqual
deriving DecidableEq

/-- The name of a comparison. -/
def Comparison.name : Comparison → String
  | equal => "eq"
  | notEqual => "ne"
  | greater => "gt"
  | greaterEqual => "ge"
  | less => "lt"
  | lessEqual => "le"

/-- A condition on a record. -/
inductive Predicate
  | compare (path : Path) (comparison : Comparison) (value : Json)
  | matching (path : Path) (pattern : String)
  | member (path : Path) (values : List Json)

/-- One stage of a plan. -/
inductive Stage
  | orderBy (path : Path) (direction : Direction)
  | filter (predicate : Predicate)
  | pluck (field : String)
  | limit (count : Nat)

/-- A table and what is done with its records, stage by stage. -/
structure Plan where
  table : String
  stages : List Stage

/-- The written form of a predicate. -/
def Predicate.write : Predicate → List Char
  | compare path comparison value =>
    path.write ++ '.' :: (comparison.name.toList ++ '(' :: (value.write ++ [')']))
  | matching path pattern =>
    path.write ++ ".match(".toList ++ Json.writeString pattern ++ [')']
  | member path values =>
    "expr(".toList ++ (Json.array values).write ++ ").contains(".toList ++ path.write ++ [')']

/-- The text of a predicate. -/
def Predicate.text (predicate : Predicate) : String := String.ofList predicate.write

/-- The name of a direction. -/
def Direction.name : Direction → String
  | ascending => "asc"
  | descending => "desc"

/-- The written form of a stage. -/
def Stage.write : Stage → List Char
  | orderBy path direction =>
    ".order_by(".toList ++ direction.name.toList ++ '(' :: (path.write ++ "))".toList)
  | filter predicate => ".filter(".toList ++ predicate.write ++ [')']
  | pluck field => ".pluck(".toList ++ Json.writeString field ++ [')']
  | limit count => ".limit(".toList ++ Nat.toDigits 10 count ++ [')']

namespace Plan

/-- The written form of a plan. -/
def write (plan : Plan) : List Char :=
  "table(".toList ++ Json.writeString plan.table ++ ')' :: plan.stages.flatMap Stage.write

/-- The text of a plan. -/
def text (plan : Plan) : String := String.ofList plan.write

/-- The predicates of all filter stages. -/
def filters (plan : Plan) : List Predicate :=
  plan.stages.filterMap fun
    | .filter predicate => some predicate
    | _ => none

/-- The path and direction of the first ordering stage. -/
def orderBy? (plan : Plan) : Option (Path × Direction) :=
  plan.stages.findSome? fun
    | .orderBy path direction => some (path, direction)
    | _ => none

/-- The field of the first plucking stage. -/
def primaryKey? (plan : Plan) : Option String :=
  plan.stages.findSome? fun
    | .pluck field => some field
    | _ => none

/-- The count of the first limiting stage. -/
def limit? (plan : Plan) : Option Nat :=
  plan.stages.findSome? fun
    | .limit count => some count
    | _ => none

end Plan

/-- The predicate of a condition. -/
def Condition.predicate (condition : Condition) : Predicate :=
  let path := Path.ofText condition.field
  match condition.operator with
  | .equal => .compare path .equal condition.value
  | .notEqual => .compare path .notEqual condition.value
  | .greater => .compare path .greater condition.value
  | .greaterEqual => .compare path .greaterEqual condition.value
  | .less => .compare path .less condition.value
  | .lessEqual => .compare path .lessEqual condition.value
  | .matching => .matching path <|
    match condition.value with
    | .string pattern => pattern
    | other => other.text
  | .member => .member path <|
    match condition.value with
    | .array values => values
    | other => [other]

/-- The plan of a query: its order, one filter for each condition, the field to keep and its
limit. -/
def Descriptor.plan (descriptor : Descriptor) (primaryKey : String) : Plan where
  table := descriptor.table
  stages :=
    (descriptor.order.map fun order =>
      Stage.orderBy (Path.ofText order)
        (if descriptor.descending then .descending else .ascending)).toList ++
    descriptor.conditions.map (fun condition => Stage.filter condition.predicate) ++
    .pluck primaryKey :: (descriptor.limit.map Stage.limit).toList

end LiveSearch
