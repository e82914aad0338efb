import LiveSearch.Query.Path

/-!
# Query descriptors

A descriptor is a query as its subscription name states it: a table, conditions on fields, and an
optional order with a limit.  The limits on its size keep one subscription from exhausting the
service.
-/

namespace LiveSearch

/-- How a condition compares a field with its literal. -/
inductive Operator
  | equal
  | matching
  | greater
  | greaterEqual
  | less
  | lessEqual
  | notEqual
  | member
deriving DecidableEq

namespace Operator

/-- All operators. -/
def all : List Operator :=
  [equal, matching, greater, greaterEqual, less, lessEqual, notEqual, member]

/-- The name of an operator in queries. -/
def name : Operator → String
  | equal => "eq"
  | matching => "match"
  | greater => "gt"
  | greaterEqual => "ge"
  | less => "lt"
  | lessEqual => "le"
  | notEqual => "ne"
  | member => "in"

/-- The operator with this name. -/
def ofName? (text : String) : Option Operator := all.find? (·.name = text)

end Operator

/-- One condition of a query. -/
structure Condition where
  field : String
  operator : Operator
  value : Json

/-- A validated query. -/
structure Descriptor where
  table : String
  conditions : List Condition
  order : Option String
  descending : Bool
  limit : Option Nat

/-- The greatest number of segments in the path of a condition. -/
def maxPathDepth : Nat := 32

/-- The greatest number of conditions. -/
def maxConditions : Nat := 64

/-- The greatest number of values that a membership condition lists. -/
def maxMembers : Nat := 1000

/-- The field that identifies a record unless another one is configured. -/
def defaultPrimaryKey : String := "ds_id"

end LiveSearch
