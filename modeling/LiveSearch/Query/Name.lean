import LiveSearch.Error
import LiveSearch.Json.Parser
import LiveSearch.Pattern
import LiveSearch.Query.Descriptor

/-!
# Subscription names

A search is subscribed to under a name: any text, a question mark, and a JSON object that states
the query.  `Descriptor.ofName` reads a name.  Its rules are checked in a fixed order, and the
first one that the name violates is reported.  A parameter that is `null` counts as absent.
-/

namespace LiveSearch

namespace Descriptor

/-- A parameter of a query; one that is `null` is absent. -/
def parameter? (name : String) (query : Json) : Option Json :=
  match query.field? name with
  | some .null => none
  | value => value

/-- The table: a string that is not empty. -/
def readTable (query : Json) : Except NameFault String :=
  match parameter? "table" query with
  | some (.string table) => if table = "" then .error .missingTable else .ok table
  | _ => .error .missingTable

/-- The conditions as they are written. -/
def readConditions (query : Json) : Except NameFault (List Json) :=
  match parameter? "query" query with
  | some (.array conditions) => .ok conditions
  | _ => .error .missingQuery

/-- Order and limit come together. -/
def checkWindow (query : Json) : Except NameFault Unit :=
  if (parameter? "order" query).isSome = (parameter? "limit" query).isSome then .ok ()
  else .error .orderLimitMismatch

/-- The order: a path with at least one segment. -/
def readOrder (query : Json) : Except NameFault (Option String) :=
  match parameter? "order" query with
  | none => .ok none
  | some (.string order) =>
    if (Path.ofText order).isEmpty then .error (.invalidParameter "order") else .ok (some order)
  | some _ => .error (.invalidParameter "order")

/-- The limit: a positive integer. -/
def readLimit (query : Json) : Except NameFault (Option Nat) :=
  match parameter? "limit" query with
  | none => .ok none
  | some (.number (.integer value)) =>
    if 0 < value then .ok (some value.toNat) else .error (.invalidParameter "limit")
  | some _ => .error (.invalidParameter "limit")

/-- The direction of the order. -/
def readDescending (query : Json) : Except NameFault Bool :=
  match parameter? "desc" query with
  | none => .ok false
  | some (.bool value) => .ok value
  | some _ => .error (.invalidParameter "desc")

/-- The operator of a condition. -/
def readOperator : Json → Except NameFault Operator
  | .string name =>
    match Operator.ofName? name with
    | some operator => .ok operator
    | none => .error (.unknownOperator name)
  | other => .error (.unknownOperator other.text)

/-- What an operator requires of its literal: `in` takes an array of bounded length, and `match` a
pattern. -/
def checkLiteral (index : Nat) (operator : Operator) (value : Json) : Except NameFault Unit :=
  match operator, value with
  | .member, .array values =>
    if maxMembers < values.length then .error (.malformedCondition index) else .ok ()
  | .member, _ => .error .membershipNeedsArray
  | .matching, .string pattern =>
    if (Pattern.compile? pattern).isSome then .ok () else .error (.invalidPattern pattern)
  | .matching, other => .error (.invalidPattern other.text)
  | _, _ => .ok ()

/-- A condition: a path of bounded depth, an operator and a literal. -/
def readCondition (index : Nat) : Json → Except NameFault Condition
  | .array [.string field, operator, value] => do
    let path := Path.ofText field
    if path.isEmpty || maxPathDepth < path.depth then throw (.malformedCondition index)
    let operator ← readOperator operator
    checkLiteral index operator value
    return ⟨field, operator, value⟩
  | _ => .error (.malformedCondition index)

/-- The conditions from a given index on, up to the first one that is at fault. -/
def readConditionList (index : Nat) : List Json → Except NameFault (List Condition)
  | [] => .ok []
  | condition :: rest => do
    let first ← readCondition index condition
    let others ← readConditionList (index + 1) rest
    return first :: others

/-- The query that a JSON value states. -/
def ofJson (query : Json) : Except NameFault Descriptor := do
  if !query.isObject then throw .invalidEncoding
  let table ← readTable query
  let written ← readConditions query
  checkWindow query
  let order ← readOrder query
  let limit ← readLimit query
  let descending ← readDescending query
  if maxConditions < written.length then throw (.invalidParameter "query")
  let conditions ← readConditionList 0 written
  return { table, conditions, order, descending, limit }

/-- The text behind the first question mark. -/
def encoded? (name : String) : Option String :=
  (Text.splitFirst? (· = '?') name.toList).map fun parts => String.ofList parts.2

/-- The query of a name, or the first rule that it violates. -/
def faultOrQuery (name : String) : Except NameFault Descriptor :=
  match encoded? name with
  | none => .error .missingSeparator
  | some encoded =>
    match Json.parse? encoded with
    | none => .error .invalidEncoding
    | some query => ofJson query

/-- The query of a subscription name. -/
def ofName (name : String) : Except NameError Descriptor :=
  match faultOrQuery name with
  | .ok descriptor => .ok descriptor
  | .error fault => .error ⟨name, fault⟩

end Descriptor

end LiveSearch
