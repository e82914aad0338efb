import Mathlib.Data.List.Forall2
import LiveSearch.Proofs.Query.Rules
import LiveSearch.Query.Name

/-! # The grammar of subscription names

What it means that a name spells a query (`LiveSearch.Descriptor.Spells`), and what it means that it
breaks a rule (`LiveSearch.Descriptor.Breaks`). Neither definition reads a name from its beginning
to its end: a name spells a query if it has the parts of this query in the right places, and faults
come from a list of rules of which the first broken one counts (`LiveSearch.Descriptor.rules`).
-/

namespace LiveSearch

open Rule (FirstBroken)

namespace Json

/-- A string as it is, and any other value as JSON text. -/
def shown : Json → String
  | .string text => text
  | other => other.text

end Json

namespace Descriptor

/-- A query gives a parameter a value; one that is `null` counts as absent. -/
def Gives (query : Json) (parameter : String) (value : Json) : Prop :=
  query.field? parameter = some value ∧ value ≠ .null

/-- The literal of a condition suits its operator. -/
def Suits : Operator → Json → Prop
  | .member, value => ∃ values, value = .array values ∧ values.length ≤ 1000
  | .matching, value =>
    ∃ pattern, value = .string pattern ∧ (Pattern.compile? pattern).isSome = true
  | _, _ => True

/-- A condition as it is written. -/
structure IsCondition (written : Json) (condition : Condition) : Prop where
  parts : written =
    .array [.string condition.field, .string condition.operator.name, condition.value]
  path : 1 ≤ (Path.ofText condition.field).depth ∧ (Path.ofText condition.field).depth ≤ 32
  literal : Suits condition.operator condition.value

/-- A parameter of a query means a value: it is given and has this meaning, or it is absent and the
value is its default. -/
def Means {α : Type} (query : Json) (parameter : String) (meaning : Json → α → Prop) (default : α)
    (value : α) : Prop :=
  (∀ given, ¬ Gives query parameter given) ∧ value = default ∨
    ∃ given, Gives query parameter given ∧ meaning given value

/-- An order: a path with at least one segment. -/
def IsOrder (given : Json) (order : Option String) : Prop :=
  ∃ text, given = .string text ∧ 1 ≤ (Path.ofText text).depth ∧ order = some text

/-- A limit: an integer that fits an unsigned word of 64 bits, but not zero. -/
def IsLimit (given : Json) (limit : Option Nat) : Prop :=
  ∃ count, given = .nat count ∧ 1 ≤ count ∧ count < 0x10000000000000000 ∧ limit = some count

/-- A direction. -/
def IsDirection (given : Json) (descending : Bool) : Prop := given = .bool descending

/-- A JSON value states a query. -/
structure States (query : Json) (descriptor : Descriptor) : Prop where
  table : Gives query "table" (.string descriptor.table) ∧ descriptor.table ≠ ""
  conditions : ∃ written, Gives query "query" (.array written) ∧ written.length ≤ 64 ∧
    List.Forall₂ IsCondition written descriptor.conditions
  together : (∃ value, Gives query "order" value) ↔ ∃ value, Gives query "limit" value
  order : Means query "order" IsOrder none descriptor.order
  limit : Means query "limit" IsLimit none descriptor.limit
  direction : Means query "desc" IsDirection false descriptor.descending

/-- What follows the first question mark of a name is JSON text for a value. -/
def Encodes (name : String) (query : Json) : Prop :=
  ∃ before text, name.toList = before ++ '?' :: text ∧ '?' ∉ before ∧
    Json.parse? (String.ofList text) = some query

/-- A name is a subscription name of a query. -/
def Spells (name : String) (descriptor : Descriptor) : Prop :=
  ∃ fields, Encodes name (.object fields) ∧ States (.object fields) descriptor

/-- The rules for the literal of a condition. -/
def literalRules (index : Nat) (operator value : Json) : List (Rule NameFault) :=
  [⟨operator = .string "in" → ∀ values, value = .array values → values.length ≤ 1000,
      .malformedCondition index⟩,
    ⟨operator = .string "in" → ∃ values, value = .array values, .membershipNeedsArray⟩,
    ⟨operator = .string "match" → ∃ pattern, value = .string pattern ∧
      (Pattern.compile? pattern).isSome = true, .invalidPattern value.shown⟩]

/-- The rules for a condition. -/
def conditionRules (index : Nat) : Json → List (Rule NameFault)
  | .array [.string field, operator, value] =>
    ⟨1 ≤ (Path.ofText field).depth ∧ (Path.ofText field).depth ≤ 32, .malformedCondition index⟩ ::
      ⟨∃ known : Operator, operator = .string known.name, .unknownOperator operator.shown⟩ ::
      literalRules index operator value
  | _ => [⟨False, .malformedCondition index⟩]

/-- The rules for conditions from a given index on. -/
def conditionListRules (index : Nat) (written : List Json) : List (Rule NameFault) :=
  (written.zipIdx index).flatMap fun condition => conditionRules condition.2 condition.1

/-- The conditions as they are written. -/
def written (query : Json) : List Json :=
  match query.field? "query" with
  | some (.array conditions) => conditions
  | _ => []

/-- The rule for a parameter that can be absent. -/
def parameterRule {α : Type} (query : Json) (parameter : String) (meaning : Json → α → Prop) :
    Rule NameFault :=
  ⟨∀ given, Gives query parameter given → ∃ value, meaning given value,
    .invalidParameter parameter⟩

/-- The rules for a query. -/
def rules (query : Json) : List (Rule NameFault) :=
  [⟨∃ table, Gives query "table" (.string table) ∧ table ≠ "", .missingTable⟩,
    ⟨∃ conditions, Gives query "query" (.array conditions), .missingQuery⟩,
    ⟨(∃ value, Gives query "order" value) ↔ ∃ value, Gives query "limit" value,
      .orderLimitMismatch⟩,
    parameterRule query "order" IsOrder,
    parameterRule query "limit" IsLimit,
    parameterRule query "desc" IsDirection,
    ⟨(written query).length ≤ 64, .invalidParameter "query"⟩] ++
  conditionListRules 0 (written query)

/-- A fault of a name: the first rule that it breaks. -/
inductive Breaks (name : String) : NameFault → Prop
  | separator (absent : '?' ∉ name.toList) : Breaks name .missingSeparator
  | encoding (present : '?' ∈ name.toList) (invalid : ∀ fields, ¬ Encodes name (.object fields)) :
      Breaks name .invalidEncoding
  | query (fields : List (String × Json)) (encodes : Encodes name (.object fields))
      (fault : NameFault) (first : FirstBroken (rules (.object fields)) fault) : Breaks name fault

end Descriptor

end LiveSearch
