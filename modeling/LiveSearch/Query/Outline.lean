import LiveSearch.Error
import LiveSearch.Query.Name
import LiveSearch.Query.Plan
import LiveSearch.Text.Visible

/-!
# Outlines of queries

An outline shows a structure with one part to a line, each part indented below the line that
begins it and followed by a comma.  `Descriptor.describe` shows what a subscription name asks for:
the outline of its descriptor and the text of its plan.
-/

namespace LiveSearch

/-- A structure to be shown. -/
inductive Outline
  | atom (text : String)
  | labelled (label : String) (value : Outline)
  | group (opening closing : String) (parts : List Outline)

namespace Outline

/-- The lines of an item: all but the first line come further to the right, and a comma follows. -/
def asPart (lines : List String) : List String :=
  match (lines.map ("    " ++ ·)).reverse with
  | [] => []
  | last :: earlier => ((last ++ ",") :: earlier).reverse

/-- Put a label before the first line. -/
def label (text : String) : List String → List String
  | [] => [text]
  | first :: rest => (text ++ first) :: rest

mutual

/-- The lines of an outline. -/
def lines : Outline → List String
  | atom text => [text]
  | labelled text value => label (text ++ ": ") (lines value)
  | group opening closing parts =>
    match parts with
    | [] => [opening ++ closing]
    | part :: rest => opening :: (asPart (lines part) ++ partLines rest ++ [closing])

/-- The lines of the parts of a group. -/
def partLines : List Outline → List String
  | [] => []
  | part :: rest => asPart (lines part) ++ partLines rest

end

/-- The text of an outline. -/
def text (outline : Outline) : String := "\n".intercalate outline.lines

/-- A list of outlines. -/
def list (items : List Outline) : Outline := .group "[" "]" items

/-- A string. -/
def string (value : String) : Outline := .atom (Text.visible value)

/-- A value that may be missing. -/
def optional : Option Outline → Outline
  | none => .atom "None"
  | some value => .group "Some(" ")" [value]

end Outline

mutual

/-- The outline of a JSON value. -/
def Json.outline : Json → Outline
  | .null => .atom "Null"
  | .bool true => .atom "Bool(true)"
  | .bool false => .atom "Bool(false)"
  | .number value => .atom ("Number(" ++ String.ofList value.write ++ ")")
  | .string value => .atom ("String(" ++ Text.visible value ++ ")")
  | .array items => .group "Array [" "]" (Json.outlines items)
  | .object fields => .group "Object \x7b" "\x7d" (Json.fieldOutlines fields)

/-- The outlines of several JSON values. -/
def Json.outlines : List Json → List Outline
  | [] => []
  | item :: rest => item.outline :: Json.outlines rest

/-- The outlines of the fields of an object. -/
def Json.fieldOutlines : List (String × Json) → List Outline
  | [] => []
  | (name, value) :: rest =>
    .labelled (Text.visible name) value.outline :: Json.fieldOutlines rest

end

/-- The name of an operator in outlines. -/
def Operator.title : Operator → String
  | equal => "Eq"
  | matching => "Match"
  | greater => "Gt"
  | greaterEqual => "Ge"
  | less => "Lt"
  | lessEqual => "Le"
  | notEqual => "Ne"
  | member => "In"

/-- The outline of a condition. -/
def Condition.outline (condition : Condition) : Outline :=
  .group "Condition \x7b" "\x7d"
    [.labelled "field" (.string condition.field),
      .labelled "operator" (.atom condition.operator.title),
      .labelled "value" condition.value.outline]

/-- The outline of a descriptor. -/
def Descriptor.outline (descriptor : Descriptor) : Outline :=
  .group "QueryDescriptor \x7b" "\x7d"
    [.labelled "table" (.string descriptor.table),
      .labelled "conditions" (.list (descriptor.conditions.map Condition.outline)),
      .labelled "order" (.optional (descriptor.order.map .string)),
      .labelled "desc" (.atom (if descriptor.descending then "true" else "false")),
      .labelled "limit" (.optional (descriptor.limit.map fun count => .atom (toString count)))]

/-- What a subscription name asks for. -/
def Descriptor.describe (name primaryKey : String) : Except NameError String := do
  let descriptor ← Descriptor.ofName name
  return "descriptor: " ++ descriptor.outline.text ++ "\nplan: " ++
    (descriptor.plan primaryKey).text

end LiveSearch
