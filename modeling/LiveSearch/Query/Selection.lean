import LiveSearch.Pattern
import LiveSearch.Query.Order
import LiveSearch.Query.Sort

/-!
# Running plans

`Predicate.holds` evaluates one predicate on one record.  A `Selection` is a plan made ready to
run: its patterns are compiled, and of several stages that order, pluck or limit the last one of
each kind counts.
-/

namespace LiveSearch

/-- Whether a comparison holds between a field and a literal. -/
def Comparison.holds (comparison : Comparison) (field value : Json) : Bool :=
  match comparison with
  | equal => field.equals value
  | notEqual => !field.equals value
  | greater => field.order value == .gt
  | greaterEqual => field.order value != .lt
  | less => field.order value == .lt
  | lessEqual => field.order value != .gt

/-- Whether a predicate holds on a record.  A missing field satisfies nothing, and a pattern that
does not compile matches nothing. -/
def Predicate.holds (record : Json) : Predicate → Bool
  | compare path comparison value =>
    (path.resolve? record).any fun field => comparison.holds field value
  | matching path pattern =>
    match path.resolve? record with
    | some (.string text) => (Pattern.compile? pattern).any (·.isMatch text)
    | _ => false
  | member path values =>
    (path.resolve? record).any fun field => values.any (·.equals field)

/-- A predicate with its pattern compiled. -/
inductive Test
  | compare (path : Path) (comparison : Comparison) (value : Json)
  | matching (path : Path) (regex : Pattern.Regex)
  | member (path : Path) (values : List Json)

/-- The test of a predicate; `none` if its pattern does not compile. -/
def Predicate.test? : Predicate → Option Test
  | compare path comparison value => some (.compare path comparison value)
  | matching path pattern => (Pattern.compile? pattern).map (.matching path)
  | member path values => some (.member path values)

/-- Whether a record passes a test. -/
def Test.passes (record : Json) : Test → Bool
  | compare path comparison value =>
    (path.resolve? record).any fun field => comparison.holds field value
  | matching path regex =>
    match path.resolve? record with
    | some (.string text) => regex.isMatch text
    | _ => false
  | member path values =>
    (path.resolve? record).any fun field => values.any (·.equals field)

/-- A plan that is ready to run. -/
structure Selection where
  table : String
  tests : List Test
  order : Option (Path × Direction)
  primaryKey : Option String
  limit : Option Nat

namespace Selection

/-- Take one more stage into account. -/
def addStage? (selection : Selection) : Stage → Option Selection
  | .orderBy path direction => some { selection with order := some (path, direction) }
  | .filter predicate =>
    predicate.test?.map fun test => { selection with tests := selection.tests ++ [test] }
  | .pluck field => some { selection with primaryKey := some field }
  | .limit count => some { selection with limit := some count }

/-- The selection of a plan; `none` if a pattern does not compile. -/
def ofPlan? (plan : Plan) : Option Selection :=
  plan.stages.foldlM addStage? ⟨plan.table, [], none, none, none⟩

/-- Whether a record passes every test. -/
def accepts (selection : Selection) (record : Json) : Bool :=
  selection.tests.all (·.passes record)

/-- Whether only a bounded number of records is kept. -/
def isWindowed (selection : Selection) : Bool := selection.limit.isSome

/-- What is kept of a record. -/
def project (selection : Selection) (record : Json) : Json :=
  match selection.primaryKey with
  | some field => projectFields [field] record
  | none => record

/-- Records in the order of the selection; without one they stay as they are. -/
def sort (selection : Selection) (records : List Json) : List Json :=
  match selection.order with
  | some (path, direction) =>
    Sorting.stable
      (fun left right => orderRecords path direction selection.primaryKey left right == .lt) records
  | none => records

/-- The first records, as many as the limit allows. -/
def cut (selection : Selection) (records : List Json) : List Json :=
  match selection.limit with
  | some count => records.take count
  | none => records

/-- Run a plan: filter, sort, limit and project. -/
def run (selection : Selection) (records : List Json) : List Json :=
  (selection.cut (selection.sort (records.filter selection.accepts))).map selection.project

end Selection

end LiveSearch
