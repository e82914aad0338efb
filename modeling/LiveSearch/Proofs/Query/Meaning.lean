import LiveSearch.Proofs.Query.Plan
import LiveSearch.Proofs.Query.Sorting
import LiveSearch.Proofs.Query.Values

/-! # What a query means

A condition is read off its literal (`LiveSearch.Condition.Holds`), and the answer of a query off
its parts (`LiveSearch.Descriptor.answer`), without a plan. Each filter of the plan of a query
stands for one condition (`LiveSearch.Condition.holds_predicate_iff`), so running the plan gives the
answer of the query (`LiveSearch.Descriptor.plan_means`).
-/

namespace LiveSearch

namespace Json

/-- The text of a string. -/
def string? : Json → Option String
  | string text => some text
  | _ => none

/-- The items of an array. -/
def array? : Json → Option (List Json)
  | array items => some items
  | _ => none

end Json

/-- A field meets the literal of a condition. -/
def Operator.Relates (operator : Operator) (field value : Json) : Prop :=
  match operator with
  | equal => field.equals value = true
  | notEqual => ¬ field.equals value = true
  | greater => field.order value = .gt
  | greaterEqual => field.order value ≠ .lt
  | less => field.order value = .lt
  | lessEqual => field.order value ≠ .gt
  | matching => ∃ text ∈ field.string?, ∃ pattern ∈ value.string?,
    ∃ regex ∈ Pattern.compile? pattern, regex.isMatch text = true
  | member => ∃ values ∈ value.array?, ∃ value ∈ values, field.equals value = true

instance (operator : Operator) (field value : Json) : Decidable (operator.Relates field value) :=
  match operator with
  | .equal => inferInstanceAs (Decidable (_ = true))
  | .notEqual => inferInstanceAs (Decidable (¬ _ = true))
  | .greater => inferInstanceAs (Decidable (_ = Ordering.gt))
  | .greaterEqual => inferInstanceAs (Decidable (_ ≠ Ordering.lt))
  | .less => inferInstanceAs (Decidable (_ = Ordering.lt))
  | .lessEqual => inferInstanceAs (Decidable (_ ≠ Ordering.gt))
  | .matching => inferInstanceAs (Decidable (∃ text ∈ field.string?, ∃ pattern ∈ value.string?,
    ∃ regex ∈ Pattern.compile? pattern, regex.isMatch text = true))
  | .member => inferInstanceAs (Decidable (∃ values ∈ value.array?, ∃ value ∈ values,
    field.equals value = true))

namespace Condition

/-- A condition holds on a record: its path leads to a field that meets the literal. -/
def Holds (condition : Condition) (record : Json) : Prop :=
  ∃ field ∈ (Path.ofText condition.field).resolve? record,
    condition.operator.Relates field condition.value

instance (condition : Condition) (record : Json) : Decidable (condition.Holds record) :=
  inferInstanceAs (Decidable (∃ field ∈ (Path.ofText condition.field).resolve? record,
    condition.operator.Relates field condition.value))

/-- The predicate of a condition holds on a record exactly if the condition does. -/
theorem holds_predicate_iff {condition : Condition}
    (suits : Descriptor.Suits condition.operator condition.value) (record : Json) :
    condition.predicate.holds record = true ↔ condition.Holds record := by
  obtain ⟨text, operator, value⟩ := condition
  have compared (comparison : Comparison)
      (relates : ∀ field, comparison.holds field value = true ↔ operator.Relates field value) :
      (Predicate.compare (Path.ofText text) comparison value).holds record = true ↔
        Holds ⟨text, operator, value⟩ record := by
    simp only [Predicate.holds, Option.any_eq_true, Holds, relates, Option.mem_def]
  cases operator with
  | matching =>
      obtain ⟨pattern, rfl, _⟩ := suits
      rw [predicate, Predicate.holds, Holds]
      cases resolved : (Path.ofText text).resolve? record with
      | none => simp only [Bool.false_eq_true, Option.not_mem_none, false_and, exists_false]
      | some field =>
          simp only [Option.mem_some_iff, exists_eq_left', Operator.Relates, Json.string?]
          cases field with
          | string found => simp only [Option.any_eq_true, Option.mem_def, Option.some.injEq,
              exists_eq_left']
          | _ => simp only [Option.not_mem_none, false_and, exists_false, Bool.false_eq_true]
  | member =>
      obtain ⟨values, rfl, _⟩ := suits
      simp only [predicate, Predicate.holds, Option.any_eq_true, List.any_eq_true, Holds,
        Operator.Relates, Option.mem_def, Json.array?, Option.some.injEq, exists_eq_left',
        Json.equals_comm]
  | _ =>
      refine compared _ fun field => ?_
      simp [Comparison.holds, Operator.Relates]

end Condition

namespace Descriptor

variable (descriptor : Descriptor)

/-- The records on which every condition of a query holds. -/
def hits (rows : List Json) : List Json :=
  rows.filter fun record => ∀ condition ∈ descriptor.conditions, condition.Holds record

/-- How records compare under an order of a query: by the value at its path in the direction of the
query, and then by the key. -/
def comparison (order key : String) : Json → Json → Ordering :=
  orderRecords (Path.ofText order) descriptor.direction (some key)

/-- Records in the order that a query asks for, if it asks for one. -/
def arranged (key : String) (records : List Json) : List Json :=
  match descriptor.order with
  | some order =>
    Sorting.stable (fun left right => descriptor.comparison order key left right == .lt) records
  | none => records

/-- The first records, as many as a query wants. -/
def limited (records : List Json) : List Json :=
  match descriptor.limit with
  | some count => records.take count
  | none => records

/-- The answer of a query: what is kept of its hits, in their order and up to its limit. -/
def answer (key : String) (rows : List Json) : List Json :=
  (descriptor.limited (descriptor.arranged key (descriptor.hits rows))).map (projectFields [key])

/-- The tests of a query pass a record exactly if all its conditions hold on it. -/
theorem all_passes_iff {conditions : List Condition} {tests : List Test}
    (suits : ∀ condition ∈ conditions, Suits condition.operator condition.value)
    (found : (conditions.map Condition.predicate).mapM Predicate.test? = some tests)
    (record : Json) : tests.all (·.passes record) = true ↔
      ∀ condition ∈ conditions, condition.Holds record := by
  rw [Predicate.all_passes_tests found, List.all_map, List.all_eq_true]
  exact forall₂_congr fun condition member =>
    Condition.holds_predicate_iff (suits condition member) record

section Accessors

variable (key : String)

/-- No condition is met where none is looked for. -/
private theorem findSome?_none {α : Type} (conditions : List Condition) :
    (conditions.findSome? fun _ => (none : Option α)) = none :=
  List.findSome?_eq_none_iff.mpr fun _ _ => rfl

theorem orderBy?_plan : (descriptor.plan key).orderBy? =
    descriptor.order.map fun order => (Path.ofText order, descriptor.direction) := by
  obtain ⟨table, conditions, order, descending, limit⟩ := descriptor
  cases order <;> cases limit <;>
    simp [Plan.orderBy?, plan, direction, List.findSome?_map, Function.comp_def]

theorem primaryKey?_plan : (descriptor.plan key).primaryKey? = some key := by
  obtain ⟨table, conditions, order, descending, limit⟩ := descriptor
  cases order <;> simp [Plan.primaryKey?, plan, List.findSome?_map, Function.comp_def,
    findSome?_none]

theorem limit?_plan : (descriptor.plan key).limit? = descriptor.limit := by
  obtain ⟨table, conditions, order, descending, limit⟩ := descriptor
  cases order <;> cases limit <;>
    simp [Plan.limit?, plan, List.findSome?_map, Function.comp_def, findSome?_none]

end Accessors

/-- Arranging is a stable sort wherever the comparison of records is transitive. -/
theorem arranged_isStablySorted {order key : String} (ordered : descriptor.order = some order)
    {records : List Json}
    (transitive : Sorting.IsTransitive (descriptor.comparison order key) records) :
    Sorting.IsStablySorted (descriptor.comparison order key) records
      (descriptor.arranged key records) := by
  rw [arranged, ordered]
  exact Sorting.isStablySorted ⟨orderRecords_swap _ _ _, transitive⟩

/-- **The plan of a query means the query.** The plan of a name that is read as a query can be made
ready to run. It then accepts the records on which all conditions hold, and gives the answer of the
query, for which the records are sorted in the order that the query asks for. What the plan tells
about itself is what is run. -/
theorem plan_means {name : String} {descriptor : Descriptor}
    (parsed : ofName name = .ok descriptor) (key : String) :
    ∃ selection, Selection.ofPlan? (descriptor.plan key) = some selection ∧
      (∀ record, selection.accepts record = true ↔
        ∀ condition ∈ descriptor.conditions, condition.Holds record) ∧
      (∀ rows, selection.run rows = descriptor.answer key rows) ∧
      (∀ order records, descriptor.order = some order →
        Sorting.IsTransitive (descriptor.comparison order key) records →
          Sorting.IsStablySorted (descriptor.comparison order key) records
            (descriptor.arranged key records)) ∧
      (descriptor.plan key).filters.mapM Predicate.test? = some selection.tests ∧
      (descriptor.plan key).orderBy? = selection.order ∧
      (descriptor.plan key).primaryKey? = selection.primaryKey ∧
      (descriptor.plan key).limit? = selection.limit := by
  have suits := suits_of_ofName parsed
  obtain ⟨tests, found⟩ := tests_of_ofName parsed
  have selected := descriptor.ofPlan?_plan key
  rw [found, Option.map_some] at selected
  refine ⟨_, selected, all_passes_iff suits found, fun rows => ?_,
    fun order records ordered => descriptor.arranged_isStablySorted ordered, ?_,
    descriptor.orderBy?_plan key, descriptor.primaryKey?_plan key, descriptor.limit?_plan key⟩
  · have accepted : rows.filter (fun record => tests.all (·.passes record)) =
        descriptor.hits rows := by
      refine List.filter_congr fun record _ => ?_
      rw [Bool.eq_iff_iff, all_passes_iff suits found, decide_eq_true_iff]
    unfold Selection.run answer arranged limited comparison
    rw [← accepted]
    cases descriptor.order <;> rfl
  · rw [filters_plan]
    exact found

/-- The name of a search for the latest record in one of two languages. -/
def latestName : String :=
  "s?\x7b\"table\":\"t\",\"query\":[[\"l\",\"in\",[\"es\",7]]]," ++
    "\"order\":\"y\",\"desc\":true,\"limit\":1\x7d"

/-- The search for the latest record in one of two languages. -/
def latest : Descriptor :=
  ⟨"t", [⟨"l", .member, .array [.string "es", .int 7]⟩], some "y", true, some 1⟩

/-- Of three records two are in one of the languages, and the later one of them is kept. -/
theorem plan_means_latest : ofName latestName = .ok latest ∧
    ∃ selection, Selection.ofPlan? (latest.plan "id") = some selection ∧
      selection.run [.object [("id", .int 1), ("l", .string "es"), ("y", .int 1605)],
        .object [("id", .int 2), ("l", .int 7), ("y", .int 1615)],
        .object [("id", .int 3), ("l", .string "en"), ("y", .int 1719)]] =
          [.object [("id", .int 2)]] := by
  have parsed : ofName latestName = .ok latest := rfl
  obtain ⟨selection, selected, _, runs, _⟩ := plan_means parsed "id"
  exact ⟨parsed, selection, selected, (runs _).trans rfl⟩

end Descriptor

end LiveSearch
