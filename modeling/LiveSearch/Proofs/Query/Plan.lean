import LiveSearch.Proofs.Query.Compilation
import LiveSearch.Proofs.Query.Reading

/-! # Plans of subscription names

The selection of the plan of a query has one test for each condition, and the order, the key and the
limit of the query (`LiveSearch.Descriptor.ofPlan?_plan`); it exists if every condition has a test.
A name that is read as a query states only literals that suit their operators, so its plan can
always be made ready to run (`LiveSearch.Descriptor.selection_of_plan`).
-/

namespace LiveSearch

/-- A condition whose literal suits its operator has a test. -/
theorem Condition.test_of_suits {condition : Condition}
    (suits : Descriptor.Suits condition.operator condition.value) :
    condition.predicate.test?.isSome = true := by
  obtain ⟨field, operator, value⟩ := condition
  cases operator with
  | matching =>
      obtain ⟨pattern, rfl, compiles⟩ := suits
      change ((Pattern.compile? pattern).map _).isSome = true
      rw [Option.isSome_map]
      exact compiles
  | _ => rfl

namespace Descriptor

/-- The direction of the order of a query. -/
def direction (descriptor : Descriptor) : Direction :=
  if descriptor.descending then .descending else .ascending

/-- The filters of the plan of a query are the predicates of its conditions. -/
theorem filters_plan (descriptor : Descriptor) (key : String) :
    (descriptor.plan key).filters = descriptor.conditions.map Condition.predicate := by
  obtain ⟨table, conditions, order, descending, limit⟩ := descriptor
  cases order <;> cases limit <;> simp [Plan.filters, plan, List.filterMap_map]

/-- The selection of the plan of a query, if every condition has a test. -/
theorem ofPlan?_plan (descriptor : Descriptor) (key : String) :
    Selection.ofPlan? (descriptor.plan key) =
      ((descriptor.conditions.map Condition.predicate).mapM Predicate.test?).map fun tests =>
        { table := descriptor.table
          tests
          order := descriptor.order.map fun order => (Path.ofText order, descriptor.direction)
          primaryKey := some key
          limit := descriptor.limit } := by
  rw [Selection.ofPlan?_eq, filters_plan]
  congr 1
  funext tests
  obtain ⟨table, conditions, order, descending, limit⟩ := descriptor
  have settled := Selection.foldl_settle_filters (conditions.map Condition.predicate)
  rw [List.map_map, Function.comp_def] at settled
  unfold plan direction
  rw [List.foldl_append, List.foldl_append, settled]
  cases order <;> cases limit <;> rfl

/-- The selection of the plan of a query keeps the field that identifies a record, and has the limit
of the query. -/
theorem keeps_of_plan {descriptor : Descriptor} {field : String} {selection : Selection}
    (selected : Selection.ofPlan? (descriptor.plan field) = some selection) :
    selection.primaryKey = some field ∧ selection.limit = descriptor.limit := by
  rw [ofPlan?_plan] at selected
  obtain ⟨tests, _, rfl⟩ := Option.map_eq_some_iff.mp selected
  exact ⟨rfl, rfl⟩

/-- Every condition of a query that has been read has been written down. -/
theorem isCondition_of_ofName {name : String} {descriptor : Descriptor}
    (parsed : ofName name = .ok descriptor) :
    ∀ condition ∈ descriptor.conditions, ∃ written, IsCondition written condition := by
  obtain ⟨fields, states⟩ := states_of_ofName parsed
  obtain ⟨written, _, _, each⟩ := states.conditions
  generalize descriptor.conditions = conditions at each
  clear * - each
  induction each with
  | nil => exact List.forall_mem_nil _
  | cons first _ ih => exact List.forall_mem_cons.mpr ⟨⟨_, first⟩, ih⟩

/-- The literals of a query that has been read suit their operators. -/
theorem suits_of_ofName {name : String} {descriptor : Descriptor}
    (parsed : ofName name = .ok descriptor) :
    ∀ condition ∈ descriptor.conditions, Suits condition.operator condition.value := by
  intro condition member
  obtain ⟨written, is⟩ := isCondition_of_ofName parsed condition member
  exact is.literal

/-- Every condition of a query that has been read has a test. -/
theorem tests_of_ofName {name : String} {descriptor : Descriptor}
    (parsed : ofName name = .ok descriptor) : ∃ tests,
      (descriptor.conditions.map Condition.predicate).mapM Predicate.test? = some tests := by
  rw [← Option.ne_none_iff_exists', ne_eq, Predicate.mapM_test?_eq_none_iff]
  rintro ⟨predicate, member, absent⟩
  obtain ⟨condition, present, rfl⟩ := List.mem_map.mp member
  have tested := Condition.test_of_suits (suits_of_ofName parsed condition present)
  rw [absent] at tested
  exact nomatch tested

/-- The plan of a query that has been read can be made ready to run. -/
theorem selection_of_plan {name : String} {descriptor : Descriptor}
    (parsed : ofName name = .ok descriptor) (field : String) :
    ∃ selection, Selection.ofPlan? (descriptor.plan field) = some selection ∧
      selection.primaryKey = some field := by
  obtain ⟨tests, found⟩ := tests_of_ofName parsed
  rw [ofPlan?_plan, found]
  exact ⟨_, rfl, rfl⟩

end Descriptor

end LiveSearch
