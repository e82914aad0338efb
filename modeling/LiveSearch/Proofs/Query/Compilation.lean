import Mathlib.Data.List.Basic
import LiveSearch.Query.Selection

/-! # Compiled plans

A plan is read twice: its predicates are evaluated one by one, and for running it they are compiled
to tests. A selection holds the tests of all filters of its plan, in their order and wherever they
stand among the stages, next to what the other stages leave (`LiveSearch.Selection.ofPlan?_eq`).
Each test passes the records on which its predicate holds (`LiveSearch.Predicate.passes_test`), so
both readings agree on every record (`LiveSearch.Selection.ofPlan?_agrees`).
-/

namespace LiveSearch

namespace Predicate

/-- A predicate has no test exactly if its pattern does not compile. -/
theorem test?_eq_none_iff {predicate : Predicate} : predicate.test? = none ↔
    ∃ path pattern, predicate = .matching path pattern ∧ Pattern.compile? pattern = none := by
  cases predicate with
  | matching path pattern =>
      refine Option.map_eq_none_iff.trans ⟨fun refused => ⟨path, pattern, rfl, refused⟩, ?_⟩
      rintro ⟨_, _, ⟨⟩, refused⟩
      exact refused
  | _ => exact iff_of_false (nofun) fun ⟨_, _, same, _⟩ => nomatch same

/-- The test of a predicate passes a record exactly if the predicate holds on it. -/
theorem passes_test {predicate : Predicate} {test : Test} (ready : predicate.test? = some test)
    (record : Json) : test.passes record = predicate.holds record := by
  cases predicate with
  | matching path pattern =>
      obtain ⟨regex, compiles, rfl⟩ := Option.map_eq_some_iff.mp ready
      simp only [Test.passes, holds, compiles, Option.any_some]
  | _ =>
      obtain rfl := Option.some.inj ready
      rfl

/-- A pattern that does not compile matches nothing. -/
theorem holds_refused {pattern : String} (refused : Pattern.compile? pattern = none)
    (path : Path) (record : Json) : (matching path pattern).holds record = false := by
  rw [holds, refused]
  cases path.resolve? record with
  | none => rfl
  | some field =>
      cases field with
      | _ => rfl

/-- Predicates have tests unless one of them has none. -/
theorem mapM_test?_eq_none_iff {predicates : List Predicate} :
    predicates.mapM test? = none ↔ ∃ predicate ∈ predicates, predicate.test? = none := by
  induction predicates with
  | nil => exact iff_of_false nofun nofun
  | cons predicate rest ih =>
      rw [List.mapM_cons, List.exists_mem_cons_iff, ← ih]
      cases predicate.test? with
      | none => exact iff_of_true rfl (.inl rfl)
      | some test =>
          cases rest.mapM test? with
          | none => exact iff_of_true rfl (.inr rfl)
          | some tests => exact iff_of_false nofun nofun

/-- The tests of predicates pass a record exactly if all of the predicates hold on it. -/
theorem all_passes_tests {predicates : List Predicate} {tests : List Test}
    (ready : predicates.mapM test? = some tests) (record : Json) :
    tests.all (·.passes record) = predicates.all (·.holds record) := by
  induction predicates generalizing tests with
  | nil =>
      obtain rfl := Option.some.inj ready
      rfl
  | cons predicate rest ih =>
      rw [List.mapM_cons] at ready
      obtain ⟨test, first, ready⟩ := Option.bind_eq_some_iff.mp ready
      obtain ⟨others, further, last⟩ := Option.bind_eq_some_iff.mp ready
      obtain rfl := Option.some.inj last
      rw [List.all_cons, List.all_cons, passes_test first, ih further]

end Predicate

namespace Selection

/-- Take a stage into account that is not a filter. -/
def settle (selection : Selection) : Stage → Selection
  | .orderBy path direction => { selection with order := some (path, direction) }
  | .filter _ => selection
  | .pluck field => { selection with primaryKey := some field }
  | .limit count => { selection with limit := some count }

/-- Filters settle nothing. -/
@[simp] theorem foldl_settle_filters (predicates : List Predicate) (selection : Selection) :
    (predicates.map Stage.filter).foldl settle selection = selection := by
  induction predicates with
  | nil => rfl
  | cons predicate rest ih => exact ih

/-- What stages settle does not depend on the tests. -/
theorem foldl_settle_tests (stages : List Stage) (selection : Selection) (tests : List Test) :
    stages.foldl settle { selection with tests } =
      { stages.foldl settle selection with tests } := by
  induction stages generalizing selection with
  | nil => rfl
  | cons stage rest ih =>
      have apart : settle { selection with tests } stage =
          { settle selection stage with tests } := by
        cases stage with
        | _ => rfl
      rw [List.foldl_cons, apart, ih, List.foldl_cons]

/-- Stages add the tests of their filters, if all of them have one, and settle the rest. -/
theorem foldlM_addStage? (table : String) (stages : List Stage) (selection : Selection) :
    stages.foldlM addStage? selection =
      ((Plan.mk table stages).filters.mapM Predicate.test?).map fun tests =>
        { stages.foldl settle selection with tests := selection.tests ++ tests } := by
  induction stages generalizing selection with
  | nil =>
      rw [List.foldlM_nil, Plan.filters, List.filterMap_nil, List.mapM_nil, Option.pure_def,
        Option.pure_def, Option.map_some, List.append_nil]
      rfl
  | cons stage rest ih =>
      rw [List.foldlM_cons]
      cases stage with
      | filter predicate =>
          change _ = Option.map _ ((predicate :: (Plan.mk table rest).filters).mapM _)
          rw [List.mapM_cons, addStage?]
          cases predicate.test? with
          | none => rfl
          | some test =>
              refine (ih _).trans ?_
              -- The tests so far have one more test now, which the rest does not look at.
              rw [foldl_settle_tests]
              cases (Plan.mk table rest).filters.mapM Predicate.test? with
              | none => rfl
              | some tests =>
                  simp only [Option.map_some, Option.bind_eq_bind, Option.bind_some,
                    Option.pure_def, List.append_assoc, List.singleton_append]
                  rfl
      | orderBy path direction => exact ih (selection.settle (.orderBy path direction))
      | pluck field => exact ih (selection.settle (.pluck field))
      | limit count => exact ih (selection.settle (.limit count))

/-- The selection of a plan holds the tests of all filters, if all of them have one, and what the
other stages settle. -/
theorem ofPlan?_eq (plan : Plan) :
    ofPlan? plan = (plan.filters.mapM Predicate.test?).map fun tests =>
      { plan.stages.foldl settle ⟨plan.table, [], none, none, none⟩ with tests } :=
  foldlM_addStage? plan.table plan.stages _

/-- **The compiled plan agrees with its predicates.** A selection of a plan accepts a record exactly
if all filters of the plan hold on it. A plan has no selection exactly if a pattern in one of its
filters does not compile, and such a filter holds on no record. -/
theorem ofPlan?_agrees (plan : Plan) :
    (∀ selection, ofPlan? plan = some selection → ∀ record,
      selection.accepts record = plan.filters.all (·.holds record)) ∧
    (ofPlan? plan = none ↔ ∃ path pattern, Predicate.matching path pattern ∈ plan.filters ∧
      Pattern.compile? pattern = none) ∧
    ∀ path pattern, Pattern.compile? pattern = none →
      ∀ record, (Predicate.matching path pattern).holds record = false := by
  refine ⟨fun selection selected record => ?_, ?_, fun path pattern refused record =>
    Predicate.holds_refused refused path record⟩
  · rw [ofPlan?_eq] at selected
    obtain ⟨tests, ready, rfl⟩ := Option.map_eq_some_iff.mp selected
    exact Predicate.all_passes_tests ready record
  · rw [ofPlan?_eq, Option.map_eq_none_iff, Predicate.mapM_test?_eq_none_iff]
    constructor
    · rintro ⟨predicate, member, absent⟩
      obtain ⟨path, pattern, rfl, refused⟩ := Predicate.test?_eq_none_iff.mp absent
      exact ⟨path, pattern, member, refused⟩
    · rintro ⟨path, pattern, member, refused⟩
      exact ⟨_, member, Predicate.test?_eq_none_iff.mpr ⟨path, pattern, rfl, refused⟩⟩

/-- A plan with a pattern and two more filters, and with other stages between them. -/
def interleaved (pattern : String) : Plan where
  table := "books"
  stages := [.limit 7, .filter (.matching ⟨["title"]⟩ pattern), .pluck "id",
    .filter (.compare ⟨["years", "1"]⟩ .less (.int 1700)), .limit 1,
    .filter (.member ⟨["language"]⟩ [.string "es", .int 7])]

/-- Of two books the compiled plan accepts the one on which all filters hold. With a pattern that
does not compile there is no such plan. -/
theorem ofPlan?_agrees_interleaved :
    (∃ selection, ofPlan? (interleaved "^Don") = some selection ∧
      selection.accepts (.object [("language", .int 7), ("title", .string "Don Quijote"),
        ("years", .array [.int 1605, .int 1615])]) = true ∧
      selection.accepts (.object [("language", .int 7), ("title", .string "Don Juan"),
        ("years", .array [.int 1630])]) = false) ∧
    ofPlan? (interleaved "(") = none := by
  have compiles : (ofPlan? (interleaved "^Don")).isSome = true := by decide +kernel
  obtain ⟨selection, selected⟩ := Option.isSome_iff_exists.mp compiles
  have agrees := (ofPlan?_agrees (interleaved "^Don")).1 selection selected
  refine ⟨⟨selection, selected, ?_, ?_⟩, (ofPlan?_agrees (interleaved "(")).2.1.mpr ?_⟩
  · rw [agrees]
    decide +kernel
  · rw [agrees]
    decide +kernel
  · exact ⟨⟨["title"]⟩, "(", .head _, by decide +kernel⟩

end Selection

end LiveSearch
