import LiveSearch.Proofs.Query.Meaning

/-! # The size of accepted queries

A query that has been read has few conditions, with paths of bounded depth and membership conditions
of bounded length. Its plan keeps to all limits exactly if the path of its order is not too deep
either (`LiveSearch.Descriptor.isWithinLimits_iff`), which nothing checks: an order can lead as deep
as it likes (`LiveSearch.Descriptor.deep_order_accepted`).
-/

namespace LiveSearch

namespace Predicate

/-- The path to the field that a predicate is about. -/
def path : Predicate → Path
  | compare path _ _ => path
  | matching path _ => path
  | member path _ => path

/-- The values of a membership condition. -/
def members : Predicate → List Json
  | member _ values => values
  | _ => []

/-- A predicate with a path of bounded depth, and with few values if it is a membership
condition. -/
structure IsWithinLimits (predicate : Predicate) : Prop where
  path : 1 ≤ predicate.path.depth ∧ predicate.path.depth ≤ maxPathDepth
  members : predicate.members.length ≤ maxMembers

end Predicate

/-- A plan with few filters, all of which are within their limits, and with an order of bounded
depth. -/
structure Plan.IsWithinLimits (plan : Plan) : Prop where
  filters : ∀ predicate ∈ plan.filters, predicate.IsWithinLimits
  count : plan.filters.length ≤ maxConditions
  order : ∀ path direction, Stage.orderBy path direction ∈ plan.stages →
    1 ≤ path.depth ∧ path.depth ≤ maxPathDepth

/-- The predicate of a condition is about the field of the condition. -/
theorem Condition.path_predicate (condition : Condition) :
    condition.predicate.path = Path.ofText condition.field := by
  obtain ⟨field, operator, value⟩ := condition
  cases operator with
  | _ => rfl

/-- The values of a membership condition are those that its literal lists. -/
theorem Condition.members_predicate {condition : Condition}
    (suits : Descriptor.Suits condition.operator condition.value) :
    condition.predicate.members.length ≤ maxMembers := by
  obtain ⟨field, operator, value⟩ := condition
  cases operator with
  | member =>
      obtain ⟨values, rfl, few⟩ := suits
      exact few
  | _ => exact Nat.zero_le _

namespace Descriptor

variable {name : String} {descriptor : Descriptor}

/-- The filters of the plan of a query that has been read are within their limits. -/
theorem filters_isWithinLimits (parsed : ofName name = .ok descriptor) (key : String) :
    ∀ predicate ∈ (descriptor.plan key).filters, predicate.IsWithinLimits := by
  intro predicate member
  rw [filters_plan] at member
  obtain ⟨condition, present, rfl⟩ := List.mem_map.mp member
  obtain ⟨written, is⟩ := isCondition_of_ofName parsed condition present
  refine ⟨?_, Condition.members_predicate is.literal⟩
  rw [condition.path_predicate]
  exact is.path

/-- The plan of a query that has been read has few filters. -/
theorem length_filters_le (parsed : ofName name = .ok descriptor) (key : String) :
    (descriptor.plan key).filters.length ≤ maxConditions := by
  obtain ⟨fields, states⟩ := states_of_ofName parsed
  obtain ⟨written, _, few, each⟩ := states.conditions
  rw [filters_plan, List.length_map, ← each.length_eq]
  exact few

/-- The order of a query that has been read has a segment. -/
theorem depth_order_pos (parsed : ofName name = .ok descriptor) {order : String}
    (ordered : descriptor.order = some order) : 1 ≤ (Path.ofText order).depth := by
  obtain ⟨fields, states⟩ := states_of_ofName parsed
  rcases states.order with ⟨_, absent⟩ | ⟨given, _, text, _, segments, same⟩
  · exact nomatch ordered.symm.trans absent
  · rw [Option.some.inj (ordered.symm.trans same)]
    exact segments

/-- The plan of a query is ordered by the path of its order. -/
theorem orderBy_mem_plan {key : String} {path : Path} {direction : Direction} :
    Stage.orderBy path direction ∈ (descriptor.plan key).stages ↔
      ∃ order, descriptor.order = some order ∧ Path.ofText order = path ∧
        descriptor.direction = direction := by
  obtain ⟨table, conditions, order, descending, limit⟩ := descriptor
  cases order <;> cases limit <;> simp [plan, Descriptor.direction, eq_comm]

/-- **Accepted queries are within the limits, but for the depth of their order.** The plan of a name
that is read as a query has few filters, all of them within their limits, and orders by a path with
a segment. It is within all limits exactly if this path is not too deep. -/
theorem isWithinLimits_iff (parsed : ofName name = .ok descriptor) (key : String) :
    (∀ predicate ∈ (descriptor.plan key).filters, predicate.IsWithinLimits) ∧
    (descriptor.plan key).filters.length ≤ maxConditions ∧
    (∀ path direction, Stage.orderBy path direction ∈ (descriptor.plan key).stages →
      1 ≤ path.depth) ∧
    ((descriptor.plan key).IsWithinLimits ↔
      ∀ order, descriptor.order = some order → (Path.ofText order).depth ≤ maxPathDepth) := by
  have filters := filters_isWithinLimits parsed key
  have count := length_filters_le parsed key
  have segments : ∀ path direction, Stage.orderBy path direction ∈ (descriptor.plan key).stages →
      1 ≤ path.depth := by
    intro path direction member
    obtain ⟨order, ordered, rfl, _⟩ := orderBy_mem_plan.mp member
    exact depth_order_pos parsed ordered
  refine ⟨filters, count, segments, fun within order ordered => ?_, fun shallow => ?_⟩
  · exact (within.order _ _ (orderBy_mem_plan.mpr ⟨order, ordered, rfl, rfl⟩)).2
  · refine ⟨filters, count, fun path direction member => ⟨segments path direction member, ?_⟩⟩
    obtain ⟨order, ordered, rfl, _⟩ := orderBy_mem_plan.mp member
    exact shallow order ordered

/-- A path with a number of segments behind its first one. -/
def deepPath (more : Nat) : String :=
  String.ofList ('a' :: (List.replicate more ['.', 'a']).flatten)

/-- The name of a search for the first record in an order. -/
def firstName (order : String) : String :=
  "s?\x7b\"table\":\"t\",\"query\":[[\"l\",\"in\",[1]]],\"order\":\"" ++ order ++
    "\",\"limit\":1\x7d"

/-- A name whose order can be read is accepted. -/
private theorem accepted_of_order {order : String}
    (read : (ofName name).toOption.bind Descriptor.order = some order) :
    ∃ descriptor, ofName name = .ok descriptor ∧ descriptor.order = some order := by
  obtain ⟨descriptor, found, ordered⟩ := Option.bind_eq_some_iff.mp read
  refine ⟨descriptor, ?_, ordered⟩
  cases parsed : ofName name with
  | ok other =>
      rw [parsed] at found
      exact congrArg Except.ok (Option.some.inj found)
  | error fault =>
      rw [parsed] at found
      exact nomatch found

/-- An order by a path with 32 segments is accepted and within the limits. -/
theorem isWithinLimits_deepest : (Path.ofText (deepPath 31)).depth = maxPathDepth ∧
    ∃ descriptor, ofName (firstName (deepPath 31)) = .ok descriptor ∧
      descriptor.order = some (deepPath 31) ∧ (descriptor.plan "id").IsWithinLimits := by
  have deepest : (Path.ofText (deepPath 31)).depth = maxPathDepth := by decide +kernel
  have read : (ofName (firstName (deepPath 31))).toOption.bind Descriptor.order =
      some (deepPath 31) := by decide +kernel
  obtain ⟨descriptor, parsed, ordered⟩ := accepted_of_order read
  refine ⟨deepest, descriptor, parsed, ordered,
    (isWithinLimits_iff parsed "id").2.2.2.mpr fun order same => ?_⟩
  exact (Option.some.inj (ordered.symm.trans same)) ▸ Nat.le_of_eq deepest

/-- An order by a path with 33 segments is accepted too. -/
theorem deep_order_accepted : (Path.ofText (deepPath 32)).depth = maxPathDepth + 1 ∧
    ∃ descriptor, ofName (firstName (deepPath 32)) = .ok descriptor ∧
      descriptor.order = some (deepPath 32) ∧ ¬ (descriptor.plan "id").IsWithinLimits := by
  have deep : (Path.ofText (deepPath 32)).depth = maxPathDepth + 1 := by decide +kernel
  have read : (ofName (firstName (deepPath 32))).toOption.bind Descriptor.order =
      some (deepPath 32) := by decide +kernel
  obtain ⟨descriptor, parsed, ordered⟩ := accepted_of_order read
  refine ⟨deep, descriptor, parsed, ordered, fun within => ?_⟩
  have shallow := within.order _ _ (orderBy_mem_plan.mpr ⟨_, ordered, rfl, rfl⟩)
  rw [deep] at shallow
  exact absurd shallow.2 (Nat.not_succ_le_self _)

end Descriptor

end LiveSearch
