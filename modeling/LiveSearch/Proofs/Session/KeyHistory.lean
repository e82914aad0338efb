import LiveSearch.Proofs.Session.KeySet

/-! # What a set of keys recalls

A call of a set of keys is effective if the set answers that it has changed. Whatever is called, a
set that begins empty holds the keys whose last effective call has added them, in the order of these
calls: a key that has been taken away and added again stands at the place of its return
(`LiveSearch.KeySet.run_recalls`).
-/

namespace LiveSearch.KeySet

/-- A call of a set of keys. -/
inductive Call
  | insert (key : String)
  | erase (key : String)
deriving DecidableEq

namespace Call

/-- The key that a call is about. -/
def key : Call → String
  | insert key => key
  | erase key => key

/-- The answer of a set to a call, and the set behind it. -/
def perform (set : KeySet) : Call → Bool × KeySet
  | insert key => set.insert key
  | erase key => set.erase key

/-- The last of several calls about a key. -/
def latest? (calls : List Call) (key : String) : Option Call :=
  calls.reverse.find? fun call => call.key == key

/-- The number of calls that have been made since the last one about a key. -/
def age (calls : List Call) (key : String) : Nat :=
  calls.reverse.findIdx fun call => call.key == key

theorem latest?_concat (calls : List Call) (call : Call) (key : String) :
    latest? (calls ++ [call]) key = if call.key = key then some call else latest? calls key := by
  simp only [latest?, List.reverse_append, List.reverse_singleton, List.singleton_append,
    List.find?_cons]
  by_cases same : call.key = key
  · simp only [same, beq_self_eq_true, ↓reduceIte]
  · simp only [same, beq_false_of_ne, ne_eq, not_false_eq_true, ↓reduceIte]

theorem age_concat (calls : List Call) (call : Call) (key : String) :
    age (calls ++ [call]) key = if call.key = key then 0 else age calls key + 1 := by
  simp only [age, List.reverse_append, List.reverse_singleton, List.singleton_append,
    List.findIdx_cons]
  by_cases same : call.key = key
  · simp only [same, beq_self_eq_true, cond_true, ↓reduceIte]
  · simp only [same, beq_false_of_ne, ne_eq, not_false_eq_true, cond_false, ↓reduceIte]

end Call

/-- A set after several calls. -/
def run (set : KeySet) (calls : List Call) : KeySet :=
  calls.foldl (fun set call => (call.perform set).2) set

/-- Those of several calls that change the set on which they are made. -/
def effects (set : KeySet) : List Call → List Call
  | [] => []
  | call :: rest =>
    (if (call.perform set).1 then [call] else []) ++ (call.perform set).2.effects rest

section Answers

variable {set : KeySet}

/-- A key is new exactly if the set does not list it. -/
theorem IsExact.insert_iff (exact : set.IsExact) (key : String) :
    (set.insert key).1 = true ↔ key ∉ set.toList := by
  have known := exact.known key
  unfold KeySet.insert
  by_cases held : set.members.contains key = true
  · simp only [held, ↓reduceIte, Bool.false_eq_true, toList, known.mp held, not_true]
  · simp only [held, Bool.false_eq_true, ↓reduceIte, toList, true_iff]
    intro listed
    exact held (known.mpr listed)

/-- A key can be taken away exactly if the set lists it. -/
theorem IsExact.erase_iff (exact : set.IsExact) (key : String) :
    (set.erase key).1 = true ↔ key ∈ set.toList := by
  have known := exact.known key
  unfold KeySet.erase
  by_cases held : set.members.contains key = true
  · simp only [held, ↓reduceIte, toList, known.mp held]
  · simp only [held, Bool.false_eq_true, ↓reduceIte, toList, false_iff]
    intro listed
    exact held (known.mpr listed)

/-- A call without effect leaves the whole set as it is. -/
theorem perform_of_refused {call : Call} (refused : (call.perform set).1 = false) :
    (call.perform set).2 = set := by
  cases call with
  | insert key =>
      simp only [Call.perform, KeySet.insert] at refused ⊢
      split at refused
      · rename_i held
        rw [if_pos held]
      · cases refused
  | erase key =>
      simp only [Call.perform, KeySet.erase] at refused ⊢
      split at refused
      · cases refused
      · rename_i free
        rw [if_neg free]

theorem IsExact.perform (exact : set.IsExact) (call : Call) : (call.perform set).2.IsExact := by
  cases call with
  | insert key => exact exact.insert key
  | erase key => exact exact.erase key

end Answers

section Histories

variable {set : KeySet} {past : List Call}

/-- The keys of a set are those whose last effective call has added them, in the order of these
calls. -/
structure IsArranged (set : KeySet) (past : List Call) : Prop where
  listed : ∀ key, key ∈ set.toList ↔ Call.latest? past key = some (.insert key)
  ordered : set.toList.Pairwise fun earlier later => Call.age past later < Call.age past earlier

theorem isArranged_empty : KeySet.empty.IsArranged [] where
  listed _ := iff_of_false List.not_mem_nil nofun
  ordered := .nil

/-- A new key comes last, both among the keys and among the calls. -/
private theorem IsArranged.inserted (arranged : set.IsArranged past) {key : String}
    {after : KeySet} (absent : key ∉ set.toList) (list : after.toList = set.toList ++ [key]) :
    after.IsArranged (past ++ [.insert key]) where
  listed other := by
    rw [list, Call.latest?_concat, List.mem_append, List.mem_singleton]
    by_cases same : key = other
    · subst same
      simp only [Call.key, ↓reduceIte, or_true]
    · simp only [Call.key, same, Ne.symm same, ↓reduceIte, or_false, arranged.listed other]
  ordered := by
    rw [list]
    apply List.pairwise_append.mpr
    refine ⟨?_, List.pairwise_singleton _ _, ?_⟩
    · apply arranged.ordered.imp_of_mem
      intro earlier later first second younger
      have differs : key ≠ earlier := fun same => absent (same ▸ first)
      have differs' : key ≠ later := fun same => absent (same ▸ second)
      simp only [Call.age_concat, Call.key, differs, differs', ↓reduceIte]
      exact Nat.succ_lt_succ younger
    · intro earlier first later last
      have differs : key ≠ earlier := fun same => absent (same ▸ first)
      rw [List.mem_singleton.mp last]
      simp only [Call.age_concat, Call.key, differs, ↓reduceIte]
      exact Nat.succ_pos _

/-- Taking a key away makes all other calls older by one. -/
private theorem IsArranged.erased (arranged : set.IsArranged past) (nodup : set.toList.Nodup)
    {key : String} {after : KeySet} (list : after.toList = set.toList.erase key) :
    after.IsArranged (past ++ [.erase key]) where
  listed other := by
    rw [list, Call.latest?_concat, nodup.mem_erase_iff]
    by_cases same : key = other
    · subst same
      simp only [Call.key, ↓reduceIte, ne_eq, not_true, false_and, Option.some.injEq, reduceCtorEq]
    · simp only [Call.key, same, Ne.symm same, ↓reduceIte, ne_eq, not_false_eq_true, true_and,
        arranged.listed other]
  ordered := by
    rw [list]
    apply (arranged.ordered.sublist List.erase_sublist).imp_of_mem
    intro earlier later first second younger
    have differs : key ≠ earlier := (nodup.mem_erase_iff.mp first).1.symm
    have differs' : key ≠ later := (nodup.mem_erase_iff.mp second).1.symm
    simp only [Call.age_concat, Call.key, differs, differs', ↓reduceIte]
    exact Nat.succ_lt_succ younger

/-- Every call keeps the keys arranged by the effective calls. -/
theorem IsArranged.perform (arranged : set.IsArranged past) (exact : set.IsExact) (call : Call) :
    (call.perform set).2.IsArranged
      (past ++ if (call.perform set).1 then [call] else []) := by
  cases effective : (call.perform set).1 with
  | false =>
      rw [perform_of_refused effective, if_neg Bool.false_ne_true, List.append_nil]
      exact arranged
  | true =>
      rw [if_pos rfl]
      cases call with
      | insert key =>
          have absent := (exact.insert_iff key).mp effective
          apply arranged.inserted absent
          exact (exact.toList_insert key).trans (if_neg absent)
      | erase key => exact arranged.erased exact.nodup_toList (exact.toList_erase key)

/-- So do several calls, one after another. -/
theorem IsArranged.run (arranged : set.IsArranged past) (exact : set.IsExact) (calls : List Call) :
    (set.run calls).IsExact ∧ (set.run calls).IsArranged (past ++ set.effects calls) := by
  induction calls generalizing set past with
  | nil =>
      rw [effects, List.append_nil]
      exact ⟨exact, arranged⟩
  | cons call rest ih =>
      rw [effects, ← List.append_assoc]
      exact ih (arranged.perform exact call) (exact.perform call)

end Histories

/-- A set of keys that knows what it lists and lists what the effective calls have left there. -/
structure Recalls (set : KeySet) (past : List Call) : Prop where
  /-- The sequence has no key twice, and its keys are those of the search tree. -/
  exact : set.IsExact
  insert_iff : ∀ key, (set.insert key).1 = true ↔ key ∉ set.toList
  inserted : ∀ key, (set.insert key).1 = true → (set.insert key).2.toList = set.toList ++ [key]
  erase_iff : ∀ key, (set.erase key).1 = true ↔ key ∈ set.toList
  erased : ∀ key, (set.erase key).1 = true →
    (set.erase key).2.toList = set.toList.filter (· ≠ key)
  refused : ∀ call : Call, (call.perform set).1 = false → (call.perform set).2 = set
  arranged : set.IsArranged past

/-- **A set of keys remembers who came when.** Whatever is called, its sequence and its search tree
agree, its answers tell whether a key is there, and it lists the keys whose last effective call has
added them, in the order of these calls. -/
theorem run_recalls (calls : List Call) : (empty.run calls).Recalls (empty.effects calls) := by
  obtain ⟨exact, arranged⟩ := isArranged_empty.run isExact_empty calls
  rw [List.nil_append] at arranged
  generalize empty.run calls = set at exact arranged
  refine ⟨exact, exact.insert_iff, ?_, exact.erase_iff, ?_, fun _ => perform_of_refused, arranged⟩
  · intro key new
    rw [exact.toList_insert, if_neg ((exact.insert_iff key).mp new)]
  · intro key _
    rw [exact.toList_erase, exact.erase_eq_filter]

-- A key that returns stands behind one that has stayed.
example : (empty.run [.insert "b", .insert "a", .insert "b", .erase "b", .insert "b"]).toList =
    ["a", "b"] := by decide

end LiveSearch.KeySet
