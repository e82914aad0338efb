import Mathlib.Logic.Basic

/-! # Rules that are checked in order

A grammar can be given as a list of rules, each with the fault that it stands for, of which the
first one that is broken counts (`LiveSearch.Rule.FirstBroken`). A reader obeys such a list if it
fails with exactly the fault of the first broken rule, and returns exactly what it is to return
otherwise (`LiveSearch.Rule.Obeyed`). Readers that obey their rules can be put together
(`LiveSearch.Rule.Obeyed.bind`), and then the rules of the earlier one come first.
-/

namespace LiveSearch

/-- A rule, and the fault of breaking it. -/
structure Rule (Fault : Type) where
  holds : Prop
  fault : Fault

namespace Rule

variable {Fault : Type}

/-- The fault is that of the first rule that does not hold. -/
def FirstBroken (rules : List (Rule Fault)) (fault : Fault) : Prop :=
  ∃ before rule after, rules = before ++ rule :: after ∧ (∀ earlier ∈ before, earlier.holds) ∧
    ¬ rule.holds ∧ rule.fault = fault

variable {rule : Rule Fault} {rules others : List (Rule Fault)} {fault : Fault}

@[simp] theorem not_firstBroken_nil : ¬ FirstBroken [] fault := by
  rintro ⟨before, rule, after, same, _⟩
  exact List.append_ne_nil_of_right_ne_nil before (List.cons_ne_nil rule after) same.symm

/-- Either the first rule is broken, or it holds and another one is the first to be broken. -/
@[simp] theorem firstBroken_cons : FirstBroken (rule :: rules) fault ↔
    ¬ rule.holds ∧ rule.fault = fault ∨ rule.holds ∧ FirstBroken rules fault := by
  constructor
  · rintro ⟨before, broken, after, same, holds, breaks, named⟩
    cases before with
    | nil =>
        obtain ⟨rfl, _⟩ := List.cons.inj same
        exact .inl ⟨breaks, named⟩
    | cons earlier before =>
        obtain ⟨rfl, remaining⟩ := List.cons.inj same
        obtain ⟨first, rest⟩ := List.forall_mem_cons.mp holds
        exact .inr ⟨first, before, broken, after, remaining, rest, breaks, named⟩
  · rintro (⟨breaks, named⟩ | ⟨first, before, broken, after, rfl, rest, breaks, named⟩)
    · exact ⟨[], rule, rules, rfl, List.forall_mem_nil _, breaks, named⟩
    · exact ⟨rule :: before, broken, after, rfl, List.forall_mem_cons.mpr ⟨first, rest⟩, breaks,
        named⟩

theorem firstBroken_append : FirstBroken (rules ++ others) fault ↔
    FirstBroken rules fault ∨ (∀ rule ∈ rules, rule.holds) ∧ FirstBroken others fault := by
  induction rules with
  | nil => simp only [List.nil_append, not_firstBroken_nil, List.not_mem_nil, false_or,
      false_implies, implies_true, true_and]
  | cons rule rules ih =>
      rw [List.cons_append, firstBroken_cons, firstBroken_cons, List.forall_mem_cons, ih,
        and_or_left, or_assoc, and_assoc]

/-- No rule is the first to be broken exactly if all of them hold. -/
theorem forall_holds_iff :
    (∀ rule ∈ rules, rule.holds) ↔ ∀ fault, ¬ FirstBroken rules fault := by
  induction rules with
  | nil => exact iff_of_true (List.forall_mem_nil _) fun _ => not_firstBroken_nil
  | cons rule rules ih =>
      rw [List.forall_mem_cons, ih]
      constructor
      · rintro ⟨holds, rest⟩ fault broken
        rcases firstBroken_cons.mp broken with ⟨breaks, _⟩ | ⟨_, later⟩
        · exact breaks holds
        · exact rest fault later
      · intro clear
        have holds : rule.holds := Classical.byContradiction fun breaks =>
          clear rule.fault (firstBroken_cons.mpr (.inl ⟨breaks, rfl⟩))
        exact ⟨holds, fun fault later => clear fault (firstBroken_cons.mpr (.inr ⟨holds, later⟩))⟩

/-- What is read is what is stated, or the fault of the first rule that is broken. -/
structure Obeyed {α : Type} (rules : List (Rule Fault)) (read : Except Fault α)
    (states : α → Prop) : Prop where
  ok : ∀ value, read = .ok value ↔ states value
  error : ∀ fault, read = .error fault ↔ FirstBroken rules fault

namespace Obeyed

variable {α β : Type} {read : Except Fault α} {states : α → Prop}

/-- If something is stated all rules hold. -/
theorem holds (obeyed : Obeyed rules read states) {value : α} (stated : states value) :
    ∀ rule ∈ rules, rule.holds :=
  forall_holds_iff.mpr fun fault broken => nomatch
    ((obeyed.ok value).mpr stated).symm.trans ((obeyed.error fault).mpr broken)

/-- The same can be stated in other words. -/
theorem congr (obeyed : Obeyed rules read states) {same : α → Prop}
    (iff : ∀ value, states value ↔ same value) : Obeyed rules read same where
  ok value := (obeyed.ok value).trans (iff value)
  error := obeyed.error

theorem pure (value : α) : Obeyed [] (.ok value : Except Fault α) (· = value) where
  ok _ := ⟨fun same => (Except.ok.inj same).symm, fun same => congrArg Except.ok same.symm⟩
  error _ := iff_of_false nofun not_firstBroken_nil

/-- A reader with one rule and one fault. -/
theorem single (ok : ∀ value, read = .ok value ↔ states value)
    (only : ∀ fault, read = .error fault → rule.fault = fault)
    (holds : rule.holds ↔ ∃ value, states value) : Obeyed [rule] read states where
  ok := ok
  error fault := by
    rw [firstBroken_cons]
    constructor
    · intro failed
      refine .inl ⟨fun held => ?_, only fault failed⟩
      obtain ⟨value, stated⟩ := holds.mp held
      exact nomatch failed.symm.trans ((ok value).mpr stated)
    · rintro (⟨breaks, rfl⟩ | ⟨_, later⟩)
      · cases result : read with
        | ok value => exact absurd (holds.mpr ⟨value, (ok value).mp result⟩) breaks
        | error other => rw [only other result]
      · exact absurd later not_firstBroken_nil

/-- A rule is checked before a reader starts. -/
theorem guard {bad : Prop} [Decidable bad] (holds : rule.holds ↔ ¬ bad)
    (stated : ∀ value, states value → rule.holds)
    (obeyed : rule.holds → Obeyed rules read states) :
    Obeyed (rule :: rules) (if bad then .error rule.fault else read) states := by
  by_cases broken : bad
  · have breaks : ¬ rule.holds := fun held => holds.mp held broken
    rw [if_pos broken]
    refine ⟨fun value => iff_of_false nofun fun states => breaks (stated value states),
      fun fault => ?_⟩
    rw [firstBroken_cons]
    constructor
    · exact fun same => .inl ⟨breaks, Except.error.inj same⟩
    · rintro (⟨_, rfl⟩ | ⟨held, _⟩)
      · rfl
      · exact absurd held breaks
  · have held := holds.mpr broken
    rw [if_neg broken]
    refine ⟨(obeyed held).ok, fun fault => ?_⟩
    rw [firstBroken_cons, (obeyed held).error]
    constructor
    · exact fun later => .inr ⟨held, later⟩
    · rintro (⟨breaks, _⟩ | ⟨_, later⟩)
      · exact absurd held breaks
      · exact later

/-- A reader goes on with what another one has read. -/
theorem bind {next : α → Except Fault β} {result : α → β → Prop}
    (obeyed : Obeyed rules read states)
    (onward : ∀ value, states value → Obeyed others (next value) (result value)) :
    Obeyed (rules ++ others) (read >>= next) fun final =>
      ∃ value, states value ∧ result value final := by
  cases first : read with
  | ok value =>
      have stated := (obeyed.ok value).mp first
      have later := onward value stated
      have only {other : α} (states : states other) : other = value :=
        Except.ok.inj (((obeyed.ok other).mpr states).symm.trans first)
      refine ⟨fun final => ?_, fun fault => ?_⟩
      · refine (later.ok final).trans ⟨fun results => ⟨value, stated, results⟩, ?_⟩
        rintro ⟨other, states, results⟩
        rw [← only states]
        exact results
      · rw [firstBroken_append, ← obeyed.error, first]
        refine (later.error fault).trans ⟨fun broken => .inr ⟨obeyed.holds stated, broken⟩, ?_⟩
        rintro (same | ⟨_, broken⟩)
        · exact nomatch same
        · exact broken
  | error earlier =>
      have unstated (value : α) : ¬ states value := fun states =>
        nomatch first.symm.trans ((obeyed.ok value).mpr states)
      have broken := (obeyed.error earlier).mp first
      refine ⟨fun final => iff_of_false nofun fun ⟨value, states, _⟩ => unstated value states,
        fun fault => ?_⟩
      rw [firstBroken_append, ← obeyed.error, first]
      change Except.error earlier = Except.error fault ↔ _
      refine ⟨fun same => .inl (congrArg _ (Except.error.inj same)), ?_⟩
      rintro (same | ⟨holds, _⟩)
      · exact congrArg _ (Except.error.inj same)
      · exact absurd broken (forall_holds_iff.mp holds earlier)

/-- What has been read is put into another form. -/
theorem map (obeyed : Obeyed rules read states) (form : α → β) :
    Obeyed rules (read >>= fun value => .ok (form value)) fun final =>
      ∃ value, states value ∧ final = form value := by
  rw [← List.append_nil rules]
  exact obeyed.bind fun value _ => pure (form value)

end Obeyed

end Rule

end LiveSearch
