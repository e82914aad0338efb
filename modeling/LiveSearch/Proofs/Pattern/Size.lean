import LiveSearch.Proofs.Pattern.Listening

/-! # Listening patterns that are small enough

States are only ever added, so the size of an automaton is bounded by what each of its parts can
add, whether or not states are found again. For a listening pattern this is a constant and 32 bytes
for each byte of the prefix (`LiveSearch.Pattern.Regex.bytes_extent_listen`).
-/

namespace LiveSearch

namespace Pattern

open Unicode

theorem Extent.bytes_times_plain (count : Nat) (extent : Extent) :
    (extent.times Extent.plain count).bytes ≤ extent.bytes + 32 * count := by
  induction count generalizing extent with
  | zero => exact Nat.le_refl _
  | succ count ih =>
      rw [Extent.times]
      split
      · exact Nat.le_add_right _ _
      · refine (ih extent.plain).trans (Nat.le_of_eq ?_)
        simp only [Extent.plain, Extent.state]
        omega

namespace Sharing

/-- Finding a state adds at most this one. -/
theorem bytes_find (sharing : Sharing) (extra : Nat) (parts : List Nat) :
    (sharing.find extra parts).2.extent.bytes ≤ sharing.extent.bytes + 32 + extra := by
  have added (place : Nat) : (sharing.insert place extra parts).2.extent.bytes =
      sharing.extent.bytes + 32 + extra := rfl
  unfold find
  dsimp only
  split
  · split
    · dsimp only
      omega
    · exact (added _).le
  · exact (added _).le

/-- The bytes that reading sequences of bytes forward can add. -/
def forwardCost : Nat → List (List ByteRange) → Nat
  | 0, _ => 0
  | depth + 1, sequences => 32 + 8 * (byFirst sequences).length +
      ((byFirst sequences).map fun group =>
        if group.2.all List.isEmpty then 0 else forwardCost depth group.2).sum

/-- What each step of a fold over groups of sequences adds, all steps add together. -/
theorem foldl_adds
    (step : List Nat × Sharing → ByteRange × List (List ByteRange) → List Nat × Sharing)
    (cost : List (List ByteRange) → Nat)
    (adds : ∀ sofar group, (step sofar group).1.length = sofar.1.length + 3 ∧
      (step sofar group).2.extent.bytes ≤ sofar.2.extent.bytes + cost group.2)
    (groups : List (ByteRange × List (List ByteRange))) (sofar : List Nat × Sharing) :
    (groups.foldl step sofar).1.length = sofar.1.length + 3 * groups.length ∧
      (groups.foldl step sofar).2.extent.bytes ≤
        sofar.2.extent.bytes + (groups.map fun group => cost group.2).sum := by
  induction groups generalizing sofar with
  | nil => exact ⟨rfl, Nat.le_refl _⟩
  | cons group rest ih =>
      have first := adds sofar group
      have later := ih (step sofar group)
      rw [List.foldl_cons, List.length_cons, List.map_cons, List.sum_cons]
      omega

theorem bytes_addForward (finish depth : Nat) (sequences : List (List ByteRange))
    (sharing : Sharing) : (sharing.addForward finish depth sequences).2.extent.bytes ≤
      sharing.extent.bytes + forwardCost depth sequences := by
  induction depth generalizing sequences sharing with
  | zero => exact Nat.le_refl _
  | succ depth ih =>
      rw [addForward, forwardCost]
      refine (bytes_find _ _ _).trans ?_
      generalize folding : List.foldl _ _ (byFirst sequences) = result
      have folded : result.1.length = 0 + 3 * (byFirst sequences).length ∧
          result.2.extent.bytes ≤ sharing.extent.bytes + ((byFirst sequences).map fun group =>
            if group.2.all List.isEmpty then 0 else forwardCost depth group.2).sum := by
        rw [← folding]
        refine foldl_adds _ (fun tails => if tails.all List.isEmpty then 0
          else forwardCost depth tails) (fun sofar group => ⟨rfl, ?_⟩) _ _
        dsimp only
        split
        · exact Nat.le_refl _
        · exact ih _ _
      rw [Nat.zero_add] at folded
      rw [folded.1, Nat.mul_div_cancel_left _ (by decide : 0 < 3)]
      refine (Nat.add_le_add_right (Nat.add_le_add_right folded.2 32) _).trans (Nat.le_of_eq ?_)
      omega

/-- Reading a sequence of bytes backward adds at most a state for each of them. -/
theorem bytes_addBackward (finish : Nat) (sequence : List ByteRange) (sharing : Sharing) :
    (sharing.addBackward finish sequence).extent.bytes ≤
      sharing.extent.bytes + 32 * sequence.length := by
  unfold addBackward
  induction sequence generalizing finish sharing with
  | nil => exact Nat.le_refl _
  | cons range rest ih =>
      have first := bytes_find sharing 0 [finish, range.1, range.2]
      have later := ih (sharing.find 0 [finish, range.1, range.2]).1
        (sharing.find 0 [finish, range.1, range.2]).2
      rw [List.foldl_cons, List.length_cons]
      refine later.trans ?_
      omega

end Sharing

/-- The bytes that a set of characters can add where it is read forward. -/
def forwardSetCost (codes : CodeSet) : Nat :=
  32 + Sharing.forwardCost 4 (setSequences codes)

/-- The bytes that a set of characters can add where it is read backward. -/
def backwardSetCost (codes : CodeSet) : Nat :=
  64 + 4 * (setSequences codes).length + 32 * ((setSequences codes).map List.length).sum

section Sets

variable {codes : CodeSet} (wide : codes.ranges.all (·.2 < 0x80) = false) (extent : Extent)

include wide

theorem bytes_addSet_forward :
    (addSet false codes extent).bytes ≤ extent.bytes + forwardSetCost codes := by
  rw [addSet, if_neg (by rw [wide]; exact Bool.false_ne_true), forwardSetCost]
  refine (Sharing.bytes_addForward _ _ _ _).trans (Nat.le_of_eq ?_)
  simp only [Sharing.start, Extent.plain, Extent.state]
  omega

theorem bytes_addSet_backward :
    (addSet true codes extent).bytes ≤ extent.bytes + backwardSetCost codes := by
  have folded (finish : Nat) (sequences : List (List ByteRange)) (sharing : Sharing) :
      (sequences.foldl (fun sharing sequence => sharing.addBackward finish sequence)
        sharing).extent.bytes ≤ sharing.extent.bytes + 32 * (sequences.map List.length).sum := by
    induction sequences generalizing sharing with
    | nil => exact Nat.le_refl _
    | cons sequence rest ih =>
        have first := Sharing.bytes_addBackward finish sequence sharing
        have later := ih (sharing.addBackward finish sequence)
        rw [List.foldl_cons, List.map_cons, List.sum_cons]
        omega
  rw [addSet, if_neg (by rw [wide]; exact Bool.false_ne_true), backwardSetCost]
  refine (folded _ _ _).trans (Nat.le_of_eq ?_)
  simp only [Sharing.start, Extent.plain, Extent.fork, Extent.state]
  omega

end Sets

namespace Regex

variable (text : List Char)

theorem extent_forward : extent false (listenRegex text) =
    (addSet false lineCodes ((Extent.zero.plain.plain.plain.times Extent.plain
      (byteLength (text ++ ['?']))).fork 2)).plain.plain := by
  have anchored : leads false .start (listenRegex text) = true := rfl
  have ways : (shortest (.set lineCodes)).any (0 < ·) = true := by decide
  rw [extent, if_neg Bool.false_ne_true, anchored, if_pos rfl, listenRegex]
  simp only [add, addAll, ways, if_true, Bool.false_eq_true, if_false]

theorem extent_backward : extent true (listenRegex text) =
    ((addSet true lineCodes (((Extent.zero.fork 2).plain.tell 1).fork 2)).times Extent.plain
      (byteLength (text ++ ['?']))).plain.plain := by
  have free : leads true .finish (listenRegex text) = false := rfl
  have ways : (shortest (.set lineCodes)).any (0 < ·) = true := by decide
  rw [extent, if_pos rfl, free, if_neg Bool.false_ne_true, listenRegex]
  simp only [add, addReversed, ways, if_true]

theorem byteLength_append_question : byteLength (text ++ ['?']) = byteLength text + 1 := by
  rw [byteLength, List.foldl_append]
  rfl

/-- Both automata take at most 32 bytes for each byte of the prefix, besides a constant. -/
theorem bytes_extent_listen (backward : Bool) :
    (extent backward (listenRegex text)).bytes ≤ 32 * byteLength text + 2000 := by
  have wide : lineCodes.ranges.all (·.2 < 0x80) = false := rfl
  have costs : forwardSetCost lineCodes ≤ 1000 ∧ backwardSetCost lineCodes ≤ 1500 := by
    decide +kernel
  cases backward with
  | false =>
      rw [extent_forward]
      generalize literal : Extent.times Extent.plain (byteLength (text ++ ['?'])) _ = before
      have literals := Extent.bytes_times_plain (byteLength (text ++ ['?']))
        Extent.zero.plain.plain.plain
      have set := bytes_addSet_forward wide (before.fork 2)
      rw [literal, byteLength_append_question] at literals
      simp only [Extent.plain, Extent.fork, Extent.state, Extent.zero] at literals set ⊢
      omega
  | true =>
      rw [extent_backward]
      generalize dot : addSet true lineCodes _ = before
      have literals := Extent.bytes_times_plain (byteLength (text ++ ['?'])) before
      have set := bytes_addSet_backward wide (((Extent.zero.fork 2).plain.tell 1).fork 2)
      rw [dot] at set
      rw [byteLength_append_question] at literals ⊢
      simp only [Extent.plain, Extent.fork, Extent.tell, Extent.state, Extent.zero] at literals set
      simp only [Extent.plain, Extent.state]
      omega

end Regex

/-- A prefix of at most 256 KiB makes a pattern that is small enough. -/
theorem isSome_compile?_listenPattern {listPrefix : String}
    (short : byteLength listPrefix.toList ≤ 0x40000) :
    (compile? (listenPattern listPrefix)).isSome = true := by
  have fits (backward : Bool) :
      (Regex.extent backward (listenRegex listPrefix.toList)).bytes ≤ Extent.limit := by
    have bound := Regex.bytes_extent_listen listPrefix.toList backward
    unfold Extent.limit
    omega
  rw [compile?_listenPattern, Regex.fits, decide_eq_true (fits false), decide_eq_true (fits true),
    Bool.and_true, Bool.or_true]
  rfl

end Pattern

end LiveSearch
