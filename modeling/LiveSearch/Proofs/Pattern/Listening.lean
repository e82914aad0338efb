import Mathlib.Data.Nat.Bitwise
import LiveSearch.Settings

/-! # What the listening pattern matches

The pattern that a provider listens to is read character by character
(`LiveSearch.Pattern.ofText?_listenPattern`), means a literal behind the start of the text
(`LiveSearch.Pattern.compile?_listenPattern`) and so matches the names that begin with the prefix
and a question mark (`LiveSearch.Pattern.isMatch_listenRegex`).
-/

namespace LiveSearch

namespace Pattern

section Places

variable {α : Type} {test : α → Bool}

theorem testBit_placesWhere (test : α → Bool) (place : Nat) (items : List α) (index : Nat) :
    (placesWhere test place items).testBit index =
      (decide (place ≤ index) && (items[index - place]?).any test) := by
  induction items generalizing place with
  | nil => simp [placesWhere]
  | cons item rest ih =>
      have first : (if test item then 1 <<< place else 0).testBit index =
          (decide (place = index) && test item) := by
        cases test item
        · simp
        · simp [Nat.one_shiftLeft, Nat.testBit_two_pow]
      rw [placesWhere, Nat.testBit_or, first, ih]
      rcases Nat.lt_trichotomy index place with before | rfl | behind
      · simp [show ¬place = index by omega, show ¬place ≤ index by omega,
          show ¬place + 1 ≤ index by omega]
      · simp
      · have next : index - place = index - (place + 1) + 1 := by omega
        simp [next, show ¬place = index by omega, show place ≤ index by omega,
          show place + 1 ≤ index by omega]

theorem placesWhere_eq_zero (place : Nat) {items : List α}
    (none : ∀ item ∈ items, test item = false) : placesWhere test place items = 0 := by
  induction items generalizing place with
  | nil => rfl
  | cons item rest ih =>
      rw [placesWhere, none item List.mem_cons_self, if_neg Bool.false_ne_true, Nat.zero_or]
      exact ih _ fun other inside => none other (List.mem_cons_of_mem _ inside)

theorem isSome_of_mem_surroundings {before : Char} {text : List Char}
    {around : Option Char × Option Char} (inside : around ∈ surroundings (some before) text) :
    around.1.isSome = true := by
  induction text generalizing before with
  | nil =>
      rw [surroundings, List.mem_singleton] at inside
      rw [inside]
      rfl
  | cons char rest ih =>
      rcases List.mem_cons.mp inside with rfl | later
      · rfl
      · exact ih later

/-- The text starts at its first place only. -/
theorem placesWhere_start (text : List Char) :
    placesWhere Look.start.holds 0 (surroundings none text) = 1 := by
  cases text with
  | nil => rfl
  | cons char rest =>
      have later : placesWhere Look.start.holds 1 (surroundings (some char) rest) = 0 :=
        placesWhere_eq_zero 1 fun around inside => by
          rw [Look.holds, Option.isNone_eq_false_iff]
          exact isSome_of_mem_surroundings inside
      rw [surroundings, placesWhere, later, if_pos (show Look.start.holds _ = true from rfl)]
      rfl

theorem behind_cons (chars rest : List Char) (char : Char) (places : Places) :
    behind chars (char :: rest) places =
      behind chars rest (2 * (places &&& placesWhere (· == char) 0 chars)) := rfl

theorem behind_zero (chars text : List Char) : behind chars text 0 = 0 := by
  induction text with
  | nil => rfl
  | cons char rest ih => rwa [behind_cons, Nat.zero_and]

theorem cons_prefix_drop_iff {chars rest : List Char} {char : Char} {place : Nat} :
    char :: rest <+: chars.drop place ↔
      chars[place]? = some char ∧ rest <+: chars.drop (place + 1) := by
  rcases Nat.lt_or_ge place chars.length with inside | outside
  · rw [List.drop_eq_getElem_cons inside, List.cons_prefix_cons, List.getElem?_eq_getElem inside,
      Option.some_inj, eq_comm]
  · rw [List.drop_eq_nil_of_le outside, List.getElem?_eq_none outside]
    exact ⟨nofun, nofun⟩

/-- From a single place a text leads to the place behind it, if it stands there. -/
theorem behind_two_pow (chars text : List Char) (place : Nat) :
    behind chars text (2 ^ place) =
      if text <+: chars.drop place then 2 ^ (place + text.length) else 0 := by
  induction text generalizing place with
  | nil => rfl
  | cons char rest ih =>
      have standing : (placesWhere (· == char) 0 chars).testBit place =
          decide (chars[place]? = some char) := by
        rw [testBit_placesWhere, Nat.sub_zero, decide_eq_true (Nat.zero_le _), Bool.true_and]
        cases chars[place]? with
        | none => rfl
        | some found =>
            simp only [Option.any_some, Option.some_inj]
            rfl
      rw [behind_cons, Nat.two_pow_and, standing]
      simp only [cons_prefix_drop_iff]
      by_cases same : chars[place]? = some char
      · have next : 2 * (2 ^ place * (decide (chars[place]? = some char)).toNat) =
            2 ^ (place + 1) := by
          rw [decide_eq_true same, Nat.pow_succ]
          simp only [Bool.toNat_true]
          omega
        rw [next, ih]
        simp only [same, true_and, List.length_cons]
        rw [Nat.add_assoc, Nat.add_comm 1]
      · simp only [same, decide_false, Bool.toNat_false, Nat.mul_zero, false_and, if_false]
        exact behind_zero chars rest

/-- Saturating a step that needs a place to start from leaves no place only where there was none. -/
theorem saturate_eq_zero_iff {step : Places → Places} (needs : step 0 = 0) (fuel : Nat)
    (places : Places) : saturate step fuel places = 0 ↔ places = 0 := by
  induction fuel generalizing places with
  | zero => rfl
  | succ fuel ih =>
      rw [saturate]
      split
      · rfl
      · rw [ih, Nat.or_eq_zero_iff]
        exact ⟨And.left, fun zero => ⟨zero, zero ▸ needs⟩⟩

end Places

section Reading

open Read

/-- A written character that stands for itself. -/
def plainTree (char : Char) : Tree := .single ⟨char, false⟩

theorem step_plain {char : Char} (plain : isMeta char = false) (draft : Draft) (rest : List Char) :
    draft.step char rest = some (draft.add (plainTree char), rest) := by
  revert plain
  unfold Draft.step
  extract_lets
  split <;> intro plain <;> first | rfl | exact absurd plain (by decide)

theorem escape_special {char : Char} (special : isMeta char = true) (rest : List Char) :
    Read.escape false (char :: rest) = some (.plain char, rest) := by
  have known := List.contains_iff_mem.mp special
  simp only [List.mem_cons, List.not_mem_nil, or_false] at known
  rcases known with rfl | rfl | rfl | rfl | rfl | rfl | rfl | rfl | rfl | rfl | rfl | rfl | rfl |
    rfl | rfl | rfl | rfl | rfl <;> rfl

theorem step_escaped {char : Char} (special : isMeta char = true) {draft : Draft}
    (blanks : draft.ignoreBlank = false) (rest : List Char) :
    draft.step '\\' (char :: rest) = some (draft.add (plainTree char), rest) := by
  change (Read.escape draft.ignoreBlank (char :: rest)).map _ = _
  rw [blanks, escape_special special]
  rfl

/-- An escaped text is read as its characters, each for itself. -/
theorem run_escapeChars {draft : Draft} (blanks : draft.ignoreBlank = false)
    (text rest : List Char) (fuel : Nat) :
    Draft.run (text.length + fuel) draft (escapeChars text ++ rest) =
      Draft.run fuel { draft with items := (text.map plainTree).reverse ++ draft.items } rest := by
  induction text generalizing draft with
  | nil =>
      rw [List.length_nil, Nat.zero_add]
      rfl
  | cons char others ih =>
      have first : Draft.run (others.length + fuel + 1) draft
          (escapeChars (char :: others) ++ rest) =
          Draft.run (others.length + fuel) (draft.add (plainTree char))
            (escapeChars others ++ rest) := by
        rw [Draft.run, after, blanks, if_neg Bool.false_ne_true]
        cases special : isMeta char with
        | true =>
            simp only [escapeChars, List.flatMap_cons, special, if_true, List.cons_append,
              List.nil_append]
            rw [step_escaped special blanks]
        | false =>
            simp only [escapeChars, List.flatMap_cons, special, Bool.false_eq_true, if_false,
              List.cons_append, List.nil_append]
            rw [step_plain special]
      rw [List.length_cons, Nat.add_right_comm, first,
        ih (show (draft.add (plainTree char)).ignoreBlank = false from blanks)]
      simp only [Draft.add, List.map_cons, List.reverse_cons, List.append_assoc, List.cons_append,
        List.nil_append]

/-- The characters behind the prefix in a listening pattern. -/
def listenEnd : List Char := ['[', '\\', '?', ']', '.', '*']

theorem toList_listenPattern (listPrefix : String) :
    (listenPattern listPrefix).toList = '^' :: (escapeChars listPrefix.toList ++ listenEnd) := by
  simp only [listenPattern, escape, String.toList_append, String.toList_ofList, List.append_assoc]
  rfl

/-- The tree of a set of which the question mark is the only member. -/
def markTree : Tree := .bracket false (.items [.single ⟨'?', false⟩])

theorem length_le_escapeChars (text : List Char) : text.length ≤ (escapeChars text).length := by
  induction text with
  | nil => exact Nat.zero_le _
  | cons char rest ih =>
      rw [escapeChars, List.flatMap_cons, List.length_append, List.length_cons, Nat.add_comm]
      refine Nat.add_le_add ?_ ih
      split <;> exact Nat.le_of_ble_eq_true rfl

theorem depths_plain (text : List Char) (others : List Tree) :
    Tree.depths (text.map plainTree ++ others) = Tree.depths others := by
  induction text with
  | nil => rfl
  | cons char rest ih =>
      rw [List.map_cons, List.cons_append, Tree.depths, ih,
        show (plainTree char).depth = 0 from rfl, Nat.zero_max]

/-- A listening pattern is read as the start of the text, the characters of the prefix, a question
mark and anything. -/
theorem ofText?_listenPattern (listPrefix : String) :
    Tree.ofText? (listenPattern listPrefix).toList =
      some (.sequence (.anchor .lineStart :: (listPrefix.toList.map plainTree ++
        [markTree, .repetition .dot 0 none true]))) := by
  rw [toList_listenPattern]
  generalize listPrefix.toList = text
  obtain ⟨further, length⟩ := Nat.exists_eq_add_of_le (length_le_escapeChars text)
  have fuel : ('^' :: (escapeChars text ++ listenEnd)).length + 1 =
      text.length + (further + 7) + 1 := by
    rw [List.length_cons, List.length_append, length]
    rfl
  have read : Draft.start.run (text.length + (further + 7) + 1)
      ('^' :: (escapeChars text ++ listenEnd)) = some { Draft.start with
        items := .repetition .dot 0 none true :: markTree ::
          ((text.map plainTree).reverse ++ [.anchor .lineStart]) } :=
    run_escapeChars (show (Draft.start.add (.anchor .lineStart)).ignoreBlank = false from rfl) text
      listenEnd (further + 7)
  have tree : ({ Draft.start with
      items := .repetition .dot 0 none true :: markTree ::
        ((text.map plainTree).reverse ++ [.anchor .lineStart]) } : Draft).tree =
      .sequence (.anchor .lineStart :: (text.map plainTree ++
        [markTree, .repetition .dot 0 none true])) := by
    rw [Draft.tree]
    simp only [List.reverse_cons, List.reverse_append, List.reverse_reverse, List.append_assoc]
    cases text <;> rfl
  have depth : (Tree.sequence (.anchor .lineStart :: (text.map plainTree ++
      [markTree, .repetition .dot 0 none true]))).depth = 2 := by
    rw [Tree.depth, Tree.depths, depths_plain]
    rfl
  rw [Tree.ofText?, fuel, read]
  dsimp only [Option.bind_eq_bind, Option.bind_some]
  rw [tree, depth]
  rfl

end Reading

section Meaning

open Unicode

/-- The characters that the dot matches: all but the line feed. -/
def lineCodes : CodeSet := ⟨[(0, 9), (11, 0xD7FF), (0xE000, 0x10FFFF)]⟩

/-- The regular expression of a listening pattern. -/
def listenRegex (text : List Char) : Regex :=
  .sequence [.look .start, .literal (text ++ ['?']), .repetition (.set lineCodes) 0 none true]

theorem ofSet_single (char : Char) : Regex.ofSet (.single char.toNat) = .literal [char] := by
  -- No character is a surrogate, so exactly one of the two parts of its range is left.
  have characters : (CodeSet.single char.toNat).characters.ranges =
      [(char.toNat, char.toNat)] := by
    change CodeSet.cutSurrogates (char.toNat, char.toNat) ++ [] = _
    have valid : char.toNat < 0xD800 ∨ 0xDFFF < char.toNat ∧ char.toNat < 0x110000 := char.valid
    unfold CodeSet.cutSurrogates
    rcases valid with low | high
    · rw [if_pos low, if_neg (by omega)]
      simp only [List.append_nil, List.cons.injEq, Prod.mk.injEq, and_true, true_and]
      omega
    · rw [if_neg (by omega), if_pos high.1]
      simp only [List.append_nil, List.nil_append, List.cons.injEq, Prod.mk.injEq, and_true]
      omega
  rw [Regex.ofSet, characters]
  dsimp only
  rw [if_pos rfl, Char.ofNat_toNat]

theorem ofTree?_plain (char : Char) :
    Regex.ofTree? .initial (plainTree char) = some (.literal [char], .initial) :=
  congrArg (fun regex => some (regex, Mode.initial)) (ofSet_single char)

theorem ofTrees?_plain (text : List Char) (others : List Tree) :
    Regex.ofTrees? .initial (text.map plainTree ++ others) =
      (Regex.ofTrees? .initial others).map fun found =>
        (text.map (fun char => .literal [char]) ++ found.1, found.2) := by
  induction text with
  | nil =>
      rw [List.map_nil, List.nil_append]
      cases Regex.ofTrees? .initial others <;> rfl
  | cons char rest ih =>
      rw [List.map_cons, List.cons_append, Regex.ofTrees?, ofTree?_plain]
      dsimp only [Option.bind_eq_bind, Option.bind_some]
      rw [ih]
      cases Regex.ofTrees? .initial others <;> rfl

/-- Neighbouring characters join to a literal. -/
theorem foldr_joinItem (text next : List Char) (rest : List Regex) :
    (text.map (fun char => Regex.literal [char])).foldr Regex.joinItem (.literal next :: rest) =
      .literal (text ++ next) :: rest := by
  induction text with
  | nil => rfl
  | cons char others ih =>
      rw [List.map_cons, List.foldr_cons, ih]
      rfl

theorem ofTree?_listen (text : List Char) :
    Regex.ofTree? .initial (.sequence (.anchor .lineStart :: (text.map plainTree ++
      [markTree, .repetition .dot 0 none true]))) = some (listenRegex text, .initial) := by
  have last : Regex.ofTrees? .initial [markTree, .repetition .dot 0 none true] =
      some ([.literal ['?'], .repetition (.set lineCodes) 0 none true], .initial) := by rfl
  have all : Regex.ofTrees? .initial (.anchor .lineStart :: (text.map plainTree ++
      [markTree, .repetition .dot 0 none true])) =
      some (.look .start :: (text.map (fun char => .literal [char]) ++
        [.literal ['?'], .repetition (.set lineCodes) 0 none true]), .initial) := by
    rw [Regex.ofTrees?, Regex.ofTree?]
    dsimp only [Option.bind_eq_bind, Option.bind_some]
    rw [ofTrees?_plain, last]
    rfl
  have joined : ((Regex.look .start :: (text.map (fun char => Regex.literal [char]) ++
      [.literal ['?'], .repetition (.set lineCodes) 0 none true])).flatMap Regex.items).foldr
        Regex.joinItem [] = [.look .start, .literal (text ++ ['?']),
          .repetition (.set lineCodes) 0 none true] := by
    have flat (chars : List Char) : (chars.map fun char => Regex.literal [char]).flatMap
        Regex.items = chars.map fun char => .literal [char] := by
      rw [List.flatMap_map]
      exact List.map_eq_flatMap.symm
    rw [List.flatMap_cons, List.flatMap_append, flat, List.foldr_append, List.foldr_append]
    exact congrArg (Regex.joinItem (.look .start)) (foldr_joinItem text ['?'] _)
  rw [Regex.ofTree?, all, Option.map_some, Regex.ofItems, joined]
  rfl

theorem compile?_eq {pattern : String} {tree : Tree} {regex : Regex} {mode : Mode}
    (read : Tree.ofText? pattern.toList = some tree)
    (means : Regex.ofTree? .initial tree = some (regex, mode)) :
    compile? pattern = if regex.fits then some regex else none := by
  rw [compile?, read]
  dsimp only [Option.bind_eq_bind, Option.bind_some]
  rw [means]
  rfl

/-- A listening pattern that is small enough means its prefix and a question mark in front of
anything. -/
theorem compile?_listenPattern (listPrefix : String) : compile? (listenPattern listPrefix) =
    if (listenRegex listPrefix.toList).fits then some (listenRegex listPrefix.toList) else none :=
  compile?_eq (ofText?_listenPattern listPrefix) (ofTree?_listen listPrefix.toList)

theorem advance_listenRegex (text chars : List Char) (places : Places) :
    (listenRegex text).advance chars places =
      saturate ((Regex.set lineCodes).advance chars) (chars.length + 1)
        (behind chars (text ++ ['?']) (places &&& 1)) := by
  rw [listenRegex, Regex.advance, Regex.advanceAll, Regex.advance, placesWhere_start,
    Regex.advanceAll, Regex.advance, Regex.advanceAll, Regex.advance, Regex.advanceAll]
  rfl

/-- It matches the names that begin with the prefix and a question mark. -/
theorem isMatch_listenRegex (text : List Char) (name : String) :
    (listenRegex text).isMatch name = true ↔ text ++ ['?'] <+: name.toList := by
  have first : ((1 <<< (name.toList.length + 1) - 1 : Places) &&& 1) = 2 ^ 0 := by
    have positive := Nat.two_pow_pos name.toList.length
    rw [Nat.and_one_is_mod, Nat.one_shiftLeft, Nat.pow_succ]
    omega
  have needs : (Regex.set lineCodes).advance name.toList 0 = 0 := by
    rw [Regex.advance, Nat.zero_and]
  rw [Regex.isMatch, advance_listenRegex, first, behind_two_pow, decide_eq_true_eq, ne_eq,
    saturate_eq_zero_iff needs, List.drop_zero]
  split
  · next stands => exact iff_of_true (Nat.two_pow_pos _).ne' stands
  · next absent => exact iff_of_false (not_not_intro rfl) absent

end Meaning

end Pattern

end LiveSearch
