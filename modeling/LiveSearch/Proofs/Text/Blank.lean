import Mathlib.Data.List.DropRight
import LiveSearch.Text.Blank

/-! # How text is cut at white space

Trimming takes the white space from both ends of a text and nothing else
(`LiveSearch.Text.exists_trim`), and finds a text that begins and ends with other characters inside
any white space around it (`LiveSearch.Text.trim_padded`). Splitting finds the first character that
passes a test (`LiveSearch.Text.splitFirst?_eq_some_iff`). No letter is white space, in either case.
-/

namespace LiveSearch.Text

variable {text before after : List Char}

/-- A text has no characters other than white space. -/
def IsBlankText (text : List Char) : Prop := ∀ char ∈ text, isBlank char = true

/-- A text neither begins nor ends with white space. -/
structure IsTrimmed (text : List Char) : Prop where
  head : ∀ char ∈ text.head?, isBlank char = false
  last : ∀ char ∈ text.getLast?, isBlank char = false

/-- A text has characters, but no white space. -/
structure IsWord (text : List Char) : Prop where
  nonempty : text ≠ []
  solid : ∀ char ∈ text, isBlank char = false

/-- A text has characters, and no white space at its ends. -/
structure IsPhrase (text : List Char) : Prop extends IsTrimmed text where
  nonempty : text ≠ []

/-- Text of white space only that separates two others. -/
structure IsGap (text : List Char) : Prop where
  nonempty : text ≠ []
  blank : IsBlankText text

theorem isTrimmed_nil : IsTrimmed [] := ⟨nofun, nofun⟩

theorem IsWord.isTrimmed (word : IsWord text) : IsTrimmed text where
  head _ first := word.solid _ (List.mem_of_mem_head? first)
  last _ last := word.solid _ (List.mem_of_mem_getLast? last)

theorem IsWord.isPhrase (word : IsWord text) : IsPhrase text :=
  ⟨word.isTrimmed, word.nonempty⟩

/-- What stands between two phrases becomes part of one. -/
theorem IsPhrase.around (first : IsPhrase before) (second : IsPhrase after) (text : List Char) :
    IsPhrase (before ++ text ++ after) where
  head char member := by
    rw [List.append_assoc, List.head?_append_of_ne_nil _ first.nonempty] at member
    exact first.head char member
  last char member := by
    rw [List.getLast?_append_of_ne_nil _ second.nonempty] at member
    exact second.last char member
  nonempty := List.append_ne_nil_of_right_ne_nil _ second.nonempty

theorem isBlankText_append :
    IsBlankText (before ++ after) ↔ IsBlankText before ∧ IsBlankText after :=
  List.forall_mem_append

/-- White space around a text that begins and ends with other characters is trimmed away. -/
theorem trim_padded (leading : IsBlankText before) (trailing : IsBlankText after)
    (trimmed : IsTrimmed text) : trim (before ++ text ++ after) = text := by
  have start : trimStart (before ++ text ++ after) = trimStart (text ++ after) := by
    rw [List.append_assoc, trimStart, List.dropWhile_append_of_pos leading]
    rfl
  rw [trim, start]
  cases text with
  | nil =>
      have blank : trimStart after = [] := List.dropWhile_eq_nil_iff.mpr trailing
      rw [List.nil_append, blank]
      rfl
  | cons first rest =>
      have kept : trimStart (first :: rest ++ after) = first :: rest ++ after :=
        List.dropWhile_cons_of_neg (Bool.eq_false_iff.mp (trimmed.head first rfl))
      have trailing' : ∀ char ∈ after.reverse, isBlank char = true := by
        intro char member
        exact trailing char (List.mem_reverse.mp member)
      rw [kept, trimEnd, List.reverse_append, List.dropWhile_append_of_pos trailing']
      apply List.rdropWhile_eq_self_iff.mpr
      intro some
      exact Bool.eq_false_iff.mp (trimmed.last _ (List.getLast?_eq_some_getLast some))

theorem trim_of_isTrimmed (trimmed : IsTrimmed text) : trim text = text := by
  have padded := trim_padded (List.forall_mem_nil _) (List.forall_mem_nil _) trimmed
  rwa [List.nil_append, List.append_nil] at padded

/-- Nothing but white space is trimmed away. -/
theorem exists_trim (text : List Char) : ∃ before after,
    text = before ++ trim text ++ after ∧ IsBlankText before ∧ IsBlankText after := by
  refine ⟨text.takeWhile isBlank, (trimStart text).rtakeWhile isBlank, ?_, ?_, ?_⟩
  · have finish : trim text ++ (trimStart text).rtakeWhile isBlank = trimStart text :=
      List.rdropWhile_append_rtakeWhile
    rw [List.append_assoc, finish]
    exact List.takeWhile_append_dropWhile.symm
  · intro char member
    exact List.mem_takeWhile_imp member
  · intro char member
    exact List.mem_rtakeWhile_imp member

theorem isTrimmed_trim (text : List Char) : IsTrimmed (trim text) where
  head char first := by
    obtain ⟨rest, same⟩ := List.head?_eq_some_iff.mp first
    obtain ⟨others, whole⟩ : trim text <+: trimStart text :=
      List.rdropWhile_prefix (p := isBlank) (trimStart text)
    have start : text.dropWhile isBlank = char :: rest ++ others := by
      rw [← same]
      exact whole.symm
    have stopped := List.head?_dropWhile_not isBlank text
    rw [start] at stopped
    exact stopped
  last char last := by
    have some : trim text ≠ [] := by
      intro none
      rw [none] at last
      cases last
    have stopped := List.rdropWhile_last_not isBlank (trimStart text) some
    rw [List.getLast?_eq_some_getLast some, Option.mem_some_iff] at last
    rw [← last]
    exact Bool.eq_false_iff.mpr stopped

/-- White space around a text does not matter to trimming. -/
theorem trim_surrounded (leading : IsBlankText before) (trailing : IsBlankText after)
    (text : List Char) : trim (before ++ text ++ after) = trim text := by
  obtain ⟨first, last, same, blank, blank'⟩ := exists_trim text
  have outer : before ++ text ++ after = (before ++ first) ++ trim text ++ (last ++ after) := by
    calc
      before ++ text ++ after = before ++ (first ++ trim text ++ last) ++ after := by rw [← same]
      _ = (before ++ first) ++ trim text ++ (last ++ after) := by simp only [List.append_assoc]
  rw [outer]
  exact trim_padded (isBlankText_append.mpr ⟨leading, blank⟩)
    (isBlankText_append.mpr ⟨blank', trailing⟩) (isTrimmed_trim text)

/-- Nothing is left of a text exactly if it is blank. -/
theorem trim_eq_nil_iff : trim text = [] ↔ IsBlankText text := by
  constructor
  · intro none
    obtain ⟨before, after, same, leading, trailing⟩ := exists_trim text
    rw [same, none, List.append_nil]
    exact isBlankText_append.mpr ⟨leading, trailing⟩
  · intro blank
    have padded := trim_padded blank (List.forall_mem_nil _) isTrimmed_nil
    rwa [List.append_nil, List.append_nil] at padded

section Splitting

variable {test : Char → Bool}

/-- A text is split at the first character that passes the test. -/
theorem splitFirst?_eq_some_iff : splitFirst? test text = some (before, after) ↔
    ∃ char, text = before ++ char :: after ∧ test char = true ∧
      ∀ earlier ∈ before, test earlier = false := by
  induction text generalizing before with
  | nil => simp [splitFirst?]
  | cons first rest ih =>
      rw [splitFirst?]
      split
      · rename_i passes
        constructor
        · intro same
          obtain ⟨rfl, rfl⟩ := Prod.mk.inj (Option.some.inj same)
          exact ⟨first, rfl, passes, List.forall_mem_nil _⟩
        · rintro ⟨char, same, _, fails⟩
          cases before with
          | nil =>
              obtain ⟨_, rfl⟩ := List.cons.inj same
              rfl
          | cons other before =>
              obtain ⟨rfl, _⟩ := List.cons.inj same
              have failed := (List.forall_mem_cons.mp fails).1
              exact absurd (failed.symm.trans passes) Bool.false_ne_true
      · rename_i fails
        have failed := Bool.eq_false_iff.mpr fails
        constructor
        · intro split
          obtain ⟨⟨before, after⟩, later, same⟩ := Option.map_eq_some_iff.mp split
          obtain ⟨rfl, rfl⟩ := Prod.mk.inj same
          obtain ⟨char, rfl, passes, others⟩ := ih.mp later
          exact ⟨char, rfl, passes, List.forall_mem_cons.mpr ⟨failed, others⟩⟩
        · rintro ⟨char, same, passes, others⟩
          cases before with
          | nil =>
              obtain ⟨rfl, _⟩ := List.cons.inj same
              exact absurd passes fails
          | cons other before =>
              obtain ⟨rfl, rfl⟩ := List.cons.inj same
              rw [ih.mpr ⟨char, rfl, passes, (List.forall_mem_cons.mp others).2⟩]
              rfl

/-- A text is not split if none of its characters passes the test. -/
theorem splitFirst?_eq_none_iff :
    splitFirst? test text = none ↔ ∀ char ∈ text, test char = false := by
  induction text with
  | nil => exact iff_of_true rfl (List.forall_mem_nil _)
  | cons first rest ih =>
      rw [splitFirst?, List.forall_mem_cons, ← ih]
      cases test first with
      | true => simp
      | false => simp

end Splitting

section Case

variable {char : Char}

theorem toLower_of_not_isUpper (small : ¬ char.isUpper = true) : char.toLower = char :=
  dif_neg fun range => small (decide_eq_true range)

/-- There are 26 capitals. -/
theorem exists_of_isUpper (capital : char.isUpper = true) :
    ∃ index : Fin 26, char = Char.ofNat (65 + index) := by
  have range : char.val ≥ 'A'.val ∧ char.val ≤ 'Z'.val := of_decide_eq_true capital
  rw [ge_iff_le, UInt32.le_iff_toNat_le, UInt32.le_iff_toNat_le] at range
  change 65 ≤ char.toNat ∧ char.toNat ≤ 90 at range
  refine ⟨⟨char.toNat - 65, by omega⟩, ?_⟩
  rw [Nat.add_sub_cancel' range.1, Char.ofNat_toNat]

/-- A character is what it becomes in lower case, or the capital of it. -/
theorem eq_toLower_or_capital (char : Char) :
    char = char.toLower ∨ char = char.toLower.toUpper := by
  by_cases capital : char.isUpper = true
  · obtain ⟨index, rfl⟩ := exists_of_isUpper capital
    right
    revert index
    decide
  · exact .inl (toLower_of_not_isUpper capital).symm

/-- No capital and no small letter is white space. -/
theorem isBlank_toLower (char : Char) : isBlank char.toLower = isBlank char := by
  by_cases capital : char.isUpper = true
  · obtain ⟨index, rfl⟩ := exists_of_isUpper capital
    revert index
    decide
  · rw [toLower_of_not_isUpper capital]

end Case

end LiveSearch.Text
