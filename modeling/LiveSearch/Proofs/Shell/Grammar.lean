import LiveSearch.Proofs.Text.Blank
import LiveSearch.Shell.Command

/-! # The grammar of shell commands

A line writes a command if one of the words of the command stands in it, in small letters or
capitals, and behind it the arguments of the command, each behind white space
(`LiveSearch.Command.IsWrittenBy`). A line that is not blank falls apart into a word and the rest in
one way only (`LiveSearch.Command.splitWord_of_isSplit`), and so it is read as the command that it
writes, as nothing if its first visible character is a hash sign, and as an error otherwise
(`LiveSearch.Command.ofLine_grammar`).
-/

namespace LiveSearch

namespace Command

open Text

section Grammar

/-- The words by which a command is called. -/
def words : Command → List String
  | subscribe _ => ["sub", "subscribe"]
  | unsubscribe _ => ["unsub", "unsubscribe"]
  | insert _ _ => ["insert"]
  | update _ _ => ["update"]
  | delete _ _ => ["delete"]
  | dropList _ => ["drop-list"]
  | lists => ["lists"]
  | sessions => ["sessions"]
  | help => ["help"]
  | quit => ["quit", "exit"]

/-- The arguments that stand behind the word of a command. -/
inductive Arguments
  | none
  | one (argument : List Char)
  | two (first second : List Char)

/-- The arguments of a command. -/
def arguments : Command → Arguments
  | subscribe name | unsubscribe name | dropList name => .one name.toList
  | insert table body | update table body => .two table.toList body.toList
  | delete table id => .two table.toList id.toList
  | lists | sessions | help | quit => .none

/-- The last argument has no white space at its ends, and one in front of it none at all; neither
is empty. -/
def Arguments.AreProper : Arguments → Prop
  | none => True
  | one argument => IsPhrase argument
  | two first second => IsWord first ∧ IsPhrase second

/-- A text states arguments, each behind a gap. What stands where none are taken is ignored. -/
def Arguments.AreStatedBy : Arguments → List Char → Prop
  | none, text => text = [] ∨ ∃ gap ignored, IsGap gap ∧ text = gap ++ ignored
  | one argument, text => ∃ gap, IsGap gap ∧ text = gap ++ argument
  | two first second, text => ∃ gap between, IsGap gap ∧ IsGap between ∧
    text = gap ++ first ++ between ++ second

/-- A text spells a word if each of its characters is that of the word or the capital of it. -/
def IsSpelling (text : List Char) (word : String) : Prop :=
  List.Forall₂ (fun char letter => char = letter ∨ char = letter.toUpper) text word.toList

/-- A line writes a command: one of its words and its arguments, with white space around. -/
def IsWrittenBy (command : Command) (line : List Char) : Prop :=
  ∃ before word text after, line = before ++ word ++ text ++ after ∧
    IsBlankText before ∧ IsBlankText after ∧ (∃ name ∈ command.words, IsSpelling word name) ∧
      command.arguments.AreStatedBy text

/-- A line without visible characters, or with a hash sign as the first of them. -/
def IsSilent (line : List Char) : Prop :=
  (line.find? fun char => !isBlank char) = none ∨
    (line.find? fun char => !isBlank char) = some '#'

end Grammar

section Splitting

variable {line word rest before after : List Char}

/-- A line is a word and, behind a gap, a rest without white space at its ends. -/
def IsSplit (line word rest : List Char) : Prop :=
  IsWord word ∧ IsTrimmed rest ∧ ∃ before gap after, line = before ++ word ++ gap ++ rest ++ after ∧
    IsBlankText before ∧ IsBlankText gap ∧ IsBlankText after ∧ (rest ≠ [] → gap ≠ [])

/-- A word is not split. -/
theorem splitWord_of_isWord (solid : IsWord word) : splitWord word = (word, []) := by
  rw [splitWord, splitFirst?_eq_none_iff.mpr solid.solid]

/-- Behind a word and a gap the rest is found. -/
theorem splitWord_append (solid : IsWord word) {gap : List Char} (wide : IsGap gap)
    (trimmed : IsTrimmed rest) : splitWord (word ++ gap ++ rest) = (word, rest) := by
  obtain ⟨nonempty, blank⟩ := wide
  cases gap with
  | nil => exact absurd rfl nonempty
  | cons first others =>
      have parted : splitFirst? isBlank (word ++ first :: others ++ rest) =
          some (word, others ++ rest) := by
        apply splitFirst?_eq_some_iff.mpr
        refine ⟨first, ?_, blank first List.mem_cons_self, solid.solid⟩
        rw [List.append_assoc, List.cons_append]
      have inner := trim_padded (List.forall_mem_cons.mp blank).2 (List.forall_mem_nil _) trimmed
      rw [List.append_nil] at inner
      rw [splitWord, parted]
      exact congrArg (Prod.mk word) inner

/-- What is left of a split line when it is trimmed. -/
theorem trim_of_isSplit (split : IsSplit line word rest) :
    ∃ tail, trim line = word ++ tail ∧ splitWord (word ++ tail) = (word, rest) := by
  obtain ⟨solid, trimmed, before, gap, after, rfl, leading, between, trailing, apart⟩ := split
  by_cases none : rest = []
  · subst none
    refine ⟨[], ?_, ?_⟩
    · have padded := trim_padded leading (isBlankText_append.mpr ⟨between, trailing⟩)
        solid.isTrimmed
      simpa only [List.append_assoc, List.append_nil, List.nil_append] using padded
    · rw [List.append_nil]
      exact splitWord_of_isWord solid
  · refine ⟨gap ++ rest, ?_, ?_⟩
    · have inner := (solid.isPhrase.around ⟨trimmed, none⟩ gap).toIsTrimmed
      have padded := trim_padded leading trailing inner
      simpa only [List.append_assoc] using padded
    · rw [← List.append_assoc]
      exact splitWord_append solid ⟨apart none, between⟩ trimmed

theorem splitWord_of_isSplit (split : IsSplit line word rest) :
    splitWord (trim line) = (word, rest) := by
  obtain ⟨tail, trimmed, parted⟩ := trim_of_isSplit split
  rw [trimmed, parted]

/-- The first visible character of a line is that of its word. -/
theorem find?_of_isSplit (split : IsSplit line word rest) :
    (line.find? fun char => !isBlank char) = word.head? := by
  obtain ⟨solid, -, before, gap, after, rfl, leading, -⟩ := split
  have hidden : (before.find? fun char => !isBlank char) = none := by
    apply List.find?_eq_none.mpr
    intro char member
    simp only [leading char member, Bool.not_true, Bool.false_eq_true, not_false_eq_true]
  cases word with
  | nil => exact absurd rfl solid.nonempty
  | cons first others =>
      have visible : (!isBlank first) = true := by
        rw [solid.solid first List.mem_cons_self, Bool.not_false]
      simp only [List.append_assoc, List.find?_append, hidden, Option.none_or, List.cons_append,
        List.find?_cons, visible, List.head?_cons]

/-- Every line with a visible character begins with a word. -/
theorem exists_isSplit (visible : ¬ IsBlankText line) : ∃ word rest, IsSplit line word rest := by
  obtain ⟨before, after, same, leading, trailing⟩ := exists_trim line
  have trimmed := isTrimmed_trim line
  have nonempty : trim line ≠ [] := fun none => visible (trim_eq_nil_iff.mp none)
  generalize trim line = text at same trimmed nonempty
  -- The word ends at the first white space behind it.
  cases parted : splitFirst? isBlank text with
  | none =>
      refine ⟨text, [], ⟨nonempty, splitFirst?_eq_none_iff.mp parted⟩, isTrimmed_nil, before, [],
        after, ?_, leading, List.forall_mem_nil _, trailing, fun some => absurd rfl some⟩
      simpa only [List.append_nil] using same
  | some parts =>
      obtain ⟨word, others⟩ := parts
      obtain ⟨char, rfl, blank, solid⟩ := splitFirst?_eq_some_iff.mp parted
      obtain ⟨first, last, inner, wide, wide'⟩ := exists_trim others
      refine ⟨word, trim others, ⟨?_, solid⟩, isTrimmed_trim others, before, char :: first,
        last ++ after, ?_, leading, List.forall_mem_cons.mpr ⟨blank, wide⟩,
        isBlankText_append.mpr ⟨wide', trailing⟩, fun _ => List.cons_ne_nil char first⟩
      · rintro rfl
        exact absurd ((trimmed.head char rfl).symm.trans blank) Bool.false_ne_true
      · calc
          line = before ++ (word ++ char :: others) ++ after := same
          _ = before ++ (word ++ char :: (first ++ trim others ++ last)) ++ after := by
            rw [← inner]
          _ = before ++ word ++ (char :: first) ++ trim others ++ (last ++ after) := by
            simp only [List.append_assoc, List.cons_append]

end Splitting

section Reading

variable {command : Command} {line word rest : List Char} {head : String}

/-- Arguments are what is read from the text behind a word. -/
def Arguments.Take : Arguments → List Char → Prop
  | none, _ => True
  | one argument, rest => argument = rest ∧ rest ≠ []
  | two first second, rest => splitWord rest = (first, second) ∧ second ≠ []

/-- What can be made of a word and the text behind it: they are refused, or they give a command that
the word calls and that takes the text. -/
inductive Outcome (word rest : List Char) : Except Failure Command → Prop
  | refused (text : String) : Outcome word rest (.error (.command text))
  | called (command : Command) (called : String.ofList (lowerAscii word) ∈ command.words)
      (taken : command.arguments.Take rest) : Outcome word rest (.ok command)

/-- The one argument of a command is the whole text behind its word. -/
theorem outcome_one (build : String → Command)
    (called : ∀ argument, String.ofList (lowerAscii word) ∈ (build argument).words)
    (shape : ∀ argument, (build argument).arguments = .one argument.toList) :
    Outcome word rest (build <$> oneArgument head rest) := by
  unfold oneArgument
  split
  · exact .refused _
  · rename_i some
    apply Outcome.called _ (called (String.ofList rest))
    rw [shape, String.toList_ofList]
    exact ⟨rfl, some⟩

/-- The two arguments of a command are the parts of the text behind its word. -/
theorem outcome_two (build : String → String → Command)
    (called : ∀ first second, String.ofList (lowerAscii word) ∈ (build first second).words)
    (shape : ∀ first second, (build first second).arguments = .two first.toList second.toList) :
    Outcome word rest ((fun found => build found.1 found.2) <$> twoArguments head rest) := by
  unfold twoArguments
  dsimp only
  split
  · exact .refused _
  · rename_i some
    apply Outcome.called _ (called (String.ofList (splitWord rest).1)
      (String.ofList (splitWord rest).2))
    rw [shape, String.toList_ofList, String.toList_ofList]
    exact ⟨rfl, some⟩

theorem ofWord_outcome (word rest : List Char) : Outcome word rest (ofWord word rest) := by
  have pair {first second : String} {name : String} (either : name = first ∨ name = second) :
      name ∈ [first, second] := List.mem_pair.mpr either
  have single {first name : String} (same : name = first) : name ∈ [first] :=
    List.mem_singleton.mpr same
  unfold ofWord
  dsimp only
  refine iteInduction (fun called => outcome_one subscribe (fun _ => pair called) fun _ => rfl)
    fun _ => ?_
  refine iteInduction (fun called => outcome_one unsubscribe (fun _ => pair called) fun _ => rfl)
    fun _ => ?_
  refine iteInduction
    (fun called => outcome_two insert (fun _ _ => single called) fun _ _ => rfl) fun _ => ?_
  refine iteInduction
    (fun called => outcome_two update (fun _ _ => single called) fun _ _ => rfl) fun _ => ?_
  refine iteInduction
    (fun called => outcome_two delete (fun _ _ => single called) fun _ _ => rfl) fun _ => ?_
  refine iteInduction (fun called => outcome_one dropList (fun _ => single called) fun _ => rfl)
    fun _ => ?_
  refine iteInduction (fun called => .called lists (single called) trivial) fun _ => ?_
  refine iteInduction (fun called => .called sessions (single called) trivial) fun _ => ?_
  refine iteInduction (fun called => .called help (single called) trivial) fun _ => ?_
  refine iteInduction (fun called => .called quit (pair called) trivial) fun _ => ?_
  exact .refused _

/-- A command is read where its word calls it and its arguments are taken from the text. -/
theorem ofWord_of_called (called : String.ofList (lowerAscii word) ∈ command.words)
    (taken : command.arguments.Take rest) : ofWord word rest = .ok command := by
  have one {name : String} (build : String → Command)
      (taken : (Arguments.one name.toList).Take rest) :
      build <$> oneArgument (String.ofList word) rest = .ok (build name) := by
    obtain ⟨rfl, some⟩ := taken
    rw [oneArgument, if_neg some, String.ofList_toList]
    rfl
  have two {first second : String} (build : String → String → Command)
      (taken : (Arguments.two first.toList second.toList).Take rest) :
      (fun found => build found.1 found.2) <$> twoArguments (String.ofList word) rest =
        .ok (build first second) := by
    obtain ⟨parted, some⟩ := taken
    rw [twoArguments, parted]
    dsimp only
    rw [if_neg some, String.ofList_toList, String.ofList_toList]
    rfl
  unfold ofWord
  generalize String.ofList (lowerAscii word) = name at called
  cases command with
  | subscribe argument =>
      rcases List.mem_pair.mp called with rfl | rfl <;> exact one subscribe taken
  | unsubscribe argument =>
      rcases List.mem_pair.mp called with rfl | rfl <;> exact one unsubscribe taken
  | insert table body =>
      obtain rfl := List.mem_singleton.mp called
      exact two insert taken
  | update table body =>
      obtain rfl := List.mem_singleton.mp called
      exact two update taken
  | delete table id =>
      obtain rfl := List.mem_singleton.mp called
      exact two delete taken
  | dropList argument =>
      obtain rfl := List.mem_singleton.mp called
      exact one dropList taken
  | quit => rcases List.mem_pair.mp called with rfl | rfl <;> rfl
  | lists | sessions | help =>
      obtain rfl := List.mem_singleton.mp called
      rfl

end Reading

section Spelling

variable {command : Command} {text : List Char} {name : String}

/-- The words of commands are in small letters and hyphens. -/
theorem words_plain (called : name ∈ command.words) : name.toList ≠ [] ∧
    ∀ letter ∈ name.toList, letter.toLower = letter ∧ letter.toUpper.toLower = letter ∧
      isBlank letter = false ∧ letter ≠ '#' := by
  have checked : name.toList ≠ [] ∧ name.toList.all fun letter =>
      letter.toLower = letter ∧ letter.toUpper.toLower = letter ∧
        isBlank letter = false ∧ letter ≠ '#' := by
    cases command with
    | subscribe | unsubscribe | quit => rcases List.mem_pair.mp called with rfl | rfl <;> decide
    | _ =>
        obtain rfl := List.mem_singleton.mp called
        decide
  simpa only [List.all_eq_true, decide_eq_true_eq] using checked

/-- A word is spelt exactly by the texts that it is the lower case of. -/
theorem isSpelling_iff (called : name ∈ command.words) :
    IsSpelling text name ↔ String.ofList (lowerAscii text) = name := by
  have plain := (words_plain called).2
  rw [← String.toList_inj, String.toList_ofList, IsSpelling, lowerAscii]
  generalize name.toList = letters at plain
  induction letters generalizing text with
  | nil =>
      cases text with
      | nil => exact iff_of_true .nil rfl
      | cons char others => exact iff_of_false nofun nofun
  | cons letter others ih =>
      cases text with
      | nil => exact iff_of_false nofun nofun
      | cons char rest =>
          obtain ⟨small, large, -⟩ := plain letter List.mem_cons_self
          have same : char = letter ∨ char = letter.toUpper ↔ char.toLower = letter := by
            constructor
            · rintro (rfl | rfl)
              · exact small
              · exact large
            · rintro rfl
              exact eq_toLower_or_capital char
          rw [List.forall₂_cons, List.map_cons, List.cons.injEq]
          exact and_congr same (ih fun other member => plain other (List.mem_cons_of_mem _ member))

/-- What spells a word of a command is a word, and does not begin a comment. -/
theorem isWord_of_called (called : String.ofList (lowerAscii text) ∈ command.words) :
    IsWord text ∧ text.head? ≠ some '#' := by
  obtain ⟨nonempty, plain⟩ := words_plain called
  rw [String.toList_ofList, lowerAscii] at nonempty plain
  have kept (char : Char) (member : char ∈ text) :
      isBlank char.toLower = false ∧ char.toLower ≠ '#' :=
    (plain char.toLower (List.mem_map_of_mem member)).2.2
  refine ⟨⟨?_, ?_⟩, ?_⟩
  · rintro rfl
    exact nonempty rfl
  · intro char member
    rw [← isBlank_toLower]
    exact (kept char member).1
  · intro first
    exact (kept '#' (List.mem_of_mem_head? first)).2 rfl

end Spelling

section Lines

variable {command : Command} {arguments : Arguments} {line word rest : List Char}

/-- What is taken from the rest of a line is proper, and stated behind its word. -/
theorem Arguments.Take.stated (taken : arguments.Take rest) (split : IsSplit line word rest) :
    arguments.AreProper ∧ ∃ before text after, line = before ++ word ++ text ++ after ∧
      IsBlankText before ∧ IsBlankText after ∧ arguments.AreStatedBy text := by
  obtain ⟨solid, trimmed, before, gap, after, rfl, leading, between, trailing, apart⟩ := split
  cases arguments with
  | none =>
      refine ⟨trivial, before, gap ++ rest, after, ?_, leading, trailing, ?_⟩
      · simp only [List.append_assoc]
      · by_cases wide : gap = []
        · have none : rest = [] := by
            by_contra some
            exact apart some wide
          subst wide none
          exact .inl rfl
        · exact .inr ⟨gap, rest, ⟨wide, between⟩, rfl⟩
  | one argument =>
      obtain ⟨rfl, some⟩ := taken
      refine ⟨⟨trimmed, some⟩, before, gap ++ argument, after, ?_, leading, trailing, gap,
        ⟨apart some, between⟩, rfl⟩
      simp only [List.append_assoc]
  | two first second =>
      obtain ⟨parted, some⟩ := taken
      have visible : ¬ IsBlankText rest := by
        intro blank
        rw [← trim_eq_nil_iff, trim_of_isTrimmed trimmed] at blank
        rw [blank] at parted
        exact some (Prod.mk.inj parted).2.symm
      have wide : gap ≠ [] := by
        apply apart
        rintro rfl
        exact visible (List.forall_mem_nil _)
      -- The rest falls apart in one way only.
      obtain ⟨word', rest', inner⟩ := exists_isSplit visible
      have same := splitWord_of_isSplit inner
      rw [trim_of_isTrimmed trimmed, parted] at same
      obtain ⟨rfl, rfl⟩ := Prod.mk.inj same
      obtain ⟨solid', trimmed', before', gap', after', rfl, leading', between', trailing',
        apart'⟩ := inner
      have wide' : IsGap (gap ++ before') :=
        ⟨List.append_ne_nil_of_left_ne_nil wide _, isBlankText_append.mpr ⟨between, leading'⟩⟩
      refine ⟨⟨solid', trimmed', some⟩, before, (gap ++ before') ++ first ++ gap' ++ second,
        after' ++ after, ?_, leading, isBlankText_append.mpr ⟨trailing', trailing⟩, gap ++ before',
        gap', wide', ⟨apart' some, between'⟩, rfl⟩
      simp only [List.append_assoc]

/-- Proper arguments that are stated behind a word are taken from the rest of the line. -/
theorem Arguments.AreStatedBy.taken {before text after : List Char}
    (stated : arguments.AreStatedBy text) (proper : arguments.AreProper) (solid : IsWord word)
    (leading : IsBlankText before) (trailing : IsBlankText after) :
    ∃ rest, IsSplit (before ++ word ++ text ++ after) word rest ∧ arguments.Take rest := by
  cases arguments with
  | none =>
      rcases stated with rfl | ⟨gap, ignored, wide, rfl⟩
      · refine ⟨[], ⟨solid, isTrimmed_nil, before, [], after, ?_, leading, List.forall_mem_nil _,
          trailing, fun some => absurd rfl some⟩, trivial⟩
        rw [List.append_nil, List.append_nil]
      · obtain ⟨first, last, same, blank, blank'⟩ := exists_trim ignored
        refine ⟨trim ignored, ⟨solid, isTrimmed_trim ignored, before, gap ++ first, last ++ after,
          ?_, leading, isBlankText_append.mpr ⟨wide.blank, blank⟩,
          isBlankText_append.mpr ⟨blank', trailing⟩,
          fun _ => List.append_ne_nil_of_left_ne_nil wide.nonempty _⟩, trivial⟩
        calc
          before ++ word ++ (gap ++ ignored) ++ after =
              before ++ word ++ (gap ++ (first ++ trim ignored ++ last)) ++ after := by
            rw [← same]
          _ = before ++ word ++ (gap ++ first) ++ trim ignored ++ (last ++ after) := by
            simp only [List.append_assoc]
  | one argument =>
      obtain ⟨gap, wide, rfl⟩ := stated
      refine ⟨argument, ⟨solid, proper.toIsTrimmed, before, gap, after, ?_, leading, wide.blank,
        trailing, fun _ => wide.nonempty⟩, rfl, proper.nonempty⟩
      simp only [List.append_assoc]
  | two first second =>
      obtain ⟨gap, between, wide, wide', rfl⟩ := stated
      have phrase := proper.1.isPhrase.around proper.2 between
      refine ⟨first ++ between ++ second, ⟨solid, phrase.toIsTrimmed, before, gap, after, ?_,
        leading, wide.blank, trailing, fun _ => wide.nonempty⟩,
        splitWord_append proper.1 wide' proper.2.toIsTrimmed, proper.2.nonempty⟩
      simp only [List.append_assoc]

end Lines

section Reader

variable {line : String} {word rest : List Char}

/-- A line that does not begin with a hash sign is read word by word. -/
theorem ofLine_of_isSplit (split : IsSplit line.toList word rest) :
    ofLine line = if word.head? = some '#' then .ok none else some <$> ofWord word rest := by
  obtain ⟨tail, trimmed, parted⟩ := trim_of_isSplit split
  rw [ofLine, trimmed]
  cases word with
  | nil => exact absurd rfl split.1.nonempty
  | cons char others =>
      rw [List.cons_append] at parted ⊢
      split
      · rename_i none
        cases none
      · rename_i same
        obtain ⟨rfl, -⟩ := List.cons.inj same
        rfl
      · rename_i other
        have visible : char ≠ '#' := by
          rintro rfl
          exact other _ rfl
        rw [parted, List.head?_cons, if_neg fun same => visible (Option.some.inj same)]

theorem ofLine_of_isBlankText (blank : IsBlankText line.toList) : ofLine line = .ok none := by
  rw [ofLine, trim_eq_nil_iff.mpr blank]

/-- A line is silent if it is blank, or if its word begins with a hash sign. -/
theorem isSilent_iff (split : IsSplit line.toList word rest) :
    IsSilent line.toList ↔ word.head? = some '#' := by
  rw [IsSilent, find?_of_isSplit split, List.head?_eq_none_iff]
  exact or_iff_right split.1.nonempty

theorem isSilent_of_isBlankText (blank : IsBlankText line.toList) : IsSilent line.toList := by
  left
  apply List.find?_eq_none.mpr
  intro char member
  simp only [blank char member, Bool.not_true, Bool.false_eq_true, not_false_eq_true]

/-- A line is read as a command exactly if it writes it, with proper arguments. -/
theorem ofLine_eq_some_iff (line : String) (command : Command) :
    ofLine line = .ok (some command) ↔
      command.arguments.AreProper ∧ command.IsWrittenBy line.toList := by
  constructor
  · intro read
    by_cases blank : IsBlankText line.toList
    · rw [ofLine_of_isBlankText blank] at read
      cases read
    · obtain ⟨word, rest, split⟩ := exists_isSplit blank
      rw [ofLine_of_isSplit split] at read
      split at read
      · cases read
      · have outcome := ofWord_outcome word rest
        cases made : ofWord word rest with
        | error failure =>
            rw [made] at read
            cases read
        | ok found =>
            rw [made] at read outcome
            obtain rfl := Option.some.inj (Except.ok.inj read)
            cases outcome with
            | called _ called taken =>
                obtain ⟨proper, before, text, after, same, leading, trailing, stated⟩ :=
                  taken.stated split
                exact ⟨proper, before, word, text, after, same, leading, trailing,
                  ⟨_, called, (isSpelling_iff called).mpr rfl⟩, stated⟩
  · rintro ⟨proper, before, word, text, after, same, leading, trailing, ⟨name, called, spelt⟩,
      stated⟩
    rw [isSpelling_iff called] at spelt
    rw [← spelt] at called
    obtain ⟨solid, visible⟩ := isWord_of_called called
    obtain ⟨rest, split, taken⟩ := stated.taken proper solid leading trailing
    rw [← same] at split
    rw [ofLine_of_isSplit split, if_neg visible, ofWord_of_called called taken]
    rfl

/-- A line is read as nothing exactly if it is silent. -/
theorem ofLine_eq_none_iff (line : String) : ofLine line = .ok none ↔ IsSilent line.toList := by
  by_cases blank : IsBlankText line.toList
  · exact iff_of_true (ofLine_of_isBlankText blank) (isSilent_of_isBlankText blank)
  · obtain ⟨word, rest, split⟩ := exists_isSplit blank
    rw [isSilent_iff split, ofLine_of_isSplit split]
    constructor
    · intro read
      by_contra visible
      rw [if_neg visible] at read
      cases made : ofWord word rest with
      | error failure =>
          rw [made] at read
          cases read
      | ok found =>
          rw [made] at read
          cases read
    · intro hash
      rw [if_pos hash]

/-- **The lines of a shell are read by their grammar.** A line is read as a command exactly if it
writes it, with proper arguments, as nothing exactly if it is blank or its first visible character
is a hash sign, and all others are refused. -/
theorem ofLine_grammar (line : String) :
    (∀ command, ofLine line = .ok (some command) ↔
      command.arguments.AreProper ∧ command.IsWrittenBy line.toList) ∧
    (ofLine line = .ok none ↔ IsSilent line.toList) ∧
    ((∃ text, ofLine line = .error (.command text)) ↔ ¬ IsSilent line.toList ∧
      ∀ command : Command, ¬ (command.arguments.AreProper ∧ command.IsWrittenBy line.toList)) := by
  refine ⟨ofLine_eq_some_iff line, ofLine_eq_none_iff line, ?_, ?_⟩
  · rintro ⟨text, refused⟩
    refine ⟨?_, ?_⟩
    · rw [← ofLine_eq_none_iff, refused]
      exact nofun
    · intro command
      rw [← ofLine_eq_some_iff, refused]
      exact nofun
  · rintro ⟨visible, unwritten⟩
    have shown : ¬ IsBlankText line.toList := fun blank => visible (isSilent_of_isBlankText blank)
    obtain ⟨word, rest, split⟩ := exists_isSplit shown
    have read := ofLine_of_isSplit split
    rw [isSilent_iff split] at visible
    rw [if_neg visible] at read
    have outcome := ofWord_outcome word rest
    cases made : ofWord word rest with
    | error failure =>
        rw [made] at read outcome
        cases outcome with
        | refused text => exact ⟨text, read⟩
    | ok command =>
        rw [made] at read
        exact absurd ((ofLine_eq_some_iff line command).mp read) (unwritten command)

-- The body of a record keeps its spaces.
example : ofLine "  INSERT books\t\x7b\"title\": \"A  B\"\x7d " =
    .ok (some (.insert "books" "\x7b\"title\": \"A  B\"\x7d")) := by decide

end Reader

end Command

end LiveSearch
