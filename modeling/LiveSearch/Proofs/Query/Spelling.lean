import LiveSearch.Query.Path

/-! # The spellings of a path

A text spells a path if it has the segments of the path one after another, marks between neighbours,
and marks or nothing at its ends (`LiveSearch.Path.IsSpelledBy`). Between two marks there is a
segment or nothing, so that a text is read from mark to mark (`LiveSearch.Path.mark_induction`), and
at a mark it falls apart into two texts with segments of their own
(`LiveSearch.Path.words_append_mark`). Every spelling of a path is read as the path, and every text
spells the path that it is read as (`LiveSearch.Path.ofText_spelled`).
-/

namespace LiveSearch

namespace Path

section Spelling

/-- The characters that stand between segments. -/
def marks : List Char := ['.', '[', ']']

/-- A text without marks. -/
def IsUnmarked (text : List Char) : Prop := ∀ char ∈ text, char ∉ marks

/-- A text of marks only. -/
def IsMargin (text : List Char) : Prop := ∀ char ∈ text, char ∈ marks

/-- Marks that stand between two segments. -/
structure IsSeam (text : List Char) : Prop where
  nonempty : text ≠ []
  margin : IsMargin text

/-- A segment has characters, and no marks. -/
structure IsSegment (segment : String) : Prop where
  nonempty : segment ≠ ""
  unmarked : IsUnmarked segment.toList

/-- A path whose segments can be told apart in a text. -/
def IsProper (path : Path) : Prop := ∀ segment ∈ path.segments, IsSegment segment

/-- Segments are joined in a text: they follow one another, with a seam between neighbours. -/
inductive AreJoined : List String → List Char → Prop
  | none : AreJoined [] []
  | last (segment : String) : AreJoined [segment] segment.toList
  | next (segment : String) {neighbour : String} {later : List String} {seam text : List Char} :
    IsSeam seam → AreJoined (neighbour :: later) text →
      AreJoined (segment :: neighbour :: later) (segment.toList ++ seam ++ text)

/-- A text spells segments: it joins them, and there may be marks around. -/
def AreSpelledBy (segments : List String) (text : List Char) : Prop :=
  ∃ before joined after, text = before ++ joined ++ after ∧ IsMargin before ∧
    AreJoined segments joined ∧ IsMargin after

/-- A text spells a path if it spells the segments of the path. -/
def IsSpelledBy (path : Path) (text : String) : Prop := AreSpelledBy path.segments text.toList

instance (text : List Char) : Decidable (IsUnmarked text) :=
  List.decidableBAll (· ∉ marks) text

instance (text : List Char) : Decidable (IsMargin text) :=
  List.decidableBAll (· ∈ marks) text

instance (segment : String) : Decidable (IsSegment segment) :=
  decidable_of_iff (segment ≠ "" ∧ IsUnmarked segment.toList)
    ⟨fun ⟨nonempty, unmarked⟩ => ⟨nonempty, unmarked⟩,
      fun ⟨nonempty, unmarked⟩ => ⟨nonempty, unmarked⟩⟩

instance (path : Path) : Decidable path.IsProper :=
  List.decidableBAll IsSegment path.segments

end Spelling

section Reading

variable {char : Char} {text before after : List Char}

theorem isSeparator_iff : isSeparator char = true ↔ char ∈ marks := by
  simp [isSeparator, marks, or_assoc]

theorem isSeparator_of_unmarked (unmarked : IsUnmarked text) :
    ∀ char ∈ text, isSeparator char = false := by
  intro char member
  rw [Bool.eq_false_iff, ne_eq, isSeparator_iff]
  exact unmarked char member

/-- Pieces are what lists are split into by the separators. -/
theorem pieces_eq_splitOnP (text : List Char) : pieces text = text.splitOnP isSeparator := by
  induction text with
  | nil => rfl
  | cons char rest ih =>
      rw [pieces, List.splitOnP_cons_eq_if_modifyHead, ih]
      obtain ⟨piece, later, same⟩ :=
        List.exists_cons_of_ne_nil (List.splitOnP_ne_nil isSeparator rest)
      rw [same]
      rfl

/-- The pieces of a text that have characters. -/
def words (text : List Char) : List (List Char) := (pieces text).filter (· ≠ [])

theorem segments_ofText (text : String) :
    (ofText text).segments = (words text.toList).map String.ofList := rfl

/-- At a mark a text falls apart into two, each with words of its own. -/
theorem words_append_mark (marked : char ∈ marks) (first rest : List Char) :
    words (first ++ char :: rest) = words first ++ words rest := by
  rw [words, pieces_eq_splitOnP, List.splitOnP_append_cons first rest (isSeparator_iff.mpr marked),
    List.filter_append, ← pieces_eq_splitOnP, ← pieces_eq_splitOnP]
  rfl

/-- A text without marks is a word, unless it is empty. -/
theorem words_unmarked (unmarked : IsUnmarked text) : words text = [text].filter (· ≠ []) := by
  rw [words, pieces_eq_splitOnP, List.splitOnP_eq_singleton (isSeparator_of_unmarked unmarked)]

theorem words_toList {segment : String} (proper : IsSegment segment) :
    words segment.toList = [segment.toList] := by
  have nonempty : segment.toList ≠ [] := by
    rw [ne_eq, String.toList_eq_nil_iff]
    exact proper.nonempty
  rw [words_unmarked proper.unmarked]
  simp [nonempty]

/-- There are no words in a margin. -/
theorem words_margin_append (margin : IsMargin before) (text : List Char) :
    words (before ++ text) = words text := by
  induction before with
  | nil => rfl
  | cons mark rest ih =>
      obtain ⟨marked, others⟩ := List.forall_mem_cons.mp margin
      calc
        words (mark :: rest ++ text) = words [] ++ words (rest ++ text) :=
          words_append_mark marked [] (rest ++ text)
        _ = words text := ih others

/-- A seam separates the words on its two sides. -/
theorem words_seam {seam : List Char} (between : IsSeam seam) (first rest : List Char) :
    words (first ++ seam ++ rest) = words first ++ words rest := by
  obtain ⟨nonempty, margin⟩ := between
  cases seam with
  | nil => exact absurd rfl nonempty
  | cons mark others =>
      obtain ⟨marked, margin⟩ := List.forall_mem_cons.mp margin
      rw [List.append_assoc, List.cons_append, words_append_mark marked,
        words_margin_append margin]

theorem words_append_margin (margin : IsMargin after) (text : List Char) :
    words (text ++ after) = words text := by
  by_cases empty : after = []
  · rw [empty, List.append_nil]
  · have apart := words_seam ⟨empty, margin⟩ text []
    rw [List.append_nil] at apart
    rw [apart]
    exact List.append_nil (words text)

/-- The words of joined segments are the segments. -/
theorem words_joined {segments : List String} (joined : AreJoined segments text)
    (proper : ∀ segment ∈ segments, IsSegment segment) :
    words text = segments.map String.toList := by
  induction joined with
  | none => rfl
  | last segment => exact words_toList (proper segment List.mem_cons_self)
  | next segment between _ ih =>
      obtain ⟨first, others⟩ := List.forall_mem_cons.mp proper
      rw [words_seam between, words_toList first, ih others]
      rfl

/-- A spelling of a path is read as the path. -/
theorem ofText_of_isSpelledBy {path : Path} {text : String} (proper : path.IsProper)
    (spelled : path.IsSpelledBy text) : ofText text = path := by
  obtain ⟨segments⟩ := path
  obtain ⟨before, written, after, same, leading, joined, trailing⟩ := spelled
  have found : words text.toList = segments.map String.toList := by
    rw [same, words_append_margin trailing, words_margin_append leading]
    exact words_joined joined proper
  apply congrArg Path.mk
  calc
    (words text.toList).map String.ofList = (segments.map String.toList).map String.ofList := by
      rw [found]
    _ = segments := by simp

end Reading

section Texts

variable {char : Char} {text rest : List Char} {segments : List String}

/-- A text is read from mark to mark: it has no marks, or a mark behind the first word. -/
theorem mark_induction {motive : List Char → Prop}
    (last : ∀ word, IsUnmarked word → motive word)
    (next : ∀ word mark rest, IsUnmarked word → mark ∈ marks → motive rest →
      motive (word ++ mark :: rest))
    (text : List Char) : motive text := by
  -- the induction is on what is still to be read behind the characters of a word
  suffices behind : ∀ word, IsUnmarked word → motive (word ++ text) from
    behind [] (List.forall_mem_nil _)
  induction text with
  | nil =>
      intro word unmarked
      rw [List.append_nil]
      exact last word unmarked
  | cons char rest ih =>
      intro word unmarked
      by_cases marked : char ∈ marks
      · exact next word char rest unmarked marked (ih [] (List.forall_mem_nil _))
      · have longer : IsUnmarked (word ++ [char]) :=
          List.forall_mem_append.mpr ⟨unmarked, List.forall_mem_singleton.mpr marked⟩
        rw [List.append_cons]
        exact ih (word ++ [char]) longer

theorem isUnmarked_of_mem_words (text : List Char) : ∀ word ∈ words text, IsUnmarked word := by
  have plain {word : List Char} (unmarked : IsUnmarked word) :
      ∀ other ∈ words word, IsUnmarked other := by
    intro other member
    rw [words_unmarked unmarked] at member
    rw [List.mem_singleton.mp (List.mem_filter.mp member).1]
    exact unmarked
  induction text using mark_induction with
  | last word unmarked => exact plain unmarked
  | next word mark rest unmarked marked ih =>
      rw [words_append_mark marked]
      exact List.forall_mem_append.mpr ⟨plain unmarked, ih⟩

/-- The path of a text is proper. -/
theorem isProper_ofText (text : String) : (ofText text).IsProper := by
  intro segment member
  rw [segments_ofText] at member
  obtain ⟨word, present, rfl⟩ := List.mem_map.mp member
  constructor
  · intro empty
    have nonempty := of_decide_eq_true (List.mem_filter.mp present).2
    exact nonempty (String.ofList_injective empty)
  · rw [String.toList_ofList]
    exact isUnmarked_of_mem_words text.toList word present

/-- The words of a text are the text without its marks. -/
theorem flatten_words (text : List Char) :
    (words text).flatten = text.filter (· ∉ marks) := by
  have plain {word : List Char} (unmarked : IsUnmarked word) :
      (words word).flatten = word.filter (· ∉ marks) := by
    rw [words_unmarked unmarked, List.flatten_filter_ne_nil, List.flatten_singleton, eq_comm]
    apply List.filter_eq_self.mpr
    intro char member
    exact decide_eq_true (unmarked char member)
  induction text using mark_induction with
  | last word unmarked => exact plain unmarked
  | next word mark rest unmarked marked ih =>
      rw [words_append_mark marked, List.flatten_append, List.filter_append, plain unmarked, ih,
        List.filter_cons_of_neg (by simpa using marked)]

/-- Further marks may stand in front of a spelling. -/
theorem AreSpelledBy.behind_mark (marked : char ∈ marks) (spelled : AreSpelledBy segments rest) :
    AreSpelledBy segments (char :: rest) := by
  obtain ⟨before, joined, after, rfl, leading, joins, trailing⟩ := spelled
  exact ⟨char :: before, joined, after, rfl, List.forall_mem_cons.mpr ⟨marked, leading⟩, joins,
    trailing⟩

/-- A further segment may stand in front of a spelling, if a mark is between them. -/
theorem AreSpelledBy.behind_segment (marked : char ∈ marks) (spelled : AreSpelledBy segments rest)
    (segment : String) : AreSpelledBy (segment :: segments) (segment.toList ++ char :: rest) := by
  obtain ⟨before, joined, after, rfl, leading, joins, trailing⟩ := spelled
  have margin : IsMargin (char :: before) := List.forall_mem_cons.mpr ⟨marked, leading⟩
  cases segments with
  | nil =>
      cases joins
      refine ⟨[], segment.toList, char :: before ++ after, ?_, List.forall_mem_nil _,
        .last segment, List.forall_mem_append.mpr ⟨margin, trailing⟩⟩
      simp
  | cons neighbour later =>
      have seam : IsSeam (char :: before) := ⟨List.cons_ne_nil char before, margin⟩
      refine ⟨[], segment.toList ++ char :: before ++ joined, after, ?_, List.forall_mem_nil _,
        .next segment seam joins, trailing⟩
      simp

/-- A text spells its words. -/
theorem areSpelledBy_words (text : List Char) :
    AreSpelledBy ((words text).map String.ofList) text := by
  induction text using mark_induction with
  | last word unmarked =>
      rw [words_unmarked unmarked]
      cases word with
      | nil => exact ⟨[], [], [], rfl, List.forall_mem_nil _, .none, List.forall_mem_nil _⟩
      | cons first others =>
          refine ⟨[], _, [], ?_, List.forall_mem_nil _, .last _, List.forall_mem_nil _⟩
          simp
  | next word mark rest unmarked marked ih =>
      rw [words_append_mark marked, words_unmarked unmarked]
      cases word with
      | nil => exact ih.behind_mark marked
      | cons first others =>
          have spelled := ih.behind_segment marked (String.ofList (first :: others))
          rw [String.toList_ofList] at spelled
          exact spelled

end Texts

/-- Points alone may stand between segments. -/
theorem areJoined_intercalate (segments : List String) :
    AreJoined segments (".".intercalate segments).toList := by
  have point : IsSeam ['.'] := ⟨List.cons_ne_nil _ _, by decide⟩
  induction segments with
  | nil =>
      rw [String.intercalate_nil]
      exact .none
  | cons segment later ih =>
      cases later with
      | nil =>
          rw [String.intercalate_singleton]
          exact .last segment
      | cons neighbour later =>
          rw [String.intercalate_cons_cons, String.toList_append, String.toList_append]
          exact .next segment point ih

theorem isSpelledBy_intercalate (path : Path) :
    path.IsSpelledBy (".".intercalate path.segments) :=
  ⟨[], _, [], (List.append_nil _).symm, List.forall_mem_nil _, areJoined_intercalate path.segments,
    List.forall_mem_nil _⟩

/-- Texts are read as the paths that they spell: a text spells a path whose segments can be told
apart exactly if it is read as the path, and it is always read as such a path. The segments are the
text without its marks, and joined by points they are read as the same path again. -/
theorem ofText_spelled (text : String) :
    (∀ path : Path, path.IsProper → (path.IsSpelledBy text ↔ ofText text = path)) ∧
      (ofText text).IsProper ∧
      String.join (ofText text).segments = String.ofList (text.toList.filter (· ∉ marks)) ∧
      ofText (".".intercalate (ofText text).segments) = ofText text := by
  have proper := isProper_ofText text
  refine ⟨fun path proper => ⟨ofText_of_isSpelledBy proper, ?_⟩, proper, ?_, ?_⟩
  · rintro rfl
    exact areSpelledBy_words text.toList
  · rw [← String.toList_inj, String.toList_join, String.toList_ofList, ← flatten_words,
      segments_ofText, List.flatMap_map]
    simp
  · exact ofText_of_isSpelledBy proper (isSpelledBy_intercalate (ofText text))

/-- Marks at both ends and three between two segments leave a path as it is. -/
theorem ofText_spelled_bracketed : IsProper ⟨["a", "c", "2"]⟩ ∧
    IsSpelledBy ⟨["a", "c", "2"]⟩ "[a]..c[2]" ∧ ofText "[a]..c[2]" = ⟨["a", "c", "2"]⟩ := by
  have proper : IsProper ⟨["a", "c", "2"]⟩ := by decide
  have wide : IsSeam [']', '.', '.'] := ⟨List.cons_ne_nil _ _, by decide⟩
  have narrow : IsSeam ['['] := ⟨List.cons_ne_nil _ _, by decide⟩
  have spelled : IsSpelledBy ⟨["a", "c", "2"]⟩ "[a]..c[2]" :=
    ⟨['['], _, [']'], rfl, by decide, .next "a" wide (.next "c" narrow (.last "2")), by decide⟩
  exact ⟨proper, spelled, ((ofText_spelled "[a]..c[2]").1 _ proper).mp spelled⟩

end Path

end LiveSearch
