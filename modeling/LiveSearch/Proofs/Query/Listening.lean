import LiveSearch.Proofs.Pattern.Size
import LiveSearch.Proofs.Query.Reading

/-! # Prefixes under which searches are heard

A provider listens to the names that begin with its prefix and a question mark, but a name is split
at its first question mark. If the prefix has none, both agree on where the query begins
(`LiveSearch.Descriptor.ofName_prefixed`). If it has one, no JSON text begins behind that, since a
question mark stands in strings only (`LiveSearch.Json.Scan.run_question`).
-/

namespace LiveSearch

namespace Json.Scan

section Words

variable {text : List Char}

theorem mem_dropWhile_isDigit {mark : Char} (other : mark.isDigit = false) (inside : mark ∈ text) :
    mark ∈ text.dropWhile Char.isDigit := by
  rw [← List.takeWhile_append_dropWhile (p := Char.isDigit) (l := text), List.mem_append] at inside
  rcases inside with digits | rest
  · have digit := List.all_eq_true.mp (List.all_takeWhile (p := Char.isDigit)) mark digits
    exact absurd (other.symm.trans digit) Bool.false_ne_true
  · exact rest

theorem question_mem_splitMinus (inside : '?' ∈ text) : '?' ∈ (Number.splitMinus text).2 := by
  unfold Number.splitMinus
  split
  · simpa using inside
  · exact inside

theorem question_mem_splitFraction (inside : '?' ∈ text) : '?' ∈ (Number.splitFraction text).2 := by
  unfold Number.splitFraction
  split
  · exact mem_dropWhile_isDigit rfl (by simpa using inside)
  · exact inside

theorem question_mem_splitSign (inside : '?' ∈ text) : '?' ∈ (Number.splitSign text).2 := by
  unfold Number.splitSign
  split
  · simpa using inside
  · simpa using inside
  · exact inside

theorem question_mem_splitExponent (inside : '?' ∈ text) : '?' ∈ (Number.splitExponent text).2 := by
  unfold Number.splitExponent
  split
  · next mark rest =>
    split
    · next exponent =>
      refine mem_dropWhile_isDigit rfl (question_mem_splitSign ?_)
      rcases List.mem_cons.mp inside with rfl | later
      · exact absurd exponent (by decide)
      · exact later
    · exact inside
  · exact inside

/-- A number has no question mark. -/
theorem ofChars?_question (inside : '?' ∈ text) : Number.ofChars? text = none := by
  have unread : '?' ∈ (Number.splitExponent (Number.splitFraction
      ((Number.splitMinus text).2.dropWhile Char.isDigit)).2).2 :=
    question_mem_splitExponent (question_mem_splitFraction
      (mem_dropWhile_isDigit rfl (question_mem_splitMinus inside)))
  rw [Number.ofChars?, Number.Literal.ofChars?]
  dsimp only
  rw [if_pos (.inr (.inr (.inr (.inr (List.ne_nil_of_mem unread)))))]
  rfl

/-- A question mark in a word makes it no token. -/
theorem wordToken?_question (inside : '?' ∈ text) : wordToken? text = none := by
  have turned : '?' ∈ text.reverse := List.mem_reverse.mpr inside
  unfold wordToken?
  split
  · next same => exact absurd turned (by rw [same]; decide)
  · next same => exact absurd turned (by rw [same]; decide)
  · next same => exact absurd turned (by rw [same]; decide)
  · rw [ofChars?_question turned]
    rfl

end Words

/-- A query that cannot be read behind a question mark. -/
def plainQuery : String := "\x7b\"table\":\"t\",\"query\":[]\x7d"

/-- Wherever the scanner stands, it does not get past a question mark in front of the query. -/
theorem run_question (place : Place) (done : List Token) :
    run place done ('?' :: plainQuery.toList) = none := by
  cases place with
  | between => rfl
  | word letters =>
      have refused : wordToken? ('?' :: letters) = none := wordToken?_question List.mem_cons_self
      change run (.word ('?' :: letters)) done ('\x7b' :: plainQuery.toList.tail) = none
      rw [run, step, refused]
      rfl
  | quoted chars => rfl
  | escape chars => rfl
  | digits chars high count value => rfl
  | second chars high => rfl
  | secondEscape chars high => rfl

/-- Whatever stands in front of it. -/
theorem run_append_question (place : Place) (done : List Token) (before : List Char) :
    run place done (before ++ '?' :: plainQuery.toList) = none := by
  induction before generalizing place done with
  | nil => exact run_question place done
  | cons char rest ih =>
      rw [List.cons_append, run]
      split
      · rfl
      · exact ih _ _

end Json.Scan

namespace Descriptor

variable {listPrefix query : String} {descriptor : Descriptor}

theorem encoded?_of_split {name : String} {before after : List Char}
    (same : name.toList = before ++ '?' :: after) (fresh : '?' ∉ before) :
    encoded? name = some (String.ofList after) := by
  have split : Text.splitFirst? (· = '?') name.toList = some (before, after) :=
    Text.splitFirst?_eq_some_iff.mpr ⟨'?', same, decide_eq_true rfl, fun char inside =>
      decide_eq_false fun equal => fresh (equal ▸ inside)⟩
  rw [encoded?, split, Option.map_some]

theorem toList_prefixed (listPrefix query : String) :
    (listPrefix ++ "?" ++ query).toList = listPrefix.toList ++ '?' :: query.toList := by
  rw [String.toList_append, String.toList_append, List.append_assoc]
  rfl

theorem encoded?_prefixed (clear : '?' ∉ listPrefix.toList) (query : String) :
    encoded? (listPrefix ++ "?" ++ query) = some query := by
  rw [encoded?_of_split (toList_prefixed listPrefix query) clear, String.ofList_toList]

/-- Prefixes without a question mark all lead to the same query. -/
theorem ofName_prefixed (clear : '?' ∉ listPrefix.toList) {other : String}
    (clear' : '?' ∉ other.toList) : ofName (listPrefix ++ "?" ++ query) = .ok descriptor ↔
      ofName (other ++ "?" ++ query) = .ok descriptor := by
  rw [ofName_eq_ok_iff, ofName_eq_ok_iff, faultOrQuery, faultOrQuery, encoded?_prefixed clear,
    encoded?_prefixed clear']

/-- Behind a prefix with a question mark the query is not found. -/
theorem ofName_marked (marked : '?' ∈ listPrefix.toList) :
    ofName (listPrefix ++ "?" ++ Json.Scan.plainQuery) ≠ .ok descriptor := by
  obtain ⟨before, after, same, fresh⟩ := List.eq_append_cons_of_mem marked
  have encoded : encoded? (listPrefix ++ "?" ++ Json.Scan.plainQuery) =
      some (String.ofList (after ++ '?' :: Json.Scan.plainQuery.toList)) := by
    refine encoded?_of_split ?_ fresh
    rw [toList_prefixed, same, List.append_assoc, List.cons_append]
  have unread :
      Json.parse? (String.ofList (after ++ '?' :: Json.Scan.plainQuery.toList)) = none := by
    rw [Json.parse?, String.toList_ofList, Json.parseWithin?, Json.tokens?,
      Json.Scan.run_append_question]
    rfl
  rw [ne_eq, ofName_eq_ok_iff, faultOrQuery, encoded]
  dsimp only
  rw [unread]
  intro read
  cases read

/-- Every query that can be read is heard under the prefix, and read as it is under another one. -/
def HearsQueries (listPrefix : String) : Prop :=
  ∀ query descriptor, ofName ("x?" ++ query) = .ok descriptor →
    (∃ regex, Pattern.compile? (listenPattern listPrefix) = some regex ∧
      regex.isMatch (listPrefix ++ "?" ++ query) = true) ∧
    ofName (listPrefix ++ "?" ++ query) = .ok descriptor

theorem hearsQueries_of_clear (clear : '?' ∉ listPrefix.toList)
    (compiles : (Pattern.compile? (listenPattern listPrefix)).isSome = true) :
    HearsQueries listPrefix := by
  intro query descriptor stated
  refine ⟨?_, (ofName_prefixed clear (by decide : '?' ∉ "x".toList)).mpr stated⟩
  obtain ⟨regex, compiled⟩ := Option.isSome_iff_exists.mp compiles
  refine ⟨regex, compiled, ?_⟩
  rw [Pattern.compile?_listenPattern, Option.ite_none_right_eq_some] at compiled
  rw [← Option.some.inj compiled.2, Pattern.isMatch_listenRegex, toList_prefixed]
  exact ⟨query.toList, by rw [List.append_assoc]; rfl⟩

/-- A prefix of at most 256 KiB needs only to be free of question marks. -/
theorem hearsQueries_of_short (clear : '?' ∉ listPrefix.toList)
    (short : Pattern.byteLength listPrefix.toList ≤ 0x40000) : HearsQueries listPrefix :=
  hearsQueries_of_clear clear (Pattern.isSome_compile?_listenPattern short)

/-- A provider hears all queries under its prefix, and reads them as they are read under another
one, exactly if the prefix has no question mark and is short enough for a pattern. -/
theorem hearsQueries_iff (listPrefix : String) : HearsQueries listPrefix ↔
    '?' ∉ listPrefix.toList ∧ (Pattern.compile? (listenPattern listPrefix)).isSome = true := by
  constructor
  · intro heard
    obtain ⟨descriptor, stated⟩ : ∃ descriptor,
        ofName ("x?" ++ Json.Scan.plainQuery) = .ok descriptor := ⟨_, rfl⟩
    obtain ⟨⟨regex, compiled, -⟩, read⟩ := heard _ _ stated
    refine ⟨fun marked => ofName_marked marked read, ?_⟩
    rw [compiled]
    rfl
  · rintro ⟨clear, compiles⟩
    exact hearsQueries_of_clear clear compiles

/-- Settings with a question mark in the prefix are valid and hear a query that cannot be read
there. -/
theorem marked_prefix_misread :
    let settings : Settings := { Settings.default with listPrefix := "a?b" }
    Settings.validate settings = .ok () ∧
    (∃ descriptor, ofName ("x?" ++ Json.Scan.plainQuery) = .ok descriptor) ∧
    (∃ regex, Pattern.compile? (listenPattern settings.listPrefix) = some regex ∧
      regex.isMatch (settings.listPrefix ++ "?" ++ Json.Scan.plainQuery) = true) ∧
    ofName (settings.listPrefix ++ "?" ++ Json.Scan.plainQuery) =
      .error ⟨"a?b?" ++ Json.Scan.plainQuery, .invalidEncoding⟩ := by
  have compiled : Pattern.compile? (listenPattern "a?b") =
      some (Pattern.listenRegex "a?b".toList) :=
    (Pattern.compile?_listenPattern "a?b").trans (if_pos (by decide +kernel))
  exact ⟨rfl, ⟨_, rfl⟩, ⟨_, compiled, (Pattern.isMatch_listenRegex _ _).mpr (by decide)⟩, rfl⟩

end Descriptor

end LiveSearch
