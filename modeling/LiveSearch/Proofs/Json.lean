import LiveSearch.Json.Parser

/-! # Integers in JSON texts

A number literal that does not fit a word of 64 bits is read as a binary64 number. So every integer
in a value that a text spells, however deep, fits a word (`LiveSearch.Json.fitsWords_of_parse?`):
numbers fit when they are read, and the reader only puts together what it has been given.
-/

namespace LiveSearch

namespace Json

/-- Every integer in a value fits a word of 64 bits. -/
inductive FitsWords : Json → Prop
  | null : FitsWords .null
  | bool (value : Bool) : FitsWords (.bool value)
  | integer (value : Int) (exact : Number.holdsExactly value = true) :
      FitsWords (.number (.integer value))
  | float (value : Binary64) : FitsWords (.number (.float value))
  | string (value : String) : FitsWords (.string value)
  | array (items : List Json) (fits : ∀ item ∈ items, FitsWords item) : FitsWords (.array items)
  | object (fields : List (String × Json)) (fits : ∀ field ∈ fields, FitsWords field.2) :
      FitsWords (.object fields)

namespace FitsWords

/-- An integer that fits a word is not too large. -/
theorem lt_of_int {value : Int} (fits : (int value).FitsWords) : value < 0x10000000000000000 := by
  cases fits with
  | integer value exact => exact of_decide_eq_true (Bool.and_eq_true_iff.mp exact).2

/-- The fields of a value fit words. -/
theorem field? {query value : Json} (fits : query.FitsWords) {name : String}
    (found : query.field? name = some value) : value.FitsWords := by
  cases fits with
  | object fields fits =>
      change lookup name fields = some value at found
      induction fields with
      | nil => exact nomatch found
      | cons first rest ih =>
          obtain ⟨head, others⟩ := List.forall_mem_cons.mp fits
          rw [lookup] at found
          split at found
          · exact Option.some.inj found ▸ head
          · exact ih others found
  | _ => exact nomatch found

end FitsWords

/-- The value that a token denotes fits words. -/
def Token.FitsWords : Token → Prop
  | .scalar value => value.FitsWords
  | _ => True

namespace Scan

/-- A number that has been read fits words. -/
theorem fitsWords_of_ofChars? {text : List Char} {number : Number}
    (read : Number.ofChars? text = some number) : (Json.number number).FitsWords := by
  obtain ⟨literal, _, denoted⟩ := Option.bind_eq_some_iff.mp read
  unfold Number.Literal.toNumber? at denoted
  extract_lets magnitude value at denoted
  split at denoted
  · rename_i plain
    rw [Bool.and_eq_true, Bool.and_eq_true] at plain
    rw [← Option.some.inj denoted]
    exact .integer value plain.1.2
  · obtain ⟨nearest, _, rfl⟩ := Option.map_eq_some_iff.mp denoted
    exact .float nearest

theorem fitsWords_of_wordToken? {letters : List Char} {token : Token}
    (read : wordToken? letters = some token) : token.FitsWords := by
  unfold wordToken? at read
  split at read
  · rw [← Option.some.inj read]
    exact .null
  · rw [← Option.some.inj read]
    exact .bool true
  · rw [← Option.some.inj read]
    exact .bool false
  · obtain ⟨number, spelt, rfl⟩ := Option.map_eq_some_iff.mp read
    exact fitsWords_of_ofChars? spelt

theorem fitsWords_of_structural? {char : Char} {token : Token}
    (read : structural? char = some token) : token.FitsWords := by
  unfold structural? at read
  split at read
  case h_7 => exact nomatch read
  all_goals
    rw [← Option.some.inj read]
    exact trivial

variable {char : Char} {place next : Place} {tokens : List Token}

/-- A character that completes no token delivers none. -/
private theorem fitsWords_of_none (read : some (place, []) = some (next, tokens)) :
    ∀ token ∈ tokens, token.FitsWords := by
  rw [← (Prod.mk.inj (Option.some.inj read)).2]
  exact List.forall_mem_nil _

theorem fitsWords_of_stepBetween (read : stepBetween char = some (next, tokens)) :
    ∀ token ∈ tokens, token.FitsWords := by
  unfold stepBetween at read
  split at read
  · exact fitsWords_of_none read
  split at read
  · exact fitsWords_of_none read
  split at read
  · rename_i token structural
    rw [← (Prod.mk.inj (Option.some.inj read)).2]
    exact List.forall_mem_singleton.mpr (fitsWords_of_structural? structural)
  · exact fitsWords_of_none read

/-- The tokens that a character completes fit words. -/
theorem fitsWords_of_step (read : step place char = some (next, tokens)) :
    ∀ token ∈ tokens, token.FitsWords := by
  unfold step at read
  split at read
  · exact fitsWords_of_stepBetween read
  · split at read
    · obtain ⟨token, word, read⟩ := Option.bind_eq_some_iff.mp read
      obtain ⟨⟨_, others⟩, between, read⟩ := Option.bind_eq_some_iff.mp read
      rw [← (Prod.mk.inj (Option.some.inj read)).2]
      exact List.forall_mem_cons.mpr
        ⟨fitsWords_of_wordToken? word, fitsWords_of_stepBetween between⟩
    · exact fitsWords_of_none read
  · split at read
    · rw [← (Prod.mk.inj (Option.some.inj read)).2]
      exact List.forall_mem_singleton.mpr trivial
    split at read
    · exact fitsWords_of_none read
    split at read
    · exact nomatch read
    · exact fitsWords_of_none read
  · split at read
    · exact fitsWords_of_none read
    · obtain ⟨plain, _, delivered⟩ := Option.map_eq_some_iff.mp read
      exact fitsWords_of_none (congrArg some delivered)
  · obtain ⟨digit, _, read⟩ := Option.bind_eq_some_iff.mp read
    dsimp only at read
    split at read
    · obtain ⟨after, _, read⟩ := Option.bind_eq_some_iff.mp read
      exact fitsWords_of_none read
    · exact fitsWords_of_none read
  · split at read
    · exact fitsWords_of_none read
    · exact nomatch read
  · split at read
    · exact fitsWords_of_none read
    · exact nomatch read

/-- All tokens that are read from a text fit words. -/
theorem fitsWords_of_run {text : List Char} {done : List Token}
    (fits : ∀ token ∈ done, token.FitsWords) (read : run place done text = some tokens) :
    ∀ token ∈ tokens, token.FitsWords := by
  fun_induction run place done text with
  | case1 done => exact Option.some.inj read ▸ fits
  | case2 letters done =>
      obtain ⟨token, word, rfl⟩ := Option.map_eq_some_iff.mp read
      exact List.forall_mem_cons.mpr ⟨fitsWords_of_wordToken? word, fits⟩
  | case3 => exact nomatch read
  | case4 => exact nomatch read
  | case5 place done char rest next completed stepped ih =>
      refine ih (fun token member => ?_) read
      rcases List.mem_append.mp member with fresh | former
      · exact fitsWords_of_step stepped token (List.mem_reverse.mp fresh)
      · exact fits token former

end Scan

/-- What an open container holds so far fits words. -/
def Frame.FitsWords : Frame → Prop
  | .array items => ∀ item ∈ items, item.FitsWords
  | .object fields _ => ∀ field ∈ fields, field.2.FitsWords

namespace Reader

/-- What has been read so far fits words. -/
structure FitsWords (reader : Reader) : Prop where
  frames : ∀ frame ∈ reader.frames, frame.FitsWords
  result : ∀ value, reader.expected = .nothing value → value.FitsWords

variable {limit : Nat} {frames : List Frame} {token : Token} {reader next : Reader}

theorem fitsWords_start : start.FitsWords := ⟨List.forall_mem_nil _, nofun⟩

/-- A field is added or replaced. -/
theorem fitsWords_insertField {value : Json} {fields : List (String × Json)} (name : String)
    (new : value.FitsWords) (fits : ∀ field ∈ fields, field.2.FitsWords) :
    ∀ field ∈ insertField name value fields, field.2.FitsWords := by
  induction fields with
  | nil => exact List.forall_mem_singleton.mpr new
  | cons first rest ih =>
      obtain ⟨head, others⟩ := List.forall_mem_cons.mp fits
      rw [insertField]
      split
      · exact List.forall_mem_cons.mpr ⟨new, others⟩
      split
      · exact List.forall_mem_cons.mpr ⟨new, fits⟩
      · exact List.forall_mem_cons.mpr ⟨head, ih others⟩

theorem fitsWords_complete {value : Json} (new : value.FitsWords)
    (fits : ∀ frame ∈ frames, frame.FitsWords) : (complete value frames).FitsWords := by
  cases frames with
  | nil => exact ⟨fits, fun result same => Expected.nothing.inj same ▸ new⟩
  | cons frame outer =>
      obtain ⟨inner, others⟩ := List.forall_mem_cons.mp fits
      cases frame with
      | array items =>
          exact ⟨List.forall_mem_cons.mpr ⟨List.forall_mem_cons.mpr ⟨new, inner⟩, others⟩, nofun⟩
      | object fields name =>
          exact ⟨List.forall_mem_cons.mpr ⟨fitsWords_insertField name new inner, others⟩, nofun⟩

theorem fitsWords_begin (fits : ∀ frame ∈ frames, frame.FitsWords) (known : token.FitsWords)
    (begun : begin limit frames token = some next) : next.FitsWords := by
  have opened (frame : Frame) (expected : Expected) (empty : frame.FitsWords)
      (open_ : ∀ value, expected ≠ .nothing value)
      (begun : openFrame limit frames frame expected = some next) : next.FitsWords := by
    unfold openFrame at begun
    split at begun
    · rw [← Option.some.inj begun]
      exact ⟨List.forall_mem_cons.mpr ⟨empty, fits⟩, fun value same => absurd same (open_ value)⟩
    · exact nomatch begun
  cases token with
  | text value => exact Option.some.inj begun ▸ fitsWords_complete (.string value) fits
  | scalar value => exact Option.some.inj begun ▸ fitsWords_complete known fits
  | openArray => exact opened (.array []) .firstItem (List.forall_mem_nil _) nofun begun
  | openObject => exact opened (.object [] "") .firstName (List.forall_mem_nil _) nofun begun
  | _ => exact nomatch begun

theorem fitsWords_close (fits : ∀ frame ∈ frames, frame.FitsWords)
    (closed : close frames token = some next) : next.FitsWords := by
  unfold close at closed
  split at closed
  · obtain ⟨inner, others⟩ := List.forall_mem_cons.mp fits
    rw [← Option.some.inj closed]
    exact fitsWords_complete (.array _ fun item member => inner item (List.mem_reverse.mp member))
      others
  · obtain ⟨inner, others⟩ := List.forall_mem_cons.mp fits
    rw [← Option.some.inj closed]
    exact fitsWords_complete (.object _ inner) others
  · exact nomatch closed

theorem fitsWords_takeName (fits : ∀ frame ∈ frames, frame.FitsWords)
    (taken : takeName frames token = some next) : next.FitsWords := by
  unfold takeName at taken
  split at taken
  · obtain ⟨inner, others⟩ := List.forall_mem_cons.mp fits
    rw [← Option.some.inj taken]
    exact ⟨List.forall_mem_cons.mpr ⟨inner, others⟩, nofun⟩
  · exact nomatch taken

/-- The reader puts together only what it has been given. -/
theorem fitsWords_step (fits : reader.FitsWords) (known : token.FitsWords)
    (stepped : step limit reader token = some next) : next.FitsWords := by
  have eitherWay {first second : Option Reader} (read : first.or second = some next)
      (one : first = some next → next.FitsWords) (other : second = some next → next.FitsWords) :
      next.FitsWords :=
    (Option.or_eq_some_iff.mp read).elim one fun way => other way.2
  unfold step at stepped
  split at stepped
  · exact fitsWords_begin fits.frames known stepped
  · exact eitherWay stepped (fitsWords_close fits.frames) (fitsWords_begin fits.frames known)
  · exact eitherWay stepped (fitsWords_close fits.frames) (fitsWords_takeName fits.frames)
  · exact fitsWords_takeName fits.frames stepped
  · split at stepped
    · rw [← Option.some.inj stepped]
      exact ⟨fits.frames, nofun⟩
    · exact nomatch stepped
  · split at stepped
    · rw [← Option.some.inj stepped]
      exact ⟨fits.frames, nofun⟩
    · rw [← Option.some.inj stepped]
      exact ⟨fits.frames, nofun⟩
    · exact fitsWords_close fits.frames stepped
  · exact nomatch stepped

theorem fitsWords_foldlM {tokens : List Token} (known : ∀ token ∈ tokens, token.FitsWords)
    (fits : reader.FitsWords) (read : tokens.foldlM (step limit) reader = some next) :
    next.FitsWords := by
  induction tokens generalizing reader with
  | nil => exact Option.some.inj read ▸ fits
  | cons token rest ih =>
      obtain ⟨first, others⟩ := List.forall_mem_cons.mp known
      obtain ⟨later, stepped, read⟩ := Option.bind_eq_some_iff.mp read
      exact ih others (fitsWords_step fits first stepped) read

end Reader

/-- Every integer in a value that a text spells fits a word of 64 bits. -/
theorem fitsWords_of_parse? {text : String} {value : Json} (read : parse? text = some value) :
    value.FitsWords := by
  obtain ⟨tokens, scanned, further⟩ := Option.bind_eq_some_iff.mp read
  obtain ⟨reader, taken, finished⟩ := Option.bind_eq_some_iff.mp further
  obtain ⟨done, run, rfl⟩ := Option.map_eq_some_iff.mp scanned
  have known : ∀ token ∈ done.reverse, token.FitsWords := fun token member =>
    Scan.fitsWords_of_run (List.forall_mem_nil _) run token (List.mem_reverse.mp member)
  have fits := Reader.fitsWords_foldlM known Reader.fitsWords_start taken
  unfold Reader.result? at finished
  split at finished
  · rename_i result same
    exact Option.some.inj finished ▸ fits.result result same
  · exact nomatch finished

end Json

end LiveSearch
