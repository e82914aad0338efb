import LiveSearch.Proofs.Store.Filing
import LiveSearch.Proofs.Text.Blank
import LiveSearch.Store.Load

/-! # What a stream of records leaves in a table

A stream of bytes falls apart into lines (`LiveSearch.AreLines`), and it does not matter whether a
carriage return in front of a line feed is taken as part of the line
(`LiveSearch.lineText?_return`). Of the lines that are not blank, those in front of the first one
without a usable record are stored in their order, and nothing else happens
(`LiveSearch.Database.load_lines`).
-/

namespace LiveSearch

section Lines

/-- Bytes fall apart into lines without line feeds. Each line ends with a line feed, which may have
a carriage return in front of it; the last line may also end with the bytes. -/
inductive AreLines : List (List UInt8) → List UInt8 → Prop
  | none : AreLines [] []
  | last {line : List UInt8} (nonempty : line ≠ []) (within : 10 ∉ line) : AreLines [line] line
  | cons {line ending bytes : List UInt8} {rest : List (List UInt8)} (within : 10 ∉ line)
      (ended : ending = [10] ∨ ending = [13, 10]) (later : AreLines rest bytes) :
      AreLines (line :: rest) (line ++ ending ++ bytes)

variable {line bytes : List UInt8} {lines : List (List UInt8)}

/-- A line ends at its line feed. -/
theorem splitLines_ended (within : 10 ∉ line) (bytes : List UInt8) :
    splitLines (line ++ 10 :: bytes) = line :: splitLines bytes := by
  induction line with
  | nil => simp only [List.nil_append, splitLines, ↓reduceIte]
  | cons byte rest ih =>
      have other : byte ≠ 10 := fun same => within (same ▸ List.mem_cons_self)
      have later : 10 ∉ rest := fun member => within (List.mem_cons_of_mem byte member)
      simp only [List.cons_append, splitLines, other, ↓reduceIte, ih later]

/-- The last line may end without one. -/
theorem splitLines_last (nonempty : line ≠ []) (within : 10 ∉ line) :
    splitLines line = [line] := by
  induction line with
  | nil => exact absurd rfl nonempty
  | cons byte rest ih =>
      have other : byte ≠ 10 := fun same => within (same ▸ List.mem_cons_self)
      have later : 10 ∉ rest := fun member => within (List.mem_cons_of_mem byte member)
      cases rest with
      | nil => simp only [splitLines, other, ↓reduceIte]
      | cons next others =>
          rw [splitLines, if_neg other, ih (List.cons_ne_nil next others) later]

/-- Every stream falls apart into lines. -/
theorem areLines_splitLines (bytes : List UInt8) : AreLines (splitLines bytes) bytes := by
  induction bytes with
  | nil => exact .none
  | cons byte rest ih =>
      by_cases ends : byte = 10
      · subst ends
        rw [splitLines, if_pos rfl]
        exact .cons List.not_mem_nil (.inl rfl) ih
      · have apart {line : List UInt8} (within : 10 ∉ line) : 10 ∉ byte :: line :=
          List.not_mem_cons_of_ne_of_not_mem (Ne.symm ends) within
        rw [splitLines, if_neg ends]
        generalize splitLines rest = lines at ih
        cases ih with
        | none => exact .last (List.cons_ne_nil byte []) (apart List.not_mem_nil)
        | last nonempty within => exact .last (List.cons_ne_nil byte rest) (apart within)
        | cons within ended later => exact .cons (apart within) ended later

/-- The lines that are found are those of any reading, but may keep their carriage returns. -/
theorem AreLines.splitLines (read : AreLines lines bytes) :
    List.Forall₂ (fun line found => found = line ∨ found = line ++ [13]) lines
      (splitLines bytes) := by
  induction read with
  | none => exact .nil
  | last nonempty within =>
      rw [splitLines_last nonempty within]
      exact .cons (.inl rfl) .nil
  | @cons line ending bytes rest within ended later ih =>
      rcases ended with rfl | rfl
      · rw [List.append_assoc, List.singleton_append, splitLines_ended within]
        exact .cons (.inl rfl) ih
      · have kept : 10 ∉ line ++ [13] := by
          rw [List.mem_append, List.mem_singleton]
          rintro (member | same)
          · exact within member
          · exact absurd same (by decide)
        have same : line ++ [13, 10] ++ bytes = (line ++ [13]) ++ 10 :: bytes := by
          simp only [List.append_assoc, List.cons_append, List.nil_append]
        rw [same, splitLines_ended kept]
        exact .cons (.inr rfl) ih

end Lines

section Encoding

variable {line : List UInt8} {text : String}

/-- A line is a text if it spells the characters of the text. -/
theorem lineText?_eq_some_iff :
    lineText? line = some text ↔ text.toList.flatMap String.utf8EncodeChar = line := by
  have bytes : text.toByteArray = ⟨(text.toList.flatMap String.utf8EncodeChar).toArray⟩ := by
    rw [← String.utf8Encode_toList]
    exact ByteArray.ext List.data_toByteArray
  unfold lineText? String.fromUTF8?
  split
  · rw [Option.some_inj, ← String.toByteArray_inj, bytes]
    constructor
    · intro same
      exact (List.toArray_inj (congrArg ByteArray.data same)).symm
    · rintro rfl
      rfl
  · rename_i invalid
    refine iff_of_false nofun ?_
    rintro rfl
    exact invalid (bytes ▸ text.isValidUTF8)

/-- A character whose bytes end with a carriage return is the carriage return. -/
theorem utf8EncodeChar_return {char : Char} {bytes : List UInt8}
    (ends : String.utf8EncodeChar char = bytes ++ [13]) : bytes = [] := by
  have inside : bytes.length < (String.utf8EncodeChar char).length := by
    rw [ends, List.length_append, List.length_singleton]
    exact Nat.lt_succ_self _
  have last : (String.utf8EncodeChar char)[bytes.length] = 13 := by
    simp only [ends, List.getElem_concat_length]
  -- Only the first byte of a character may be a plain one.
  have first : (String.utf8EncodeChar char)[bytes.length].IsUTF8FirstByte := by
    rw [last]
    exact .inl rfl
  exact List.eq_nil_of_length_eq_zero (UInt8.isUTF8FirstByte_getElem_utf8EncodeChar.mp first)

/-- A carriage return at the end of a line is the last character of its text. -/
theorem lineText?_return (line : List UInt8) : lineText? (line ++ [13]) =
    (lineText? line).map fun text => String.ofList (text.toList ++ ['\r']) := by
  have plain : String.utf8EncodeChar '\r' = [13] := by decide
  cases found : lineText? line with
  | some text =>
      rw [lineText?_eq_some_iff] at found
      rw [Option.map_some, lineText?_eq_some_iff, String.toList_ofList, List.flatMap_append, found,
        List.flatMap_singleton, plain]
  | none =>
      rw [Option.map_none, Option.eq_none_iff_forall_ne_some]
      intro text read
      rw [lineText?_eq_some_iff] at read
      rcases List.eq_nil_or_concat' text.toList with none | ⟨chars, char, spelt⟩
      · rw [none] at read
        cases line <;> cases read
      rcases List.eq_nil_or_concat' (String.utf8EncodeChar char) with none | ⟨bytes, byte, ends⟩
      · exact String.utf8EncodeChar_ne_nil none
      rw [spelt, List.flatMap_append, List.flatMap_singleton, ends, ← List.append_assoc] at read
      obtain ⟨before, rfl⟩ := List.append_singleton_inj.mp read
      rw [utf8EncodeChar_return ends, List.append_nil] at before
      -- Without its last character the text would be that of the line.
      have shorter : lineText? line = some (String.ofList chars) := by
        rw [lineText?_eq_some_iff, String.toList_ofList, before]
      rw [found] at shorter
      cases shorter

end Encoding

namespace Database

variable {line : List UInt8}

/-- A carriage return at the end of a line does not matter to its record. -/
theorem lineRecord_return (line : List UInt8) : lineRecord (line ++ [13]) = lineRecord line := by
  unfold lineRecord
  rw [lineText?_return]
  cases lineText? line with
  | none => rfl
  | some text =>
      have trimmed : Text.trim (text.toList ++ ['\r']) = Text.trim text.toList := by
        have around := Text.trim_surrounded (List.forall_mem_nil _)
          (List.forall_mem_singleton.mpr rfl : Text.IsBlankText ['\r']) text.toList
        rwa [List.nil_append] at around
      rw [Option.map_some]
      dsimp only
      rw [String.toList_ofList, trimmed]

section Reading

/-- The record that a line holds: what is written in it between white space is a JSON object with a
usable key. -/
def filedRecord? (field : String) (line : List UInt8) : Option Json :=
  (lineText? line).bind fun text =>
    (Json.parse? (String.ofList (Text.trim text.toList))).filter fun record =>
      record.isObject && (keyOf? field record).isSome

/-- Something is written in a line: it is not UTF-8, or it has characters other than white space. -/
def isWritten (line : List UInt8) : Bool :=
  (lineText? line).all fun text => !(Text.trim text.toList).isEmpty

/-- What a line says, whatever the key field is: nothing, a JSON value, or nothing that can be
read. -/
theorem lineRecord_cases (line : List UInt8) :
    (lineRecord line = .ok none ∧ isWritten line = false) ∨
    (∃ record, lineRecord line = .ok (some record) ∧ isWritten line = true ∧
      ∀ field, filedRecord? field line =
        (some record).filter fun record => record.isObject && (keyOf? field record).isSome) ∨
    (∃ failure, lineRecord line = .error failure ∧ isWritten line = true ∧
      ∀ field, filedRecord? field line = none) := by
  cases readable : lineText? line with
  | none =>
      obtain ⟨failure, said⟩ : ∃ failure, lineRecord line = .error failure := by
        simp only [lineRecord, readable, Except.error.injEq, exists_eq']
      refine .inr (.inr ⟨failure, said, ?_, fun field => ?_⟩)
      · rw [isWritten, readable, Option.all_none]
      · rw [filedRecord?, readable, Option.bind_none]
  | some text =>
      have said (field : String) : filedRecord? field line =
          (Json.parseWithin? Json.depthLimit (Text.trim text.toList)).filter fun record =>
            record.isObject && (keyOf? field record).isSome := by
        rw [filedRecord?, readable, Option.bind_some, Json.parse?, String.toList_ofList]
      cases trimmed : Text.trim text.toList with
      | nil =>
          refine .inl ⟨?_, ?_⟩
          · simp only [lineRecord, readable, trimmed]
          · simp only [isWritten, readable, Option.all_some, trimmed, List.isEmpty_nil,
              Bool.not_true]
      | cons char chars =>
          have written : isWritten line = true := by
            simp only [isWritten, readable, Option.all_some, trimmed, List.isEmpty_cons,
              Bool.not_false]
          rw [trimmed] at said
          cases parsed : Json.parseWithin? Json.depthLimit (char :: chars) with
          | none =>
              rw [parsed] at said
              obtain ⟨failure, refused⟩ : ∃ failure, lineRecord line = .error failure := by
                simp only [lineRecord, readable, trimmed, parsed, Except.error.injEq, exists_eq']
              exact .inr (.inr ⟨failure, refused, written, said⟩)
          | some record =>
              rw [parsed] at said
              refine .inr (.inl ⟨record, ?_, written, said⟩)
              simp only [lineRecord, readable, trimmed, parsed]

/-- What becomes of a line: it is blank and skipped, it holds a record that is stored, or it ends
the loading. -/
inductive Taking (name : String) (rest : List (List UInt8)) (loaded : Nat) (database : Database)
    (line : List UInt8) : Database × Except Failure Nat → Prop
  | skipped (blank : isWritten line = false) :
      Taking name rest loaded database line (database.loadLines name loaded rest)
  | stored (record : Json) (written : isWritten line = true)
      (filed : filedRecord? database.primaryKey line = some record)
      (field : (database.upsert name record).1.primaryKey = database.primaryKey) :
      Taking name rest loaded database line
        ((database.upsert name record).1.loadLines name (loaded + 1) rest)
  | ended (failure : Failure) (written : isWritten line = true)
      (bad : filedRecord? database.primaryKey line = none) :
      Taking name rest loaded database line (database, .error failure)

theorem loadLines_cons (name : String) (rest : List (List UInt8)) (loaded : Nat)
    (database : Database) (line : List UInt8) :
    Taking name rest loaded database line (database.loadLines name loaded (line :: rest)) := by
  rw [loadLines]
  rcases lineRecord_cases line with
    ⟨said, blank⟩ | ⟨record, said, written, found⟩ | ⟨failure, said, written, bad⟩
  · rw [said]
    exact .skipped blank
  · rw [said]
    cases accepted : database.keyOf record with
    | error failure =>
        have refused : database.upsert name record = (database, .error failure) := by
          rw [Database.upsert, accepted]
        have unusable :
            (record.isObject && (keyOf? database.primaryKey record).isSome) = false := by
          apply Bool.eq_false_iff.mpr
          intro usable
          obtain ⟨object, keyed⟩ := Bool.and_eq_true_iff.mp usable
          obtain ⟨key, listed⟩ := Option.isSome_iff_exists.mp keyed
          exact not_isFiled accepted (Json.isFiled_iff.mpr ⟨object, listed⟩)
        dsimp only
        rw [refused]
        apply Taking.ended _ written
        rw [found, Option.filter_some, unusable, if_neg Bool.false_ne_true]
    | ok key =>
        have put : database.upsert name record = (database.put name key record, .ok key) := by
          rw [Database.upsert, accepted]
        obtain ⟨object, listed⟩ := Json.isFiled_iff.mp (keyOf_eq_ok_iff.mp accepted)
        have filed : filedRecord? database.primaryKey line = some record := by
          rw [found, Option.filter_some, object, listed]
          rfl
        have stored : Taking name rest loaded database line
            ((database.upsert name record).1.loadLines name (loaded + 1) rest) :=
          .stored record written filed (by rw [put]; rfl)
        dsimp only
        rw [put] at stored ⊢
        exact stored
  · rw [said]
    exact .ended failure written (bad database.primaryKey)

/-- Store records under their keys, one after another. -/
def upsertAll (database : Database) (name : String) (records : List Json) : Database :=
  records.foldl (fun database record => (database.upsert name record).1) database

/-- The lines in front of the first one without a record. -/
def goodLines (field : String) (lines : List (List UInt8)) : List (List UInt8) :=
  (lines.filter isWritten).takeWhile fun line => (filedRecord? field line).isSome

/-- What loading lines leads to: the records in front of the first bad line are stored, and the
answer is their number if there is no bad line, and a failure otherwise. -/
structure Loads (name : String) (loaded : Nat) (database : Database) (lines : List (List UInt8))
    (outcome : Database × Except Failure Nat) : Prop where
  stored : outcome.1 = database.upsertAll name
    ((goodLines database.primaryKey lines).filterMap (filedRecord? database.primaryKey))
  counted : outcome.2 = .ok (loaded + (lines.filter isWritten).length) ↔
    ∀ line ∈ lines.filter isWritten, (filedRecord? database.primaryKey line).isSome = true
  failed : (∃ failure, outcome.2 = .error failure) ↔
    ∃ line ∈ lines.filter isWritten, filedRecord? database.primaryKey line = none

/-- Lines are loaded one after another. -/
theorem loadLines_loads (name : String) (loaded : Nat) (database : Database)
    (lines : List (List UInt8)) :
    Loads name loaded database lines (database.loadLines name loaded lines) := by
  induction lines generalizing database loaded with
  | nil =>
      refine ⟨rfl, iff_of_true rfl (List.forall_mem_nil _), iff_of_false ?_ ?_⟩
      · rintro ⟨failure, same⟩
        cases same
      · rintro ⟨line, member, -⟩
        cases member
  | cons line rest ih =>
      have taking := loadLines_cons name rest loaded database line
      generalize database.loadLines name loaded (line :: rest) = outcome at taking
      cases taking with
      | skipped blank =>
          have same : (line :: rest).filter isWritten = rest.filter isWritten :=
            List.filter_cons_of_neg (Bool.eq_false_iff.mp blank)
          obtain ⟨stored, counted, failed⟩ := ih loaded database
          constructor
          · rw [goodLines, same]
            exact stored
          · rw [same]
            exact counted
          · rw [same]
            exact failed
      | stored record written filed field =>
          have same : (line :: rest).filter isWritten = line :: rest.filter isWritten :=
            List.filter_cons_of_pos written
          have held : (filedRecord? database.primaryKey line).isSome = true := by
            rw [filed, Option.isSome_some]
          obtain ⟨stored, counted, failed⟩ := ih (loaded + 1) (database.upsert name record).1
          rw [field] at stored counted failed
          constructor
          · rw [stored, goodLines, goodLines, same,
              List.takeWhile_cons_of_pos (p := fun line => (filedRecord? _ line).isSome) held,
              List.filterMap_cons_some filed]
            rfl
          · rw [same, List.forall_mem_cons, List.length_cons, ← Nat.add_assoc,
              Nat.add_right_comm, counted]
            exact (and_iff_right held).symm
          · rw [same, failed, List.exists_mem_cons_iff, filed]
            exact (or_iff_right nofun).symm
      | ended failure written bad =>
          have same : (line :: rest).filter isWritten = line :: rest.filter isWritten :=
            List.filter_cons_of_pos written
          have missing : ¬ (filedRecord? database.primaryKey line).isSome = true := by
            rw [bad, Option.isSome_none]
            exact Bool.false_ne_true
          constructor
          · rw [goodLines, same,
              List.takeWhile_cons_of_neg (p := fun line => (filedRecord? _ line).isSome) missing]
            rfl
          · rw [same, List.forall_mem_cons]
            exact iff_of_false nofun fun held => missing held.1
          · rw [same, List.exists_mem_cons_iff]
            exact iff_of_true ⟨failure, rfl⟩ (.inl bad)

/-- It does not matter which lines keep a carriage return. -/
theorem loadLines_returns {name : String} {lines found : List (List UInt8)}
    (kept : List.Forall₂ (fun line found => found = line ∨ found = line ++ [13]) lines found)
    (database : Database) (loaded : Nat) :
    database.loadLines name loaded found = database.loadLines name loaded lines := by
  induction kept generalizing database loaded with
  | nil => rfl
  | @cons line found lines others same later ih =>
      have said : lineRecord found = lineRecord line := by
        rcases same with rfl | rfl
        · rfl
        · exact lineRecord_return line
      simp only [loadLines, said, ih]

/-- **A stream is stored up to its first bad line.** A stream falls apart into lines, and however it
does, the loading leaves the store, tables and feeds alike, as it is when the table stands and the
records in front of the first bad line have been stored one after another; nothing of the later
lines is applied. The answer is the number of the lines in which something is written if none of
them is bad, and a failure otherwise. -/
theorem load_lines (database : Database) (name : String) (bytes : List UInt8) :
    (∃ lines, AreLines lines bytes) ∧
      ∀ lines, AreLines lines bytes →
        Loads name 0 (database.createTable name) lines (database.load name bytes) := by
  constructor
  · exact ⟨splitLines bytes, areLines_splitLines bytes⟩
  · intro lines read
    rw [load, loadLines_returns read.splitLines]
    exact loadLines_loads name 0 (database.createTable name) lines

/-- A record behind a line that is not UTF-8 is not stored; those in front of it are, whether their
line ends with a carriage return or is followed by a blank one. -/
theorem load_lines_until_unreadable :
    let first := "\x7b\"id\":1\x7d".toUTF8.toList
    let later := "\x7b\"id\":2\x7d".toUTF8.toList
    let outcome := (Database.empty "id").load "books"
      (first ++ [13, 10] ++ ([32] ++ [10] ++ ([255] ++ [10] ++ later)))
    (∃ failure, outcome.2 = .error failure) ∧
      outcome.1 = ((Database.empty "id").createTable "books").upsertAll "books"
        ([first].filterMap (filedRecord? "id")) := by
  intro first later outcome
  have read : AreLines [first, [32], [255], later]
      (first ++ [13, 10] ++ ([32] ++ [10] ++ ([255] ++ [10] ++ later))) :=
    .cons (by decide +kernel) (.inr rfl) (.cons (by decide) (.inl rfl) (.cons (by decide) (.inl rfl)
      (.last (by decide +kernel) (by decide +kernel))))
  have good : goodLines "id" [first, [32], [255], later] = [first] := by decide +kernel
  obtain ⟨stored, -, failed⟩ := (load_lines (.empty "id") "books" _).2 _ read
  constructor
  · refine failed.mpr ⟨[255], by decide +kernel, ?_⟩
    exact Option.isNone_iff_eq_none.mp (by decide +kernel)
  · have field : ((Database.empty "id").createTable "books").primaryKey = "id" := rfl
    rw [stored, field, good]

end Reading

end Database

end LiveSearch
