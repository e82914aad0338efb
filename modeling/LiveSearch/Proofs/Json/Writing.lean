import LiveSearch.Json.Printer
import LiveSearch.Json.Token
import LiveSearch.Proofs.Json.Number

/-! # Written values can be read

A written form is legible if nothing else could have been written in its place: a text that
begins with it tells both what was written and where it ends (`LiveSearch.IsLegible`). Sequences of
legible forms are legible, with or without commas between them, as soon as their end cannot be taken
for one more member. Strings are legible whatever follows them
(`LiveSearch.Json.isLegible_writeString`), and values as long as no character of a number follows
them (`LiveSearch.Json.isLegible_write`).
-/

namespace LiveSearch

/-- Only this value, with only this rest, gives the text; `Ends` says what may follow. -/
def IsLegible {Value : Type} (write : Value → List Char) (Ends : List Char → Prop)
    (value : Value) : Prop :=
  ∀ ⦃second : Value⦄ ⦃rest other : List Char⦄, Ends rest → Ends other →
    write value ++ rest = write second ++ other → value = second ∧ rest = other

/-- The written forms of a sequence with commas between them. -/
def separated {Value : Type} (write : Value → List Char) : List Value → List Char
  | [] => []
  | value :: values => write value ++ values.flatMap fun later => ',' :: write later

namespace IsLegible

variable {Value : Type} {write : Value → List Char} {Ends : List Char → Prop}

/-- A sequence is legible if what follows it cannot be taken for one more member. -/
theorem flatMap {values : List Value} (next : ∀ value tail, Ends (write value ++ tail))
    (legible : ∀ value ∈ values, IsLegible write Ends value) :
    IsLegible (List.flatMap write)
      (fun rest => Ends rest ∧ ∀ value tail, rest ≠ write value ++ tail) values := by
  have ends {rest : List Char} (last : Ends rest) (later : List Value) :
      Ends (later.flatMap write ++ rest) := by
    cases later with
    | nil => exact last
    | cons value _ =>
        rw [List.flatMap_cons, List.append_assoc]
        exact next value _
  induction values with
  | nil =>
      rintro second rest other ⟨_, last⟩ _ same
      cases second with
      | nil => exact ⟨rfl, same⟩
      | cons value later =>
          rw [List.flatMap_cons, List.append_assoc] at same
          exact absurd same (last _ _)
  | cons value values ih =>
      obtain ⟨head, others⟩ := List.forall_mem_cons.mp legible
      intro second rest other last also same
      cases second with
      | nil =>
          rw [List.flatMap_cons, List.append_assoc] at same
          exact absurd same.symm (also.2 _ _)
      | cons value later =>
          rw [List.flatMap_cons, List.flatMap_cons, List.append_assoc, List.append_assoc] at same
          obtain ⟨rfl, tails⟩ := head (ends last.1 _) (ends also.1 _) same
          obtain ⟨rfl, rests⟩ := ih others last also tails
          exact ⟨rfl, rests⟩

/-- A mark before a written form does not matter. -/
theorem marked {value : Value} (legible : IsLegible write Ends value) (mark : Char) :
    IsLegible (fun value => mark :: write value) Ends value :=
  fun _ _ _ ends also same => legible ends also (List.cons.inj same).2

/-- A sequence with commas is legible if the mark at its end is neither a comma nor the beginning of
a member. -/
theorem separated {close : Char} (noComma : close ≠ ',') (atComma : ∀ rest, Ends (',' :: rest))
    (atClose : ∀ rest, Ends (close :: rest))
    (noMember : ∀ value tail rest, write value ++ tail ≠ close :: rest) {values : List Value}
    (legible : ∀ value ∈ values, IsLegible write Ends value) :
    IsLegible (separated write) (fun rest => ∃ tail, rest = close :: tail) values := by
  rintro second _ _ ⟨rest, rfl⟩ ⟨other, rfl⟩ same
  have ends (later : List Value) (rest : List Char) :
      Ends (later.flatMap (fun later => ',' :: write later) ++ close :: rest) := by
    cases later with
    | nil => exact atClose rest
    | cons value _ => exact atComma _
  have last (rest : List Char) :
      Ends (close :: rest) ∧ ∀ (value : Value) tail, close :: rest ≠ ',' :: write value ++ tail :=
    ⟨atClose rest, fun _ _ same => noComma (List.cons.inj same).1⟩
  cases values with
  | nil =>
      cases second with
      | nil => exact ⟨rfl, same⟩
      | cons value later =>
          exact absurd ((List.append_assoc _ _ _).symm.trans same.symm) (noMember value _ rest)
  | cons value values =>
      obtain ⟨head, others⟩ := List.forall_mem_cons.mp legible
      cases second with
      | nil =>
          exact absurd ((List.append_assoc _ _ _).symm.trans same) (noMember value _ other)
      | cons second later =>
          rw [LiveSearch.separated, LiveSearch.separated, List.append_assoc,
            List.append_assoc] at same
          obtain ⟨rfl, tails⟩ := head (ends _ _) (ends _ _) same
          have tail : IsLegible (List.flatMap fun later => ',' :: write later) _ values :=
            flatMap (fun _ _ => atComma _) fun value member => (others value member).marked ','
          obtain ⟨rfl, rests⟩ := tail (last rest) (last other) tails
          exact ⟨rfl, rests⟩

end IsLegible

/-- What may follow a number: no character of a number. -/
def Number.Ends (rest : List Char) : Prop := ∀ char ∈ rest.head?, isChar char = false

/-- A number is legible if no character of a number follows it. -/
theorem Number.isLegible_write (number : Number) : IsLegible Number.write Number.Ends number := by
  have read (number : Number) {rest : List Char} (ends : Ends rest) :
      (number.write ++ rest).takeWhile isChar = number.write := by
    rw [List.takeWhile_append_of_pos (isChar_of_mem_write number)]
    cases rest with
    | nil => exact List.append_nil _
    | cons char rest =>
        rw [List.takeWhile_cons_of_neg (Bool.eq_false_iff.mp (ends char rfl)), List.append_nil]
  intro second rest other ends also same
  have texts : number.write = second.write := by rw [← read number ends, same, read second also]
  rw [texts] at same
  exact ⟨write_injective texts, List.append_cancel_left same⟩

namespace Json

section Strings

/-- Read one character of a string, escapes included. -/
def readChar? : List Char → Option (Char × List Char)
  | '\\' :: 'u' :: _ :: _ :: high :: low :: rest => do
    let first ← Scan.hexValue? high
    let second ← Scan.hexValue? low
    return (Char.ofNat (16 * first + second), rest)
  | '\\' :: mark :: rest => (Scan.escaped? mark).map (·, rest)
  | char :: rest => some (char, rest)
  | [] => none

theorem hexValue?_hexDigit : ∀ value < 16, Scan.hexValue? (hexDigit value) = some value := by
  decide

theorem readChar?_plain {char : Char} (plain : char ≠ '\\') (rest : List Char) :
    readChar? (char :: rest) = some (char, rest) := by
  rw [readChar?]
  · exact fun _ _ _ _ _ backslash => absurd backslash plain
  · exact fun _ _ backslash => absurd backslash plain

/-- A written character is read back. -/
theorem readChar?_writeChar (char : Char) (rest : List Char) :
    readChar? (writeChar char ++ rest) = some (char, rest) := by
  unfold writeChar
  split
  case h_8 =>
    rename_i _ backslash _ _ _ _ _
    split
    · rename_i control
      have high := hexValue?_hexDigit (char.toNat / 16) (by omega)
      have low := hexValue?_hexDigit (char.toNat % 16) (by omega)
      have whole : 16 * (char.toNat / 16) + char.toNat % 16 = char.toNat := Nat.div_add_mod _ _
      simp only [List.cons_append, List.nil_append, readChar?, high, low, Option.bind_eq_bind,
        Option.bind_some, Option.pure_def, whole, Char.ofNat_toNat]
    · exact readChar?_plain backslash rest
  all_goals rfl

/-- No character is written with a quotation mark in front. -/
theorem writeChar_ne_quote (char : Char) (tail rest : List Char) :
    writeChar char ++ tail ≠ '"' :: rest := by
  intro same
  have read := readChar?_writeChar char tail
  rw [same, readChar?_plain (by decide)] at read
  obtain ⟨rfl, rfl⟩ := Prod.mk.inj (Option.some.inj read)
  exact absurd (List.cons.inj same).1 (by decide)

theorem isLegible_writeChar (char : Char) : IsLegible writeChar (fun _ => True) char := by
  intro second rest other _ _ same
  have read := readChar?_writeChar char rest
  rw [same, readChar?_writeChar] at read
  obtain ⟨rfl, rfl⟩ := Prod.mk.inj (Option.some.inj read)
  exact ⟨rfl, rfl⟩

/-- A quoted string is legible whatever follows it. -/
theorem isLegible_writeString (text : String) : IsLegible writeString (fun _ => True) text := by
  intro second rest other _ _ same
  have ends (rest : List Char) :
      True ∧ ∀ char tail, '"' :: rest ≠ writeChar char ++ tail :=
    ⟨trivial, fun char tail same => writeChar_ne_quote char tail rest same.symm⟩
  have inner := (List.cons.inj same).2
  change text.toList.flatMap writeChar ++ ['"'] ++ rest =
    second.toList.flatMap writeChar ++ ['"'] ++ other at inner
  rw [List.append_assoc, List.append_assoc] at inner
  obtain ⟨chars, rests⟩ := IsLegible.flatMap (fun _ _ => trivial)
    (fun char _ => isLegible_writeChar char) (ends rest) (ends other) inner
  exact ⟨String.toList_injective chars, (List.cons.inj rests).2⟩

end Strings

section Values

/-- The first character that a value is written with; all numbers share one. -/
def opening : Json → Char
  | null => 'n'
  | bool true => 't'
  | bool false => 'f'
  | number _ => '0'
  | string _ => '"'
  | array _ => '['
  | object _ => '\x7b'

/-- The first character of a text, one for all that numbers begin with. -/
def initial (text : List Char) : Option Char :=
  text.head?.map fun char => if Number.isChar char then '0' else char

theorem initial_write (value : Json) (rest : List Char) :
    initial (value.write ++ rest) = some value.opening := by
  cases value with
  | bool value => cases value <;> rfl
  | number value =>
      obtain ⟨char, tail, shape⟩ := List.exists_cons_of_ne_nil value.write_ne_nil
      have numeric : Number.isChar char = true :=
        value.isChar_of_mem_write char (shape ▸ List.mem_cons_self)
      rw [write, shape]
      change some (if Number.isChar char = true then '0' else char) = _
      rw [if_pos numeric]
      rfl
  | _ => rfl

theorem writeItems_eq (items : List Json) : writeItems items = separated write items := by
  induction items with
  | nil => rfl
  | cons item items ih =>
      cases items with
      | nil => exact (List.append_nil _).symm
      | cons next later =>
          rw [writeItems, ih]
          · rfl
          · exact List.cons_ne_nil _ _

/-- A field of an object. -/
def writeField (field : String × Json) : List Char := writeString field.1 ++ ':' :: field.2.write

theorem writeFields_eq (fields : List (String × Json)) :
    writeFields fields = separated writeField fields := by
  induction fields with
  | nil => rfl
  | cons field fields ih =>
      cases fields with
      | nil => exact (List.append_nil _).symm
      | cons next later =>
          rw [writeFields, ih]
          · exact (List.append_assoc (writeString _) (':' :: write _) _).symm
          · exact List.cons_ne_nil _ _

/-- Two values of one kind, the same if they hold nothing further. -/
inductive Alike : Json → Json → Prop
  | null : Alike .null .null
  | bool (value : Bool) : Alike (.bool value) (.bool value)
  | number (first second : Number) : Alike (.number first) (.number second)
  | string (first second : String) : Alike (.string first) (.string second)
  | array (first second : List Json) : Alike (.array first) (.array second)
  | object (first second : List (String × Json)) : Alike (.object first) (.object second)

theorem alike_of_opening {first second : Json} (same : first.opening = second.opening) :
    Alike first second := by
  match first, second with
  | .null, .null => exact .null
  | .bool true, .bool true => exact .bool true
  | .bool false, .bool false => exact .bool false
  | .number _, .number _ => exact .number _ _
  | .string _, .string _ => exact .string _ _
  | .array _, .array _ => exact .array _ _
  | .object _, .object _ => exact .object _ _

/-- No value is written with a closing bracket in front. -/
theorem write_ne_close (value : Json) (tail rest : List Char) :
    value.write ++ tail ≠ ']' :: rest := by
  intro same
  have openings := initial_write value tail
  rw [same] at openings
  have mark : ']' = value.opening := Option.some.inj openings
  cases value with
  | bool value => cases value <;> exact nomatch mark
  | _ => exact nomatch mark

/-- Texts with a common beginning are of values of one kind. -/
theorem alike_of_write {first second : Json} {rest other : List Char}
    (same : first.write ++ rest = second.write ++ other) : Alike first second := by
  have openings := initial_write first rest
  rw [same, initial_write] at openings
  exact alike_of_opening (Option.some.inj openings).symm

private theorem ends_cons {mark : Char} (noChar : Number.isChar mark = false) (rest : List Char) :
    Number.Ends (mark :: rest) :=
  fun _ head => Option.some.inj head ▸ noChar

theorem isLegible_array {items : List Json}
    (legible : ∀ item ∈ items, IsLegible write Number.Ends item) :
    IsLegible write Number.Ends (.array items) := by
  intro second rest other _ _ same
  cases alike_of_write same with
  | array _ others =>
      have inner := (List.cons.inj same).2
      change writeItems items ++ [']'] ++ rest = writeItems others ++ [']'] ++ other at inner
      rw [writeItems_eq, writeItems_eq, List.append_assoc, List.append_assoc] at inner
      obtain ⟨rfl, rests⟩ := IsLegible.separated (by decide) (ends_cons (by decide))
        (ends_cons (by decide)) write_ne_close legible ⟨rest, rfl⟩ ⟨other, rfl⟩ inner
      exact ⟨rfl, (List.cons.inj rests).2⟩

theorem isLegible_writeField {field : String × Json}
    (legible : IsLegible write Number.Ends field.2) :
    IsLegible writeField Number.Ends field := by
  intro second rest other ends also same
  rw [writeField, writeField, List.append_assoc, List.append_assoc] at same
  obtain ⟨names, values⟩ := isLegible_writeString field.1 trivial trivial same
  obtain ⟨contents, rests⟩ := legible ends also (List.cons.inj values).2
  exact ⟨Prod.ext names contents, rests⟩

theorem isLegible_object {fields : List (String × Json)}
    (legible : ∀ field ∈ fields, IsLegible write Number.Ends field.2) :
    IsLegible write Number.Ends (.object fields) := by
  intro second rest other _ _ same
  cases alike_of_write same with
  | object _ others =>
      have inner := (List.cons.inj same).2
      change writeFields fields ++ ['\x7d'] ++ rest =
        writeFields others ++ ['\x7d'] ++ other at inner
      rw [writeFields_eq, writeFields_eq, List.append_assoc, List.append_assoc] at inner
      have noField (field : String × Json) (tail rest : List Char) :
          writeField field ++ tail ≠ '\x7d' :: rest :=
        fun same => absurd (List.cons.inj same).1 (by decide)
      obtain ⟨rfl, rests⟩ := IsLegible.separated (by decide) (ends_cons (by decide))
        (ends_cons (by decide)) noField
        (fun field member => isLegible_writeField (legible field member))
        ⟨rest, rfl⟩ ⟨other, rfl⟩ inner
      exact ⟨rfl, (List.cons.inj rests).2⟩

mutual

/-- A value is legible if no character of a number follows it. -/
theorem isLegible_write (value : Json) : IsLegible write Number.Ends value := by
  cases value with
  | array items => exact isLegible_array (isLegible_items items)
  | object fields => exact isLegible_object (isLegible_fields fields)
  | number value =>
      intro second rest other ends also same
      cases alike_of_write same with
      | number _ second =>
          obtain ⟨rfl, rests⟩ := value.isLegible_write ends also same
          exact ⟨rfl, rests⟩
  | string value =>
      intro second rest other _ _ same
      cases alike_of_write same with
      | string _ second =>
          obtain ⟨rfl, rests⟩ := isLegible_writeString value trivial trivial same
          exact ⟨rfl, rests⟩
  | null =>
      intro second rest other _ _ same
      cases alike_of_write same with
      | null => exact ⟨rfl, List.append_cancel_left same⟩
  | bool value =>
      intro second rest other _ _ same
      cases alike_of_write same with
      | bool value => exact ⟨rfl, List.append_cancel_left same⟩

theorem isLegible_items (items : List Json) :
    ∀ item ∈ items, IsLegible write Number.Ends item := by
  cases items with
  | nil => exact List.forall_mem_nil _
  | cons item items =>
      exact List.forall_mem_cons.mpr ⟨isLegible_write item, isLegible_items items⟩

theorem isLegible_fields (fields : List (String × Json)) :
    ∀ field ∈ fields, IsLegible write Number.Ends field.2 := by
  cases fields with
  | nil => exact List.forall_mem_nil _
  | cons field fields =>
      exact List.forall_mem_cons.mpr ⟨isLegible_write field.2, isLegible_fields fields⟩

end

end Values

end Json

end LiveSearch
