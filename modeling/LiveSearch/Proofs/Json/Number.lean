import Mathlib.Data.List.TakeWhile
import LiveSearch.Json.Number
import LiveSearch.Proofs.Binary64.Shortest

/-! # Texts of numbers

The written form of a decimal spells its value (`LiveSearch.Binary64.Decimal.value_ofText_write`),
and the shortest decimal of a number belongs to no other magnitude. So no two numbers have the same
text (`LiveSearch.Number.write_injective`). All characters of such a text are digits, signs, points
and exponent marks (`LiveSearch.Number.isChar_of_mem_write`), and it has at least one.
-/

namespace LiveSearch

/-- All characters are decimal digits. -/
def AreDigits (text : List Char) : Prop := ∀ char ∈ text, char.isDigit = true

theorem areDigits_toDigits (value : Nat) : AreDigits (Nat.toDigits 10 value) :=
  fun _ member => Nat.isDigit_of_mem_toDigits (by decide) (by decide) member

theorem areDigits_replicate (count : Nat) : AreDigits (List.replicate count '0') := by
  intro char member
  rw [List.eq_of_mem_replicate member]
  rfl

/-- No two natural numbers have the same digits. -/
theorem toDigits_injective : Function.Injective (Nat.toDigits 10) := by
  intro first second same
  have values := congrArg (Nat.ofDigitChars 10 · 0) same
  simpa only [Nat.ofDigitChars_ten_toDigits] using values

namespace AreDigits

variable {text other : List Char}

theorem append (digits : AreDigits text) (others : AreDigits other) : AreDigits (text ++ other) :=
  fun char member => (List.mem_append.mp member).elim (digits char) (others char)

theorem take (digits : AreDigits text) (count : Nat) : AreDigits (text.take count) :=
  fun char member => digits char (List.mem_of_mem_take member)

theorem drop (digits : AreDigits text) (count : Nat) : AreDigits (text.drop count) :=
  fun char member => digits char (List.mem_of_mem_drop member)

theorem notMem (digits : AreDigits text) {mark : Char} (other : mark.isDigit = false) :
    mark ∉ text :=
  fun member => absurd ((digits mark member).symm.trans other) (by decide)

end AreDigits

namespace Binary64.Decimal

section Marks

variable {mark : Char} {before : List Char} (after : List Char)

theorem takeWhile_before (clear : mark ∉ before) :
    (before ++ mark :: after).takeWhile (· ≠ mark) = before := by
  have unmarked : ∀ char ∈ before, decide (char ≠ mark) = true :=
    fun char member => decide_eq_true fun same => clear (same ▸ member)
  rw [List.takeWhile_append_of_pos unmarked, List.takeWhile_cons_of_neg (by simp), List.append_nil]

theorem dropWhile_before (clear : mark ∉ before) :
    (before ++ mark :: after).dropWhile (· ≠ mark) = mark :: after := by
  have unmarked : ∀ char ∈ before, decide (char ≠ mark) = true :=
    fun char member => decide_eq_true fun same => clear (same ▸ member)
  rw [List.dropWhile_append_of_pos unmarked, List.dropWhile_cons_of_neg (by simp)]

theorem takeWhile_unmarked (clear : mark ∉ before) : before.takeWhile (· ≠ mark) = before :=
  List.takeWhile_eq_self_iff.mpr
    fun _ member => decide_eq_true fun same => clear (same ▸ member)

theorem dropWhile_unmarked (clear : mark ∉ before) : before.dropWhile (· ≠ mark) = [] :=
  List.dropWhile_eq_nil_iff.mpr
    fun _ member => decide_eq_true fun same => clear (same ▸ member)

end Marks

/-- The exponent that a text spells behind an optional sign. -/
def exponentOf : List Char → Int
  | '-' :: digits => -(Nat.ofDigitChars 10 digits 0 : Int)
  | '+' :: digits => Nat.ofDigitChars 10 digits 0
  | digits => Nat.ofDigitChars 10 digits 0

/-- The decimal that a text spells: digits with at most one point among them, and an exponent behind
its mark. -/
def ofText (text : List Char) : Decimal :=
  let mantissa := text.takeWhile (· ≠ 'e')
  let fraction := (mantissa.dropWhile (· ≠ '.')).drop 1
  ⟨Nat.ofDigitChars 10 (mantissa.takeWhile (· ≠ '.') ++ fraction) 0,
    exponentOf ((text.dropWhile (· ≠ 'e')).drop 1) - fraction.length⟩

section Reading

variable {whole fraction : List Char}

private theorem unmarked (digits : AreDigits whole) (further : AreDigits fraction) :
    'e' ∉ whole ++ '.' :: fraction := by
  rw [List.mem_append, List.mem_cons]
  rintro (first | point | second)
  · exact digits.notMem rfl first
  · exact absurd point (by decide)
  · exact further.notMem rfl second

/-- What is spelled without an exponent. -/
theorem ofText_plain (digits : AreDigits whole) (further : AreDigits fraction) :
    ofText (whole ++ '.' :: fraction) =
      ⟨Nat.ofDigitChars 10 (whole ++ fraction) 0, -fraction.length⟩ := by
  have clear := unmarked digits further
  unfold ofText
  dsimp only
  rw [takeWhile_unmarked clear, dropWhile_unmarked clear,
    takeWhile_before _ (digits.notMem rfl), dropWhile_before _ (digits.notMem rfl)]
  simp only [List.drop_succ_cons, List.drop_zero, List.drop_nil, exponentOf, Nat.ofDigitChars_nil,
    Nat.cast_zero, zero_sub]

/-- What is spelled with an exponent. -/
theorem ofText_marked (digits : AreDigits whole) (further : AreDigits fraction)
    (exponent : List Char) : ofText (whole ++ '.' :: fraction ++ 'e' :: exponent) =
      ⟨Nat.ofDigitChars 10 (whole ++ fraction) 0, exponentOf exponent - fraction.length⟩ := by
  have clear := unmarked digits further
  unfold ofText
  dsimp only
  rw [takeWhile_before _ clear, dropWhile_before _ clear,
    takeWhile_before _ (digits.notMem rfl), dropWhile_before _ (digits.notMem rfl)]
  rfl

/-- What is spelled with an exponent, but without a point. -/
theorem ofText_pointless (digits : AreDigits whole) (exponent : List Char) :
    ofText (whole ++ 'e' :: exponent) = ⟨Nat.ofDigitChars 10 whole 0, exponentOf exponent⟩ := by
  have clear : 'e' ∉ whole := digits.notMem rfl
  have pointless : '.' ∉ whole := digits.notMem rfl
  unfold ofText
  dsimp only
  rw [takeWhile_before _ clear, dropWhile_before _ clear, takeWhile_unmarked pointless,
    dropWhile_unmarked pointless]
  simp only [List.drop_succ_cons, List.drop_zero, List.drop_nil, List.append_nil, List.length_nil,
    Nat.cast_zero, sub_zero]

end Reading

/-- A written exponent is read back. -/
theorem exponentOf_write (exponent : Int) :
    exponentOf (if exponent < 0 then '-' :: Nat.toDigits 10 exponent.natAbs
      else Number.layout.plus ++ Nat.toDigits 10 exponent.natAbs) = exponent := by
  split
  · change -((Nat.ofDigitChars 10 (Nat.toDigits 10 exponent.natAbs) 0 : Nat) : Int) = exponent
    rw [Nat.ofDigitChars_ten_toDigits]
    omega
  · change ((Nat.ofDigitChars 10 (Nat.toDigits 10 exponent.natAbs) 0 : Nat) : Int) = exponent
    rw [Nat.ofDigitChars_ten_toDigits]
    omega

section Layouts

variable {text : List Char} (digits : AreDigits text)

include digits

/-- Scientific notation, with or without a point. -/
theorem ofText_scientific (leading : Int) :
    ofText ((if text.length ≤ 1 then text else text.take 1 ++ '.' :: text.drop 1) ++ 'e' ::
      (if leading < 0 then '-' :: Nat.toDigits 10 leading.natAbs
        else Number.layout.plus ++ Nat.toDigits 10 leading.natAbs)) =
      ⟨Nat.ofDigitChars 10 text 0, leading - (text.length - 1 : Nat)⟩ := by
  split
  · rename_i single
    have none : text.length - 1 = 0 := Nat.sub_eq_zero_of_le single
    rw [ofText_pointless digits, exponentOf_write, none, Nat.cast_zero, sub_zero]
  · rw [ofText_marked (digits.take 1) (digits.drop 1), exponentOf_write, List.take_append_drop,
      List.length_drop]

/-- A whole number with its zeros and `.0`. -/
theorem value_ofText_whole (zeros : Nat) :
    (ofText (text ++ List.replicate zeros '0' ++ ['.', '0'])).value =
      (⟨Nat.ofDigitChars 10 text 0, zeros⟩ : Decimal).value := by
  have read := ofText_plain (digits.append (areDigits_replicate zeros)) (areDigits_replicate 1)
  change (ofText (text ++ List.replicate zeros '0' ++ '.' :: List.replicate 1 '0')).value = _
  rw [read, Nat.ofDigitChars_append, Nat.ofDigitChars_append, Nat.ofDigitChars_replicate_zero,
    Nat.ofDigitChars_replicate_zero, List.length_replicate, value, value, zpow_neg, zpow_natCast,
    zpow_natCast]
  push_cast
  field_simp

/-- A point among the digits. -/
theorem ofText_inside (count : Nat) : ofText (text.take count ++ '.' :: text.drop count) =
    ⟨Nat.ofDigitChars 10 text 0, -(text.length - count : Nat)⟩ := by
  rw [ofText_plain (digits.take count) (digits.drop count), List.take_append_drop,
    List.length_drop]

/-- A point before the digits and some zeros. -/
theorem ofText_small (zeros : Nat) :
    ofText ('0' :: '.' :: List.replicate zeros '0' ++ text) =
      ⟨Nat.ofDigitChars 10 text 0, -(zeros + text.length : Nat)⟩ := by
  have read := ofText_plain (areDigits_replicate 1) ((areDigits_replicate zeros).append digits)
  change ofText (List.replicate 1 '0' ++ '.' :: (List.replicate zeros '0' ++ text)) = _
  rw [read, Nat.ofDigitChars_append, Nat.ofDigitChars_append, Nat.ofDigitChars_replicate_zero,
    Nat.ofDigitChars_replicate_zero, Nat.mul_zero, List.length_append, List.length_replicate]

end Layouts

/-- The written form of a decimal spells its value. -/
theorem value_ofText_write (decimal : Decimal) :
    (ofText (Number.layout.write decimal)).value = decimal.value := by
  have digits := areDigits_toDigits decimal.digits
  have number : Nat.ofDigitChars 10 (Nat.toDigits 10 decimal.digits) 0 = decimal.digits :=
    Nat.ofDigitChars_ten_toDigits
  have some : 0 < (Nat.toDigits 10 decimal.digits).length := Nat.length_toDigits_pos
  unfold Layout.write
  dsimp only
  generalize Nat.toDigits 10 decimal.digits = text at *
  split
  · have exponent : (text.length : Int) - 1 + decimal.exponent - (text.length - 1 : Nat) =
        decimal.exponent := by omega
    rw [ofText_scientific digits, exponent, number]
  · split
    · rename_i positive
      rw [value_ofText_whole digits, number, Int.toNat_of_nonneg positive]
    · split
      · have exponent : -((text.length -
            ((text.length - 1 + decimal.exponent : Int).toNat + 1) : Nat) : Int) =
              decimal.exponent := by omega
        rw [ofText_inside digits, exponent, number]
      · have exponent : -(((-(text.length - 1 + decimal.exponent : Int) - 1).toNat +
            text.length : Nat) : Int) = decimal.exponent := by omega
        rw [ofText_small digits, exponent, number]

end Binary64.Decimal

namespace Number

open Binary64

/-- Digits, signs, the point and the exponent mark. -/
def isChar (char : Char) : Bool :=
  char.isDigit || char == '-' || char == '+' || char == '.' || char == 'e'

theorem isChar_of_areDigits {text : List Char} (digits : AreDigits text) :
    ∀ char ∈ text, isChar char = true := by
  intro char member
  rw [isChar, digits char member]
  rfl

/-- The written form of a decimal: digits, a mark that no integer has, and what follows it. -/
theorem shape_write (decimal : Decimal) : ∃ whole mark rest, AreDigits whole ∧ whole ≠ [] ∧
    (mark = '.' ∨ mark = 'e') ∧ (∀ char ∈ rest, isChar char = true) ∧
      layout.write decimal = whole ++ mark :: rest := by
  have digits := areDigits_toDigits decimal.digits
  have some : Nat.toDigits 10 decimal.digits ≠ [] := Nat.toDigits_ne_nil
  unfold Layout.write
  dsimp only
  generalize Nat.toDigits 10 decimal.digits = text at *
  generalize (text.length - 1 + decimal.exponent : Int) = leading
  have exponent : ∀ char ∈ if leading < 0 then '-' :: Nat.toDigits 10 leading.natAbs
      else layout.plus ++ Nat.toDigits 10 leading.natAbs, isChar char = true := by
    have tail := isChar_of_areDigits (areDigits_toDigits leading.natAbs)
    split
    · exact List.forall_mem_cons.mpr ⟨rfl, tail⟩
    · exact List.forall_mem_cons.mpr ⟨rfl, tail⟩
  split
  · split
    · exact ⟨text, 'e', _, digits, some, .inr rfl, exponent, rfl⟩
    · refine ⟨text.take 1, '.', _, digits.take 1, ?_, .inl rfl, ?_,
        List.append_assoc _ ('.' :: text.drop 1) _⟩
      · exact fun none => some (List.take_eq_nil_iff.mp none |>.resolve_left (by decide))
      · exact List.forall_mem_append.mpr ⟨isChar_of_areDigits (digits.drop 1),
          List.forall_mem_cons.mpr ⟨rfl, exponent⟩⟩
  · split
    · exact ⟨text ++ List.replicate decimal.exponent.toNat '0', '.', ['0'],
        digits.append (areDigits_replicate _), List.append_ne_nil_of_left_ne_nil some _, .inl rfl,
        isChar_of_areDigits (areDigits_replicate 1), rfl⟩
    · split
      · refine ⟨text.take (leading.toNat + 1), '.', text.drop (leading.toNat + 1), digits.take _,
          ?_, .inl rfl, isChar_of_areDigits (digits.drop _), rfl⟩
        exact fun none => some (List.take_eq_nil_iff.mp none |>.resolve_left (Nat.succ_ne_zero _))
      · exact ⟨['0'], '.', _, areDigits_replicate 1, List.cons_ne_nil _ _, .inl rfl,
          isChar_of_areDigits ((areDigits_replicate _).append digits), rfl⟩

/-- A text that begins with a digit has no sign. -/
private theorem ne_minus {whole : List Char} (digits : AreDigits whole) (some : whole ≠ [])
    (rest other : List Char) : whole ++ rest ≠ '-' :: other := by
  intro same
  cases whole with
  | nil => exact some rfl
  | cons first others =>
      have minus : first = '-' := (List.cons.inj same).1
      subst minus
      exact digits.notMem (by decide) List.mem_cons_self

/-- A text that begins with a digit tells whether a sign stands before it. -/
private theorem sign_inj {first second : Prop} [Decidable first] [Decidable second]
    {one two : List Char} (plain : ∀ other, one ≠ '-' :: other) (also : ∀ other, two ≠ '-' :: other)
    (same : (if first then '-' :: one else one) = if second then '-' :: two else two) :
    (first ↔ second) ∧ one = two := by
  split at same <;> split at same
  · exact ⟨iff_of_true ‹_› ‹_›, (List.cons.inj same).2⟩
  · exact absurd same.symm (also _)
  · exact absurd same (plain _)
  · exact ⟨iff_of_false ‹_› ‹_›, same⟩

private theorem toDigits_ne_minus (value : Nat) (other : List Char) :
    Nat.toDigits 10 value ≠ '-' :: other := by
  have plain := ne_minus (areDigits_toDigits value) Nat.toDigits_ne_nil [] other
  rwa [List.append_nil] at plain

private theorem write_ne_minus (decimal : Decimal) (other : List Char) :
    layout.write decimal ≠ '-' :: other := by
  obtain ⟨whole, mark, rest, digits, some, -, -, shape⟩ := shape_write decimal
  rw [shape]
  exact ne_minus digits some _ other

/-- A binary64 number is never written as an integer. -/
private theorem toDigits_ne_write (value : Nat) (decimal : Decimal) :
    Nat.toDigits 10 value ≠ layout.write decimal := by
  intro same
  obtain ⟨whole, mark, rest, digits, some, either, -, shape⟩ := shape_write decimal
  have member : mark ∈ Nat.toDigits 10 value := by
    rw [same, shape]
    exact List.mem_append_right _ List.mem_cons_self
  refine (areDigits_toDigits value).notMem ?_ member
  rcases either with rfl | rfl
  · rfl
  · rfl

/-- No two numbers have the same text. -/
theorem write_injective : Function.Injective write := by
  intro first second same
  cases first with
  | integer left =>
      cases second with
      | integer right =>
          obtain ⟨sign, digits⟩ := sign_inj (toDigits_ne_minus _) (toDigits_ne_minus _) same
          have magnitude := toDigits_injective digits
          congr 1
          omega
      | float right =>
          exact absurd (sign_inj (toDigits_ne_minus _) (write_ne_minus _) same).2
            (toDigits_ne_write _ _)
  | float left =>
      cases second with
      | integer right =>
          exact absurd (sign_inj (write_ne_minus _) (toDigits_ne_minus _) same).2.symm
            (toDigits_ne_write _ _)
      | float right =>
          obtain ⟨sign, magnitude⟩ := sign_inj (write_ne_minus _) (write_ne_minus _) same
          have values := congrArg (fun text => (Decimal.ofText text).value) magnitude
          simp only [Decimal.value_ofText_write] at values
          obtain ⟨negative, rank, finite⟩ := left
          obtain ⟨other, place, bound⟩ := right
          have equal : negative = other := Bool.eq_iff_iff.mpr sign
          have rank : rank = place := rank_eq_of_shortest values
          subst equal rank
          rfl

theorem isChar_of_mem_write (number : Number) : ∀ char ∈ number.write, isChar char = true := by
  have signed {negative : Prop} [Decidable negative] {text : List Char}
      (plain : ∀ char ∈ text, isChar char = true) :
      ∀ char ∈ if negative then '-' :: text else text, isChar char = true := by
    split
    · exact List.forall_mem_cons.mpr ⟨rfl, plain⟩
    · exact plain
  cases number with
  | integer value => exact signed (isChar_of_areDigits (areDigits_toDigits _))
  | float value =>
      obtain ⟨whole, mark, rest, digits, -, either, others, shape⟩ := shape_write value.shortest
      refine signed (shape ▸ List.forall_mem_append.mpr ⟨isChar_of_areDigits digits,
        List.forall_mem_cons.mpr ⟨?_, others⟩⟩)
      rcases either with rfl | rfl
      · rfl
      · rfl

theorem write_ne_nil (number : Number) : number.write ≠ [] := by
  cases number with
  | integer value =>
      change (if value < 0 then '-' :: _ else _) ≠ []
      split
      · exact List.cons_ne_nil _ _
      · exact Nat.toDigits_ne_nil
  | float value =>
      obtain ⟨whole, mark, rest, -, some, -, -, shape⟩ := shape_write value.shortest
      change (if value.negative = true then '-' :: layout.write _ else layout.write _) ≠ []
      split
      · exact List.cons_ne_nil _ _
      · rw [shape]
        exact List.append_ne_nil_of_left_ne_nil some _

end Number

end LiveSearch
