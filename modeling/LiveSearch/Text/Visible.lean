import LiveSearch.Unicode.Recent

/-!
# Quoted text without invisible characters

A text in quotation marks in which a reader can tell every character: control and format
characters, separators other than the space, unassigned code points, characters that are drawn as
nothing and marks that combine with their neighbour appear as escapes.
-/

namespace LiveSearch

namespace Text

open Unicode

/-- The halfwidth sound marks of kana, which extend the character before them but are drawn in a
place of their own. -/
def spacedMarks : CodeSet := ⟨[(0xFF9E, 0xFF9F)]⟩

/-- The code points that are not seen, or not by themselves. -/
def hiddenCodes : CodeSet :=
  .unions [Category.union [.control, .format, .privateUse], Category.union Category.separators,
    Recent.unassigned, Recent.graphemeExtend.diff spacedMarks,
    Property.defaultIgnorableCodePoint.codes]

/-- The escape of a character by its code point. -/
def codeEscape (char : Char) : List Char :=
  '\\' :: 'u' :: '\x7b' :: (Nat.toDigits 16 char.toNat ++ ['\x7d'])

/-- A character inside quotation marks. -/
def visibleChar (char : Char) : List Char :=
  match char with
  | '\x00' => ['\\', '0']
  | '\t' => ['\\', 't']
  | '\r' => ['\\', 'r']
  | '\n' => ['\\', 'n']
  | '\\' => ['\\', '\\']
  | '"' => ['\\', '"']
  | ' ' => [' ']
  | _ => if hiddenCodes.holds char then codeEscape char else [char]

/-- A text in quotation marks. -/
def visible (text : String) : String :=
  String.ofList ('"' :: (text.toList.flatMap visibleChar ++ ['"']))

end Text

end LiveSearch
