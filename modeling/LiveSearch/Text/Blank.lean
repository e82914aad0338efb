/-!
# White space in text

The characters with the Unicode property White_Space, and the two ways in which text is cut at
them: trimming both ends, and splitting at the first one.
-/

namespace LiveSearch

namespace Text

/-- Whether a character has the property White_Space. -/
def isBlank (char : Char) : Bool :=
  let code := char.toNat
  (9 ≤ code && code ≤ 13) || code == 0x20 || code == 0x85 || code == 0xA0 || code == 0x1680 ||
    (0x2000 ≤ code && code ≤ 0x200A) || code == 0x2028 || code == 0x2029 || code == 0x202F ||
    code == 0x205F || code == 0x3000

/-- The text without the white space at its beginning. -/
def trimStart (text : List Char) : List Char := text.dropWhile isBlank

/-- The text without the white space at its end. -/
def trimEnd (text : List Char) : List Char := (text.reverse.dropWhile isBlank).reverse

/-- The text without the white space at both ends. -/
def trim (text : List Char) : List Char := trimEnd (trimStart text)

/-- The parts before and after the first character that passes a test. -/
def splitFirst? (test : Char → Bool) : List Char → Option (List Char × List Char)
  | [] => none
  | char :: rest =>
    if test char then some ([], rest)
    else (splitFirst? test rest).map fun parts => (char :: parts.1, parts.2)

/-- A letter of the basic Latin alphabet in lower case; all other characters stay. -/
def lowerAscii (text : List Char) : List Char := text.map Char.toLower

end Text

end LiveSearch
