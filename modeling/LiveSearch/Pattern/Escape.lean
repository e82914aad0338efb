import LiveSearch.Pattern.Tree
import LiveSearch.Text.Blank

/-!
# Escapes in patterns

What may follow a backslash, inside and outside brackets, and the counts of repetitions.  In the
mode that ignores blanks, white space and comments may stand between the characters of a
construct; `after` skips them.  Every reader takes the text behind the characters already
recognised and gives back what it has not used.
-/

namespace LiveSearch

namespace Pattern

namespace Read

/-- The text behind white space and comments.  A comment runs from a hash sign to the end of its
line. -/
def skipBlank (inComment : Bool) : List Char → List Char
  | [] => []
  | char :: rest =>
    if inComment then skipBlank (char ≠ '\n') rest
    else if Text.isBlank char then skipBlank false rest
    else if char = '#' then skipBlank true rest
    else char :: rest

/-- The text where reading goes on, with blanks skipped if they are ignored. -/
def after (ignoreBlank : Bool) (text : List Char) : List Char :=
  if ignoreBlank then skipBlank false text else text

/-- Characters that stand for a construct unless they are escaped. -/
def isMeta (char : Char) : Bool :=
  ['\\', '.', '+', '*', '?', '(', ')', '|', '[', ']', '\x7b', '\x7d', '^', '$', '#', '&', '-',
    '~'].contains char

/-- Characters that a backslash may precede without effect. -/
def isEscapable (char : Char) : Bool :=
  isMeta char || (char.toNat < 0x80 && !char.isAlphanum && char ≠ '<' && char ≠ '>')

/-- The value of a hexadecimal digit. -/
def hexValue? (char : Char) : Option Nat :=
  if '0' ≤ char ∧ char ≤ '9' then some (char.toNat - '0'.toNat)
  else if 'a' ≤ char ∧ char ≤ 'f' then some (char.toNat - 'a'.toNat + 10)
  else if 'A' ≤ char ∧ char ≤ 'F' then some (char.toNat - 'A'.toNat + 10)
  else none

/-- The character with a code point; surrogates and larger numbers have none. -/
def char? (code : Nat) : Option Char := if code.isValidChar then some (Char.ofNat code) else none

/-- What a single escape or a plain character stands for. -/
inductive Part
  | single (char : Written)
  | anchor (kind : Anchor)
  | short (kind : ShortClass) (negated : Bool)
  | property (query : PropertyQuery) (negated : Bool)

/-- A character that is not given by two hexadecimal digits. -/
def Part.plain (char : Char) : Part := .single ⟨char, false⟩

/-- Read the given number of hexadecimal digits. -/
def hexDigits (ignoreBlank : Bool) : Nat → Nat → List Char → Option (Nat × List Char)
  | 0, value, text => some (value, text)
  | count + 1, value, text =>
    match text with
    | [] => none
    | char :: rest =>
      match hexValue? char with
      | none => none
      | some digit => hexDigits ignoreBlank count (16 * value + digit) (after ignoreBlank rest)

/-- Read hexadecimal digits up to a closing brace; there has to be one digit at least. -/
def hexBraced (ignoreBlank : Bool) : Nat → Option Nat → List Char → Option (Nat × List Char)
  | 0, _, _ => none
  | fuel + 1, value, text =>
    match text with
    | [] => none
    | '\x7d' :: rest => value.map fun code => (code, after ignoreBlank rest)
    | char :: rest =>
      match hexValue? char with
      | none => none
      | some digit =>
        hexBraced ignoreBlank fuel (some (16 * value.getD 0 + digit)) (after ignoreBlank rest)

/-- Read a code point, behind the letter that announces it. -/
def hexPart (ignoreBlank : Bool) (count : Nat) (text : List Char) : Option (Part × List Char) :=
  match after ignoreBlank text with
  | '\x7b' :: rest => do
    let (code, rest) ← hexBraced ignoreBlank (rest.length + 1) none (after ignoreBlank rest)
    let char ← char? code
    return (.plain char, rest)
  | text => do
    let (code, rest) ← hexDigits ignoreBlank count 0 text
    let char ← char? code
    return (.single ⟨char, count = 2⟩, rest)

/-- Read the name of a property up to the closing brace. -/
def bracedName (ignoreBlank : Bool) :
    Nat → List Char → List Char → Option (List Char × List Char)
  | 0, _, _ => none
  | fuel + 1, name, text =>
    match text with
    | [] => none
    | '\x7d' :: rest => some (name.reverse, rest)
    | char :: rest => bracedName ignoreBlank fuel (char :: name) (after ignoreBlank rest)

/-- The parts of a text around the first exclamation mark that an equals sign follows. -/
def splitUnequal? : List Char → Option (List Char × List Char)
  | '!' :: '=' :: rest => some ([], rest)
  | char :: rest => (splitUnequal? rest).map fun parts => (char :: parts.1, parts.2)
  | [] => none

/-- The query that a braced name spells, and whether it asks for the opposite. -/
def propertyQuery (name : List Char) : PropertyQuery × Bool :=
  let valued (parts : List Char × List Char) : PropertyQuery :=
    .valued (String.ofList parts.1) (String.ofList parts.2)
  match splitUnequal? name with
  | some parts => (valued parts, true)
  | none =>
    match Text.splitFirst? (· = ':') name with
    | some parts => (valued parts, false)
    | none =>
      match Text.splitFirst? (· = '=') name with
      | some parts => (valued parts, false)
      | none => (.named (String.ofList name), false)

/-- Read a property, behind the letter that announces it. -/
def propertyPart (ignoreBlank negated : Bool) (text : List Char) : Option (Part × List Char) :=
  match after ignoreBlank text with
  | [] => none
  | '\x7b' :: rest => do
    let (name, rest) ← bracedName ignoreBlank (rest.length + 1) [] (after ignoreBlank rest)
    let (query, opposite) := propertyQuery name
    return (.property query (negated != opposite), rest)
  | '\\' :: _ => none
  | char :: rest =>
    some (.property (.named (String.singleton char)) negated, after ignoreBlank rest)

/-- Whether a character may stand in the name of a special word boundary. -/
def isBoundaryLetter (char : Char) : Bool := char.isAlpha || char = '-'

/-- Read the name of a special word boundary up to the closing brace. -/
def boundaryName (ignoreBlank : Bool) :
    Nat → List Char → List Char → Option (List Char × List Char)
  | 0, _, _ => none
  | fuel + 1, name, text =>
    match text with
    | [] => none
    | char :: rest =>
      if isBoundaryLetter char then
        boundaryName ignoreBlank fuel (char :: name) (after ignoreBlank rest)
      else if char = '\x7d' then some (name.reverse, rest)
      else none

/-- The special word boundary with this name. -/
def boundary? (name : String) : Option Anchor :=
  if name = "start" then some .wordStart
  else if name = "end" then some .wordEnd
  else if name = "start-half" then some .wordStartHalf
  else if name = "end-half" then some .wordEndHalf
  else none

/-- Read a word boundary, behind its letter.  A brace that no name follows begins a count. -/
def boundaryPart (ignoreBlank : Bool) (text : List Char) : Option (Part × List Char) :=
  match text with
  | '\x7b' :: inside =>
    match after ignoreBlank inside with
    | [] => none
    | char :: rest =>
      if isBoundaryLetter char then do
        let (name, rest) ← boundaryName ignoreBlank (rest.length + 2) [] (char :: rest)
        let kind ← boundary? (String.ofList name)
        return (.anchor kind, rest)
      else some (.anchor .wordBoundary, text)
  | _ => some (.anchor .wordBoundary, text)

/-- Read an escape, behind its backslash. -/
def escape (ignoreBlank : Bool) : List Char → Option (Part × List Char)
  | [] => none
  | char :: rest =>
    match char with
    | 'x' => hexPart ignoreBlank 2 rest
    | 'u' => hexPart ignoreBlank 4 rest
    | 'U' => hexPart ignoreBlank 8 rest
    | 'p' => propertyPart ignoreBlank false rest
    | 'P' => propertyPart ignoreBlank true rest
    | 'd' => some (.short .digit false, rest)
    | 'D' => some (.short .digit true, rest)
    | 's' => some (.short .space false, rest)
    | 'S' => some (.short .space true, rest)
    | 'w' => some (.short .word false, rest)
    | 'W' => some (.short .word true, rest)
    | 'a' => some (.plain '\x07', rest)
    | 'f' => some (.plain '\x0c', rest)
    | 't' => some (.plain '\t', rest)
    | 'n' => some (.plain '\n', rest)
    | 'r' => some (.plain '\r', rest)
    | 'v' => some (.plain '\x0b', rest)
    | 'A' => some (.anchor .textStart, rest)
    | 'z' => some (.anchor .textEnd, rest)
    | 'b' => boundaryPart ignoreBlank rest
    | 'B' => some (.anchor .noWordBoundary, rest)
    | '<' => some (.anchor .wordStart, rest)
    | '>' => some (.anchor .wordEnd, rest)
    | _ => if isEscapable char then some (.plain char, rest) else none

/-- Read the digits of a count. -/
def countDigits (ignoreBlank : Bool) : Nat → List Char → List Char → List Char × List Char
  | 0, digits, text => (digits.reverse, text)
  | fuel + 1, digits, text =>
    match text with
    | [] => (digits.reverse, [])
    | char :: rest =>
      if char.isDigit then countDigits ignoreBlank fuel (char :: digits) (after ignoreBlank rest)
      else (digits.reverse, text)

/-- Skip white space and, if blanks are ignored, comments behind it. -/
def skipSpaces (ignoreBlank : Bool) : Nat → List Char → List Char
  | 0, text => text
  | fuel + 1, text =>
    match text with
    | [] => []
    | char :: rest =>
      if Text.isBlank char then skipSpaces ignoreBlank fuel (after ignoreBlank rest) else text

/-- Read a count: decimal digits of a number of 32 bits with white space around them. -/
def count (ignoreBlank : Bool) (text : List Char) : Option (Nat × List Char) :=
  let text := Text.trimStart text
  let (digits, rest) := countDigits ignoreBlank (text.length + 1) [] text
  let rest := skipSpaces ignoreBlank (rest.length + 1) rest
  let value := digits.foldl (fun value digit => 10 * value + (digit.toNat - '0'.toNat)) 0
  if digits = [] ∨ 0x100000000 ≤ value then none else some (value, rest)

/-- Whether a repetition is greedy: a question mark behind it makes it reluctant. -/
def greed : List Char → Bool × List Char
  | '?' :: rest => (false, rest)
  | rest => (true, rest)

/-- Read the bounds of a repetition and its greed, behind the opening brace. -/
def bounds (ignoreBlank : Bool) (text : List Char) :
    Option (Nat × Option Nat × Bool × List Char) := do
  let (least, rest) ← count ignoreBlank (after ignoreBlank text)
  let (most, rest) ← match rest with
    | ',' :: rest =>
      match after ignoreBlank rest with
      | '\x7d' :: rest => some (none, '\x7d' :: rest)
      | rest => (count ignoreBlank rest).map fun found => (some found.1, found.2)
    | rest => some (some least, rest)
  match rest with
  | '\x7d' :: rest =>
    let (greedy, rest) := greed (after ignoreBlank rest)
    if most.any (· < least) then none else some (least, most, greedy, rest)
  | _ => none

end Read

end Pattern

end LiveSearch
