import LiveSearch.Json.Number

/-!
# JSON tokens

The scanner reads one character at a time.  Between two characters it stands in a `Scan.Place`,
and each character either leads to the next place, delivering the tokens it completes, or shows
that the text is not JSON.  Only space, tab, line feed and carriage return separate tokens.
-/

namespace LiveSearch

namespace Json

/-- A lexical unit of JSON text; literal names and numbers arrive as the value they denote. -/
inductive Token
  | openArray
  | closeArray
  | openObject
  | closeObject
  | comma
  | colon
  | text (value : String)
  | scalar (value : Json)

namespace Scan

/-- The white space between tokens. -/
def isBlank (char : Char) : Bool :=
  char = ' ' || char = '\t' || char = '\n' || char = '\r'

/-- The value of a hexadecimal digit. -/
def hexValue? (char : Char) : Option Nat :=
  if '0' ≤ char ∧ char ≤ '9' then some (char.toNat - '0'.toNat)
  else if 'a' ≤ char ∧ char ≤ 'f' then some (char.toNat - 'a'.toNat + 10)
  else if 'A' ≤ char ∧ char ≤ 'F' then some (char.toNat - 'A'.toNat + 10)
  else none

/-- The character that a one-letter escape stands for. -/
def escaped? : Char → Option Char
  | '"' => some '"'
  | '\\' => some '\\'
  | '/' => some '/'
  | 'b' => some '\x08'
  | 'f' => some '\x0c'
  | 'n' => some '\n'
  | 'r' => some '\r'
  | 't' => some '\t'
  | _ => none

/-- The token that a structural character is. -/
def structural? : Char → Option Token
  | '[' => some .openArray
  | ']' => some .closeArray
  | '\x7b' => some .openObject
  | '\x7d' => some .closeObject
  | ',' => some .comma
  | ':' => some .colon
  | _ => none

/-- Where the scanner stands.  Characters already read are kept latest first. -/
inductive Place
  | between
  /-- In a literal name or a number. -/
  | word (letters : List Char)
  /-- In a string. -/
  | quoted (chars : List Char)
  /-- After the backslash of an escape. -/
  | escape (chars : List Char)
  /-- In the digits of a four-digit escape; `high` is the first half of a surrogate pair. -/
  | digits (chars : List Char) (high : Option Nat) (count value : Nat)
  /-- After the first half of a surrogate pair, where the second half has to begin. -/
  | second (chars : List Char) (high : Nat)
  /-- After the backslash of the second half. -/
  | secondEscape (chars : List Char) (high : Nat)

/-- The token of a literal name or a number. -/
def wordToken? (letters : List Char) : Option Token :=
  match letters.reverse with
  | ['n', 'u', 'l', 'l'] => some (.scalar .null)
  | ['t', 'r', 'u', 'e'] => some (.scalar (.bool true))
  | ['f', 'a', 'l', 's', 'e'] => some (.scalar (.bool false))
  | chars => (Number.ofChars? chars).map (fun number => .scalar (.number number))

/-- The place after the last digit of a four-digit escape.  Surrogates count in pairs only. -/
def unit? (chars : List Char) (high : Option Nat) (value : Nat) : Option Place :=
  let isHigh := 0xD800 ≤ value && value < 0xDC00
  let isLow := 0xDC00 ≤ value && value < 0xE000
  match high with
  | none =>
    if isHigh then some (.second chars value)
    else if isLow then none
    else some (.quoted (Char.ofNat value :: chars))
  | some first =>
    if isLow then
      some (.quoted (Char.ofNat (0x10000 + (first - 0xD800) * 0x400 + (value - 0xDC00)) :: chars))
    else none

/-- Read a character that does not belong to a word. -/
def stepBetween (char : Char) : Option (Place × List Token) :=
  if isBlank char then some (.between, [])
  else if char = '"' then some (.quoted [], [])
  else match structural? char with
    | some token => some (.between, [token])
    | none => some (.word [char], [])

/-- Whether a character ends a literal name or a number. -/
def endsWord (char : Char) : Bool :=
  isBlank char || char = '"' || (structural? char).isSome

/-- Read one character: the next place and the tokens that are complete, or `none` if no JSON text
continues like this. -/
def step (place : Place) (char : Char) : Option (Place × List Token) :=
  match place with
  | .between => stepBetween char
  | .word letters =>
    if endsWord char then do
      let token ← wordToken? letters
      let (next, tokens) ← stepBetween char
      return (next, token :: tokens)
    else some (.word (char :: letters), [])
  | .quoted chars =>
    if char = '"' then some (.between, [.text (String.ofList chars.reverse)])
    else if char = '\\' then some (.escape chars, [])
    else if char.toNat < 0x20 then none
    else some (.quoted (char :: chars), [])
  | .escape chars =>
    if char = 'u' then some (.digits chars none 0 0, [])
    else (escaped? char).map fun plain => (.quoted (plain :: chars), [])
  | .digits chars high count value => do
    let digit ← hexValue? char
    let value := 16 * value + digit
    if count = 3 then
      let next ← unit? chars high value
      return (next, [])
    else return (.digits chars high (count + 1) value, [])
  | .second chars high => if char = '\\' then some (.secondEscape chars high, []) else none
  | .secondEscape chars high =>
    if char = 'u' then some (.digits chars (some high) 0 0, []) else none

/-- Read all characters, keeping the tokens latest first. -/
def run : Place → List Token → List Char → Option (List Token)
  | .between, done, [] => some done
  | .word letters, done, [] => (wordToken? letters).map (· :: done)
  | _, _, [] => none
  | place, done, char :: rest =>
    match step place char with
    | none => none
    | some (next, tokens) => run next (tokens.reverse ++ done) rest

end Scan

/-- The tokens of a text. -/
def tokens? (text : List Char) : Option (List Token) :=
  (Scan.run .between [] text).map List.reverse

end Json

end LiveSearch
