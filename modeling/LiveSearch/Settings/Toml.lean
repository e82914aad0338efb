import LiveSearch.Text.Blank

/-!
# Settings files

A settings file is a TOML document in which every value is a string.  `Toml.entries?` reads its
keys and values and refuses every other document, one that gives a key twice included.
`Toml.writeString` chooses the plainest of the four notations for a string that can hold it.
-/

namespace LiveSearch

namespace Toml

/-- Whether a character may stand for itself inside strings and comments. -/
def isPlain (char : Char) : Bool := char = '\t' || (0x20 ≤ char.toNat && char.toNat ≠ 0x7F)

/-- The text behind spaces and tabs. -/
def skipSpaces (text : List Char) : List Char :=
  text.dropWhile fun char => char = ' ' || char = '\t'

/-- The text behind a line end, which is a line feed with or without a carriage return. -/
def lineEnd? : List Char → Option (List Char)
  | '\n' :: rest => some rest
  | '\r' :: '\n' :: rest => some rest
  | _ => none

/-- The text of the next line, behind spaces and a comment. -/
def nextLine? (text : List Char) : Option (List Char) :=
  let rest := match skipSpaces text with
    | '#' :: comment => comment.dropWhile isPlain
    | rest => rest
  if rest = [] then some [] else lineEnd? rest

/-- The value of a hexadecimal digit. -/
def hexValue? (char : Char) : Option Nat :=
  if '0' ≤ char ∧ char ≤ '9' then some (char.toNat - '0'.toNat)
  else if 'a' ≤ char ∧ char ≤ 'f' then some (char.toNat - 'a'.toNat + 10)
  else if 'A' ≤ char ∧ char ≤ 'F' then some (char.toNat - 'A'.toNat + 10)
  else none

/-- Read the given number of hexadecimal digits of a code point. -/
def codePoint? : Nat → Nat → List Char → Option (Char × List Char)
  | 0, value, text => if value.isValidChar then some (Char.ofNat value, text) else none
  | count + 1, value, text =>
    match text with
    | [] => none
    | char :: rest => (hexValue? char).bind fun digit => codePoint? count (16 * value + digit) rest

/-- Read an escape, behind its backslash. -/
def escape? : List Char → Option (Char × List Char)
  | 'b' :: rest => some ('\x08', rest)
  | 't' :: rest => some ('\t', rest)
  | 'n' :: rest => some ('\n', rest)
  | 'f' :: rest => some ('\x0c', rest)
  | 'r' :: rest => some ('\r', rest)
  | 'e' :: rest => some ('\x1b', rest)
  | '"' :: rest => some ('"', rest)
  | '\\' :: rest => some ('\\', rest)
  | 'x' :: rest => codePoint? 2 0 rest
  | 'u' :: rest => codePoint? 4 0 rest
  | 'U' :: rest => codePoint? 8 0 rest
  | _ => none

/-- Read a one-line string with escapes, behind its opening quotation mark. -/
def basic? : Nat → List Char → List Char → Option (List Char × List Char)
  | 0, _, _ => none
  | fuel + 1, done, text =>
    match text with
    | '"' :: rest => some (done.reverse, rest)
    | '\\' :: rest => (escape? rest).bind fun found => basic? fuel (found.1 :: done) found.2
    | char :: rest => if isPlain char then basic? fuel (char :: done) rest else none
    | [] => none

/-- Read a one-line string without escapes, behind its opening apostrophe. -/
def literal? (text : List Char) : Option (List Char × List Char) :=
  match text.dropWhile fun char => char ≠ '\'' && isPlain char with
  | '\'' :: rest => some (text.takeWhile fun char => char ≠ '\'' && isPlain char, rest)
  | _ => none

/-- The text behind blanks and line ends.  A carriage return alone ends no line. -/
def skipLines : List Char → List Char
  | ' ' :: rest => skipLines rest
  | '\t' :: rest => skipLines rest
  | '\n' :: rest => skipLines rest
  | '\r' :: '\n' :: rest => skipLines rest
  | rest => rest

/-- The text behind the line ends and blanks that a backslash at the end of a line joins; `none` if
no line ends here. -/
def joinedLine? (text : List Char) : Option (List Char) :=
  (lineEnd? (skipSpaces text)).map skipLines

/-- Whether a character may stand for itself in a string of several lines, given the text behind it:
a line end is kept as it is written. -/
def isLinesPlain (char : Char) (rest : List Char) : Bool :=
  isPlain char || char = '\n' || (char = '\r' && rest.head? = some '\n')

/-- Read a string of several lines, behind its three opening marks.  It ends with three marks; up to
two more belong to the text. -/
def lines? (mark : Char) (escapes : Bool) :
    Nat → List Char → List Char → Option (List Char × List Char)
  | 0, _, _ => none
  | fuel + 1, done, text =>
    match text with
    | [] => none
    | char :: rest =>
      if char = mark then
        let marks := text.takeWhile (· = mark)
        if 3 ≤ marks.length then
          let inside := min (marks.length - 3) 2
          some ((List.replicate inside mark ++ done).reverse, text.drop (inside + 3))
        else lines? mark escapes fuel (marks ++ done) (text.drop marks.length)
      else if char = '\\' && escapes then
        match joinedLine? rest with
        | some rest => lines? mark escapes fuel done rest
        | none =>
          (escape? rest).bind fun found => lines? mark escapes fuel (found.1 :: done) found.2
      else if isLinesPlain char rest then lines? mark escapes fuel (char :: done) rest
      else none

/-- The text behind a line end in the first place, if there is one. -/
def skipLineEnd (text : List Char) : List Char := (lineEnd? text).getD text

/-- Read a value, which has to be a string. -/
def value? (text : List Char) : Option (List Char × List Char) :=
  match text with
  | '"' :: '"' :: '"' :: rest => lines? '"' true (rest.length + 1) [] (skipLineEnd rest)
  | '\'' :: '\'' :: '\'' :: rest => lines? '\'' false (rest.length + 1) [] (skipLineEnd rest)
  | '"' :: rest => basic? (rest.length + 1) [] rest
  | '\'' :: rest => literal? rest
  | _ => none

/-- Whether a character may stand in a bare key. -/
def isBareKey (char : Char) : Bool := char.isAlphanum || char = '_' || char = '-'

/-- Read a key: bare or quoted. -/
def key? (text : List Char) : Option (List Char × List Char) :=
  match text with
  | '"' :: rest => basic? (rest.length + 1) [] rest
  | '\'' :: rest => literal? rest
  | _ =>
    match text.takeWhile isBareKey with
    | [] => none
    | key => some (key, text.dropWhile isBareKey)

/-- Read the entries from the beginning of a line on. -/
def entriesFrom? : Nat → List (String × String) → List Char → Option (List (String × String))
  | 0, _, _ => none
  | fuel + 1, done, text =>
    match skipSpaces text with
    | [] => some done.reverse
    | start =>
      match nextLine? start with
      | some rest => entriesFrom? fuel done rest
      | none => do
        let (key, rest) ← key? start
        let rest ← match skipSpaces rest with
          | '=' :: rest => some (skipSpaces rest)
          | _ => none
        let (value, rest) ← value? rest
        let rest ← nextLine? rest
        let name := String.ofList key
        if (done.lookup name).isSome then none
        else entriesFrom? fuel ((name, String.ofList value) :: done) rest

/-- The keys and values of a document, which may begin with a byte order mark. -/
def entries? (text : String) : Option (List (String × String)) :=
  let chars := match text.toList with
    | '\ufeff' :: rest => rest
    | chars => chars
  entriesFrom? (chars.length + 1) [] chars

/-- The length of the longest run of a character. -/
def longestRun (mark : Char) (text : List Char) : Nat :=
  (text.foldl (fun (run : Nat × Nat) char =>
    if char = mark then (run.1 + 1, max run.2 (run.1 + 1)) else (0, run.2)) (0, 0)).2

/-- The four notations of a string. -/
inductive Notation
  | basic
  | literal
  | basicLines
  | literalLines

/-- The plainest notation that can hold a string: without escapes if possible, and on one line if
possible. -/
def notationOf (text : List Char) : Notation :=
  let newline := text.contains '\n'
  let backslash := text.contains '\\'
  let control := text.any fun char => !isPlain char && char ≠ '\n'
  let quotes := longestRun '"' text
  let apostrophes := longestRun '\'' text
  if !control && !backslash && quotes == 0 && !newline then .basic
  else if !control && apostrophes == 0 && !newline then .literal
  else if !control && !backslash && quotes ≤ 2 then .basicLines
  else if !control && apostrophes ≤ 2 then .literalLines
  else if newline then .basicLines
  else .basic

/-- The escape of a control character: four upper-case hexadecimal digits. -/
def controlEscape (char : Char) : List Char :=
  let digits := (Nat.toDigits 16 char.toNat).map Char.toUpper
  '\\' :: 'u' :: (List.replicate (4 - digits.length) '0' ++ digits)

/-- The inside of a string with escapes; `run` counts the quotation marks just written, of which
`allowed` may stand together. -/
def writeBasic (lines : Bool) (allowed run : Nat) : List Char → List Char
  | [] => []
  | char :: rest =>
    if char = '"' then
      if run < allowed then '"' :: writeBasic lines allowed (run + 1) rest
      else '\\' :: '"' :: writeBasic lines allowed 0 rest
    else
      let written := match char with
        | '\x08' => ['\\', 'b']
        | '\t' => ['\\', 't']
        | '\n' => if lines then ['\n'] else ['\\', 'n']
        | '\x0c' => ['\\', 'f']
        | '\r' => ['\\', 'r']
        | '\\' => ['\\', '\\']
        | _ => if isPlain char then [char] else controlEscape char
      written ++ writeBasic lines allowed 0 rest

/-- A string value.  A line feed behind three opening marks is no part of the string, and stands
there if the string has more than one line. -/
def writeString (text : List Char) : List Char :=
  let start := if text.contains '\n' then ['\n'] else []
  match notationOf text with
  | .basic => '"' :: (writeBasic false 0 0 text ++ ['"'])
  | .literal => '\'' :: (text ++ ['\''])
  | .basicLines => "\"\"\"".toList ++ start ++ writeBasic true 2 0 text ++ "\"\"\"".toList
  | .literalLines => "'''".toList ++ start ++ text ++ "'''".toList

/-- A line that gives a key a value. -/
def writeEntry (key value : String) : String :=
  key ++ " = " ++ String.ofList (writeString value.toList) ++ "\n"

end Toml

end LiveSearch
