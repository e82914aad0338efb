import LiveSearch.Pattern.Escape

/-!
# Bracketed sets in patterns

A bracketed set is read with a list of the sets and combinations that are still open.  Two
ampersands, hyphens or tildes combine everything on their left in the same brackets with
everything on their right.
-/

namespace LiveSearch

namespace Pattern

namespace Read

/-- A set or combination that is still open. -/
inductive SetFrame
  /-- Brackets that opened after these items. -/
  | opened (items : List SetItem) (negated : Bool)
  /-- A combination whose right side is being read. -/
  | combined (operation : SetOperation) (left : SetContent)

/-- What has been read of a set: the open frames, innermost first, and the items since the last
bracket or combination, latest first. -/
structure SetDraft where
  frames : List SetFrame
  items : List SetItem

/-- The set with this name. -/
def asciiClass? (name : String) : Option AsciiClass :=
  [("alnum", .alnum), ("alpha", .alpha), ("ascii", .ascii), ("blank", .blank), ("cntrl", .cntrl),
    ("digit", .digit), ("graph", .graph), ("lower", .lower), ("print", .print),
    ("punct", .punct), ("space", .space), ("upper", .upper), ("word", .word),
    ("xdigit", AsciiClass.xdigit)].lookup name

/-- Read a named set such as `[:alpha:]`, behind its opening bracket; `none` if the bracket opens
an ordinary set. -/
def asciiItem? (text : List Char) : Option (SetItem × List Char) := do
  let rest ← match text with
    | ':' :: rest => some rest
    | _ => none
  let (negated, rest) := match rest with
    | '^' :: rest => (true, rest)
    | rest => (false, rest)
  let (name, rest) ← Text.splitFirst? (· = ':') rest
  match rest with
  | ']' :: rest => (asciiClass? (String.ofList name)).map fun kind => (.ascii kind negated, rest)
  | _ => none

/-- Read the hyphens that stand literally at the beginning of a set. -/
def leadingHyphens (ignoreBlank : Bool) : Nat → List SetItem → List Char →
    List SetItem × List Char
  | 0, items, text => (items, text)
  | fuel + 1, items, text =>
    match text with
    | '-' :: rest =>
      leadingHyphens ignoreBlank fuel (.single ⟨'-', false⟩ :: items) (after ignoreBlank rest)
    | _ => (items, text)

/-- Read the beginning of a set, behind its opening bracket: a caret, literal hyphens, and a closing
bracket that stands literally in the first place. -/
def openSet (ignoreBlank : Bool) (text : List Char) :
    Bool × List SetItem × List Char :=
  let text := after ignoreBlank text
  let (negated, text) := match text with
    | '^' :: rest => (true, after ignoreBlank rest)
    | text => (false, text)
  let (items, text) := leadingHyphens ignoreBlank (text.length + 1) [] text
  match items, text with
  | [], ']' :: rest => (negated, [.single ⟨']', false⟩], after ignoreBlank rest)
  | items, text => (negated, items, text)

/-- The content of a set up to here: the pending combination, or the items alone. -/
def SetDraft.content (draft : SetDraft) : SetContent × List SetFrame :=
  match draft.frames with
  | .combined operation left :: outer =>
    (.operation operation left (.items draft.items.reverse), outer)
  | frames => (.items draft.items.reverse, frames)

/-- Begin the right side of a combination. -/
def SetDraft.combine (draft : SetDraft) (operation : SetOperation) : SetDraft :=
  let (content, outer) := draft.content
  ⟨.combined operation content :: outer, []⟩

/-- Close the innermost brackets: either the set is complete or it is an item of the next one. -/
def SetDraft.close (draft : SetDraft) : Option ((Bool × SetContent) ⊕ SetDraft) :=
  match draft.content with
  | (content, [.opened _ negated]) => some (.inl (negated, content))
  | (content, .opened items negated :: outer) =>
    some (.inr ⟨outer, .nested negated content :: items⟩)
  | _ => none

/-- One end of a range or a single part, escaped or plain. -/
def setPart (ignoreBlank : Bool) : List Char → Option (Part × List Char)
  | [] => none
  | '\\' :: rest => escape ignoreBlank rest
  | char :: rest => some (.plain char, rest)

/-- A part as an item; conditions on places are no items. -/
def Part.item? : Part → Option SetItem
  | .single char => some (.single char)
  | .short kind negated => some (.short kind negated)
  | .property query negated => some (.property query negated)
  | .anchor _ => none

/-- The character that decides whether a hyphen begins a range. -/
def peekBehind (ignoreBlank : Bool) (text : List Char) : Option Char :=
  if ignoreBlank then
    let skipped := match Text.trimStart text with
      | '#' :: rest => Text.trimStart rest
      | rest => rest
    (skipped.head?).or text.head?
  else text.head?

/-- Whether a range goes on behind its first end: a hyphen follows, and neither a closing bracket
nor a second hyphen comes next. -/
def continuesRange (ignoreBlank : Bool) : List Char → Bool
  | '-' :: rest =>
    let next := peekBehind ignoreBlank rest
    next ≠ some ']' && next ≠ some '-'
  | _ => false

/-- Read a range or a single part. -/
def setItem (ignoreBlank : Bool) (text : List Char) : Option (SetItem × List Char) := do
  let (first, rest) ← setPart ignoreBlank text
  let rest := after ignoreBlank rest
  if continuesRange ignoreBlank rest then
    let (second, rest) ← setPart ignoreBlank (after ignoreBlank rest.tail)
    match first, second with
    | .single low, .single high =>
      if low.char ≤ high.char then some (.range low high, rest) else none
    | _, _ => none
  else
    let item ← first.item?
    return (item, rest)

/-- Read a set to its closing bracket. -/
def setBody (ignoreBlank : Bool) : Nat → SetDraft → List Char →
    Option ((Bool × SetContent) × List Char)
  | 0, _, _ => none
  | fuel + 1, draft, text =>
    let add (found : SetItem × List Char) : Option ((Bool × SetContent) × List Char) :=
      setBody ignoreBlank fuel { draft with items := found.1 :: draft.items } found.2
    match after ignoreBlank text with
    | [] => none
    | '[' :: rest =>
      match asciiItem? rest with
      | some found => add found
      | none =>
        let (negated, items, rest) := openSet ignoreBlank rest
        setBody ignoreBlank fuel ⟨.opened draft.items negated :: draft.frames, items⟩ rest
    | ']' :: rest =>
      match draft.close with
      | none => none
      | some (.inl complete) => some (complete, rest)
      | some (.inr outer) => setBody ignoreBlank fuel outer rest
    | '&' :: '&' :: rest => setBody ignoreBlank fuel (draft.combine .inter) rest
    | '-' :: '-' :: rest => setBody ignoreBlank fuel (draft.combine .diff) rest
    | '~' :: '~' :: rest => setBody ignoreBlank fuel (draft.combine .symmDiff) rest
    | text =>
      match setItem ignoreBlank text with
      | none => none
      | some found => add found

/-- Read a set, behind its opening bracket. -/
def bracket (ignoreBlank : Bool) (text : List Char) : Option (Tree × List Char) := do
  let (negated, items, rest) := openSet ignoreBlank text
  let ((negated, content), rest) ←
    setBody ignoreBlank (rest.length + 1) ⟨[.opened [] negated], items⟩ rest
  return (.bracket negated content, rest)

end Read

end Pattern

end LiveSearch
