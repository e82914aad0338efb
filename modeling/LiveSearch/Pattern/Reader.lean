import LiveSearch.Pattern.Bracket
import LiveSearch.Unicode.Recent

/-!
# Reading patterns

The reader keeps the groups that are still open, innermost first, and the branches and items of
the group it is in.  One step takes one construct; a text without constructs is read character by
character.
-/

namespace LiveSearch

namespace Pattern

namespace Read

/-- A group that is still open, with what stood before it in the group around it. -/
structure GroupFrame where
  capturing : Bool
  changes : FlagChanges
  branches : List Tree
  items : List Tree
  ignoreBlank : Bool

/-- What has been read of a pattern; branches, items and names are kept latest first. -/
structure Draft where
  frames : List GroupFrame
  branches : List Tree
  items : List Tree
  ignoreBlank : Bool
  names : List (List Char)

/-- The draft before the first character. -/
def Draft.start : Draft := ⟨[], [], [], false, []⟩

/-- Add an item. -/
def Draft.add (draft : Draft) (item : Tree) : Draft := { draft with items := item :: draft.items }

/-- The tree of the group that the reader is in. -/
def Draft.tree (draft : Draft) : Tree :=
  .ofBranches (Tree.ofItems draft.items.reverse :: draft.branches).reverse

/-- Begin the next branch. -/
def Draft.branch (draft : Draft) : Draft :=
  { draft with branches := Tree.ofItems draft.items.reverse :: draft.branches, items := [] }

/-- Open a group. -/
def Draft.openGroup (draft : Draft) (capturing : Bool) (changes : FlagChanges) : Draft :=
  { draft with
    frames := ⟨capturing, changes, draft.branches, draft.items, draft.ignoreBlank⟩ :: draft.frames
    branches := []
    items := []
    ignoreBlank := (changes.value? .ignoreBlank).getD draft.ignoreBlank }

/-- Close a group. -/
def Draft.closeGroup (draft : Draft) : Option Draft :=
  match draft.frames with
  | [] => none
  | frame :: outer =>
    some { draft with
      frames := outer
      branches := frame.branches
      items := .group frame.capturing frame.changes draft.tree :: frame.items
      ignoreBlank := frame.ignoreBlank }

/-- Repeat the latest item.  Flags and the beginning of a branch cannot be repeated. -/
def Draft.repeatLast (draft : Draft) (least : Nat) (most : Option Nat) (greedy : Bool) :
    Option Draft :=
  match draft.items with
  | [] => none
  | .empty :: _ => none
  | .flags _ :: _ => none
  | item :: earlier => some { draft with items := .repetition item least most greedy :: earlier }

/-- The flag with this letter. -/
def flag? : Char → Option Flag
  | 'i' => some .ignoreCase
  | 'm' => some .multiLine
  | 's' => some .dotAll
  | 'U' => some .swapGreed
  | 'u' => some .unicode
  | 'R' => some .crlf
  | 'x' => some .ignoreBlank
  | _ => none

/-- How reading goes on behind the letters of flags. -/
inductive FlagEnd
  | colon
  | parenthesis

/-- Read flags up to a colon or a closing parenthesis.  No flag may occur twice, and at most one
hyphen, not in the last place, separates the flags to set from those to clear. -/
def flagLetters (value dangling : Bool) (changes : FlagChanges) :
    List Char → Option (FlagChanges × FlagEnd × List Char)
  | [] => none
  | char :: rest =>
    if char = ':' then if dangling then none else some (changes.reverse, .colon, rest)
    else if char = ')' then if dangling then none else some (changes.reverse, .parenthesis, rest)
    else if char = '-' then if value then flagLetters false true changes rest else none
    else match flag? char with
      | none => none
      | some flag =>
        if (changes.value? flag).isSome then none
        else flagLetters value false ((flag, value) :: changes) rest

/-- Whether a character may stand in the name of a group, in its first place or later. -/
def isNameChar (first : Bool) (char : Char) : Bool :=
  char = '_' || Unicode.Recent.alphabetic.holds char ||
    (!first && (char = '.' || char = '[' || char = ']' || Unicode.Recent.numbers.holds char))

/-- Read the name of a group. -/
def groupName (text : List Char) : Option (List Char × List Char) := do
  let (name, rest) ← Text.splitFirst? (· = '>') text
  match name with
  | [] => none
  | first :: others =>
    if isNameChar true first && others.all (isNameChar false) then some (name, rest) else none

/-- Read the beginning of a named group, behind the opening angle bracket. -/
def Draft.openNamed (draft : Draft) (text : List Char) : Option (Draft × List Char) := do
  let (name, rest) ← groupName text
  if draft.names.contains name then none
  else some ({ draft.openGroup true [] with names := name :: draft.names }, rest)

/-- Read the beginning of a group, or flags, behind the opening parenthesis.  Looking ahead and
behind is not supported. -/
def Draft.openParenthesis (draft : Draft) (text : List Char) : Option (Draft × List Char) :=
  match after draft.ignoreBlank text with
  | '?' :: '=' :: _ => none
  | '?' :: '!' :: _ => none
  | '?' :: '<' :: '=' :: _ => none
  | '?' :: '<' :: '!' :: _ => none
  | '?' :: 'P' :: '<' :: rest => draft.openNamed rest
  | '?' :: '<' :: rest => draft.openNamed rest
  | '?' :: rest =>
    match flagLetters true false [] rest with
    | none => none
    | some (changes, .colon, rest) => some (draft.openGroup false changes, rest)
    | some ([], .parenthesis, _) => none
    | some (changes, .parenthesis, rest) =>
      let ignoreBlank := (changes.value? .ignoreBlank).getD draft.ignoreBlank
      some ({ draft.add (.flags changes) with ignoreBlank }, rest)
  | rest => some (draft.openGroup true [], rest)

/-- A part outside brackets as a tree. -/
def Part.tree : Part → Tree
  | .single char => .single char
  | .anchor kind => .anchor kind
  | .short kind negated => .short kind negated
  | .property query negated => .property query negated

/-- Read one construct, whose first character is given. -/
def Draft.step (draft : Draft) (char : Char) (rest : List Char) : Option (Draft × List Char) :=
  let repeated (least : Nat) (most : Option Nat) : Option (Draft × List Char) :=
    let (greedy, rest) := greed rest
    (draft.repeatLast least most greedy).map fun draft => (draft, rest)
  match char with
  | '(' => draft.openParenthesis rest
  | ')' => draft.closeGroup.map fun draft => (draft, rest)
  | '|' => some (draft.branch, rest)
  | '[' => (bracket draft.ignoreBlank rest).map fun found => (draft.add found.1, found.2)
  | '?' => repeated 0 (some 1)
  | '*' => repeated 0 none
  | '+' => repeated 1 none
  | '\x7b' =>
    match bounds draft.ignoreBlank rest with
    | none => none
    | some (least, most, greedy, rest) =>
      (draft.repeatLast least most greedy).map fun draft => (draft, rest)
  | '\\' => (escape draft.ignoreBlank rest).map fun found => (draft.add found.1.tree, found.2)
  | '.' => some (draft.add .dot, rest)
  | '^' => some (draft.add (.anchor .lineStart), rest)
  | '$' => some (draft.add (.anchor .lineEnd), rest)
  | _ => some (draft.add (.single ⟨char, false⟩), rest)

/-- Read constructs until the text ends; each takes one character at least, so the length of the
text is fuel enough. -/
def Draft.run : Nat → Draft → List Char → Option Draft
  | 0, _, _ => none
  | fuel + 1, draft, text =>
    match after draft.ignoreBlank text with
    | [] => some draft
    | char :: rest =>
      match draft.step char rest with
      | none => none
      | some (draft, rest) => Draft.run fuel draft rest

end Read

/-- The greatest number of constructs around a part of a pattern. -/
def depthLimit : Nat := 250

/-- The tree that a text spells. -/
def Tree.ofText? (text : List Char) : Option Tree := do
  let draft ← Read.Draft.start.run (text.length + 1) text
  let tree := draft.tree
  if draft.frames.isEmpty && tree.depth ≤ depthLimit then some tree else none

end Pattern

end LiveSearch
