/-!
# Pattern trees

The written structure of a pattern.  Flags are kept where they are written; they take effect when
a tree is given its meaning.  `Tree.depth` counts the constructs around the innermost part, which
the depth limit bounds.
-/

namespace LiveSearch

namespace Pattern

/-- A switch that changes how later parts of a pattern are understood. -/
inductive Flag
  | ignoreCase
  | multiLine
  | dotAll
  | swapGreed
  | unicode
  | crlf
  | ignoreBlank
deriving DecidableEq

/-- Flags with the value each is set to; no flag occurs twice. -/
abbrev FlagChanges := List (Flag × Bool)

/-- The value that changes give to a flag. -/
def FlagChanges.value? (changes : FlagChanges) (flag : Flag) : Option Bool :=
  (changes.find? (·.1 = flag)).map Prod.snd

/-- A condition on the place between two characters. -/
inductive Anchor
  | lineStart
  | lineEnd
  | textStart
  | textEnd
  | wordBoundary
  | noWordBoundary
  | wordStart
  | wordEnd
  | wordStartHalf
  | wordEndHalf
deriving DecidableEq

/-- A class with a one-letter escape. -/
inductive ShortClass
  | digit
  | space
  | word
deriving DecidableEq

/-- A class that is named in brackets and colons and holds basic Latin characters only. -/
inductive AsciiClass
  | alnum
  | alpha
  | ascii
  | blank
  | cntrl
  | digit
  | graph
  | lower
  | print
  | punct
  | space
  | upper
  | word
  | xdigit
deriving DecidableEq

/-- A written reference to a Unicode property. -/
inductive PropertyQuery
  | named (name : String)
  | valued (name value : String)

/-- A written character; a byte is one given by exactly two hexadecimal digits. -/
structure Written where
  char : Char
  byte : Bool

/-- How two character sets are combined. -/
inductive SetOperation
  | inter
  | diff
  | symmDiff

mutual

/-- One part of a bracketed character set. -/
inductive SetItem
  | single (char : Written)
  | range (low high : Written)
  | ascii (kind : AsciiClass) (negated : Bool)
  | short (kind : ShortClass) (negated : Bool)
  | property (query : PropertyQuery) (negated : Bool)
  | nested (negated : Bool) (content : SetContent)

/-- The inside of a bracketed character set. -/
inductive SetContent
  | items (items : List SetItem)
  | operation (operation : SetOperation) (left right : SetContent)

end

/-- The structure of a pattern. -/
inductive Tree
  | empty
  | single (char : Written)
  | dot
  | anchor (kind : Anchor)
  | short (kind : ShortClass) (negated : Bool)
  | property (query : PropertyQuery) (negated : Bool)
  | bracket (negated : Bool) (content : SetContent)
  | flags (changes : FlagChanges)
  | group (capturing : Bool) (changes : FlagChanges) (body : Tree)
  | repetition (body : Tree) (least : Nat) (most : Option Nat) (greedy : Bool)
  | sequence (items : List Tree)
  | choice (branches : List Tree)

mutual

/-- The number of sets and combinations around the innermost part of a set item. -/
def SetItem.depth : SetItem → Nat
  | .nested _ content => content.depth + 1
  | _ => 0

/-- The number of sets and combinations around the innermost part of a set. -/
def SetContent.depth : SetContent → Nat
  | .items items => if items.length ≤ 1 then SetItem.depths items else SetItem.depths items + 1
  | .operation _ left right => max left.depth right.depth + 1

/-- The greatest depth of several set items. -/
def SetItem.depths : List SetItem → Nat
  | [] => 0
  | item :: rest => max item.depth (SetItem.depths rest)

end

mutual

/-- The number of constructs around the innermost part of a tree. -/
def Tree.depth : Tree → Nat
  | .bracket _ content => content.depth + 1
  | .group _ _ body => body.depth + 1
  | .repetition body _ _ _ => body.depth + 1
  | .sequence items => Tree.depths items + 1
  | .choice branches => Tree.depths branches + 1
  | _ => 0

/-- The greatest depth of several trees. -/
def Tree.depths : List Tree → Nat
  | [] => 0
  | tree :: rest => max tree.depth (Tree.depths rest)

end

/-- A sequence; a single item stands for itself. -/
def Tree.ofItems : List Tree → Tree
  | [] => .empty
  | [item] => item
  | items => .sequence items

/-- A choice; a single branch stands for itself. -/
def Tree.ofBranches : List Tree → Tree
  | [] => .empty
  | [branch] => branch
  | branches => .choice branches

end Pattern

end LiveSearch
