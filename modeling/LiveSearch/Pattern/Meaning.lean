import LiveSearch.Pattern.Class
import LiveSearch.Pattern.Regex

/-!
# The meaning of pattern trees

`Regex.ofTree?` gives a tree its meaning under the flags in effect.  It refuses references to
unknown properties, properties where Unicode is switched off, and anything that could match half a
character.
-/

namespace LiveSearch

namespace Pattern

open Unicode

/-- The flags that bear on what a pattern matches. -/
structure Mode where
  ignoreCase : Bool
  multiLine : Bool
  dotAll : Bool
  unicode : Bool
  crlf : Bool
  swapGreed : Bool

namespace Mode

/-- The flags at the beginning of a pattern. -/
def initial : Mode := ⟨false, false, false, true, false, false⟩

/-- The flags after a change. -/
def change (mode : Mode) (changes : FlagChanges) : Mode where
  ignoreCase := (changes.value? .ignoreCase).getD mode.ignoreCase
  multiLine := (changes.value? .multiLine).getD mode.multiLine
  dotAll := (changes.value? .dotAll).getD mode.dotAll
  unicode := (changes.value? .unicode).getD mode.unicode
  crlf := (changes.value? .crlf).getD mode.crlf
  swapGreed := (changes.value? .swapGreed).getD mode.swapGreed

/-- The set with the characters that the flags do not tell apart. -/
def fold (mode : Mode) (codes : CodeSet) : CodeSet :=
  if !mode.ignoreCase then codes
  else if mode.unicode then Folding.close codes
  else Folding.closeAscii codes

/-- The complement among the characters, or among the bytes where Unicode is switched off. -/
def complement (mode : Mode) (codes : CodeSet) : CodeSet :=
  codes.complementWithin (if mode.unicode then CodeSet.lastCode else 0xFF)

/-- The set or its complement. -/
def negateIf (mode : Mode) (negated : Bool) (codes : CodeSet) : CodeSet :=
  if negated then mode.complement codes else codes

/-- A set, unless it could match half a character: with Unicode switched off only basic Latin
characters are whole bytes. -/
def whole? (mode : Mode) (codes : CodeSet) : Option CodeSet :=
  if mode.unicode || codes.ranges.all (·.2 < 0x80) then some codes else none

/-- The code point of a written character.  With Unicode switched off a byte beyond basic Latin is
half a character. -/
def code? (mode : Mode) (char : Written) : Option Nat :=
  if !mode.unicode && char.byte && 0x80 ≤ char.char.toNat then none else some char.char.toNat

/-- The set of a written character outside brackets. -/
def single? (mode : Mode) (char : Written) : Option CodeSet :=
  (mode.code? char).map fun code => mode.fold (.single code)

/-- The code point of a character in brackets, where with Unicode switched off only basic Latin
stands. -/
def memberCode? (mode : Mode) (char : Written) : Option Nat :=
  if !mode.unicode && 0x80 ≤ char.char.toNat then none else some char.char.toNat

/-- The members of a short class. -/
def short? (mode : Mode) (kind : ShortClass) (negated : Bool) : Option CodeSet :=
  mode.whole? (mode.negateIf negated (if mode.unicode then kind.codes else kind.asciiCodes))

/-- The code points with a property. -/
def property? (mode : Mode) (query : PropertyQuery) (negated : Bool) : Option CodeSet :=
  if mode.unicode then query.codes?.map fun codes => mode.negateIf negated (mode.fold codes)
  else none

/-- What the dot matches: everything but the ends of lines. -/
def dot? (mode : Mode) : Option CodeSet :=
  if !mode.unicode then none
  else if mode.dotAll then some ⟨[(0, CodeSet.lastCode)]⟩
  else if mode.crlf then some (CodeSet.complement ⟨[(10, 10), (13, 13)]⟩)
  else some (CodeSet.complement ⟨[(10, 10)]⟩)

/-- The condition that an anchor stands for. -/
def look (mode : Mode) : Anchor → Look
  | .lineStart =>
    if !mode.multiLine then .start else if mode.crlf then .lineStartCrlf else .lineStart
  | .lineEnd =>
    if !mode.multiLine then .finish else if mode.crlf then .lineFinishCrlf else .lineFinish
  | .textStart => .start
  | .textEnd => .finish
  | .wordBoundary => .boundary mode.unicode
  | .noWordBoundary => .noBoundary mode.unicode
  | .wordStart => .wordStart mode.unicode
  | .wordEnd => .wordFinish mode.unicode
  | .wordStartHalf => .wordStartHalf mode.unicode
  | .wordEndHalf => .wordFinishHalf mode.unicode

end Mode

/-- Combine two sets. -/
def SetOperation.apply : SetOperation → CodeSet → CodeSet → CodeSet
  | .inter => CodeSet.inter
  | .diff => CodeSet.diff
  | .symmDiff => CodeSet.symmDiff

mutual

/-- The members of an item of a bracketed set. -/
def SetItem.codes? (mode : Mode) : SetItem → Option CodeSet
  | .single char => (mode.memberCode? char).map .single
  | .range low high => do
    let lowCode ← mode.memberCode? low
    let highCode ← mode.memberCode? high
    return ⟨[(lowCode, highCode)]⟩
  | .ascii kind negated => mode.whole? (mode.negateIf negated (mode.fold kind.codes))
  | .short kind negated => mode.short? kind negated
  | .property query negated => mode.property? query negated
  | .nested negated content => do
    let codes ← SetContent.codes? mode content
    mode.whole? (mode.negateIf negated (mode.fold codes))

/-- The members of the inside of a bracketed set. -/
def SetContent.codes? (mode : Mode) : SetContent → Option CodeSet
  | .items items => (SetItem.union? mode items).map CodeSet.ofRanges
  | .operation operation left right => do
    let leftCodes ← SetContent.codes? mode left
    let rightCodes ← SetContent.codes? mode right
    return operation.apply (mode.fold leftCodes) (mode.fold rightCodes)

/-- The ranges of several items. -/
def SetItem.union? (mode : Mode) : List SetItem → Option (List (Nat × Nat))
  | [] => some []
  | item :: rest => do
    let codes ← SetItem.codes? mode item
    let others ← SetItem.union? mode rest
    return codes.ranges ++ others

end

namespace Regex

mutual

/-- The meaning of a tree, and the flags in effect behind it. -/
def ofTree? (mode : Mode) : Tree → Option (Regex × Mode)
  | .empty => some (.empty, mode)
  | .single char => (mode.single? char).map fun codes => (ofSet codes, mode)
  | .dot => mode.dot?.map fun codes => (ofSet codes, mode)
  | .anchor kind => some (.look (mode.look kind), mode)
  | .short kind negated => (mode.short? kind negated).map fun codes => (ofSet codes, mode)
  | .property query negated => (mode.property? query negated).map fun codes => (ofSet codes, mode)
  | .bracket negated content => do
    let codes ← SetContent.codes? mode content
    let whole ← mode.whole? (mode.negateIf negated (mode.fold codes))
    return (ofSet whole, mode)
  | .flags changes => some (.empty, mode.change changes)
  | .group capturing changes body => do
    let (regex, _) ← ofTree? (mode.change changes) body
    return (if capturing then .capture regex else regex, mode)
  | .repetition body least most greedy => do
    let (regex, after) ← ofTree? mode body
    return (repeated regex least most (greedy != mode.swapGreed), after)
  | .sequence items => (ofTrees? mode items).map fun found => (ofItems found.1, found.2)
  | .choice branches => (ofTrees? mode branches).map fun found => (ofBranches found.1, found.2)

/-- The meanings of trees that stand one behind the other. -/
def ofTrees? (mode : Mode) : List Tree → Option (List Regex × Mode)
  | [] => some ([], mode)
  | tree :: rest => do
    let (regex, after) ← ofTree? mode tree
    let (others, last) ← ofTrees? after rest
    return (regex :: others, last)

end

end Regex

end Pattern

end LiveSearch
