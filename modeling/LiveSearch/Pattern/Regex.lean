import LiveSearch.Pattern.Tree
import LiveSearch.Unicode.CodeSet

/-!
# Regular expressions

A regular expression is what a pattern means once its flags have taken effect: characters,
conditions on places, and their sequences, choices and repetitions.  The functions `ofSet`,
`ofItems`, `ofBranches` and `repeated` build expressions in a normal form: a sequence holds neither
sequences nor neighbouring literals, a choice holds no choices and is a set where all its branches
are single characters, what all branches begin with stands in front of their choice, and what
matches the empty text only is not repeated more than once.
-/

namespace LiveSearch

namespace Pattern

open Unicode

/-- A condition on the place between two characters, with the flags in effect. -/
inductive Look
  | start
  | finish
  | lineStart
  | lineFinish
  | lineStartCrlf
  | lineFinishCrlf
  | boundary (unicode : Bool)
  | noBoundary (unicode : Bool)
  | wordStart (unicode : Bool)
  | wordFinish (unicode : Bool)
  | wordStartHalf (unicode : Bool)
  | wordFinishHalf (unicode : Bool)
deriving DecidableEq

/-- A regular expression.  The set without members matches nothing. -/
inductive Regex
  | empty
  | literal (text : List Char)
  | set (codes : CodeSet)
  | look (kind : Look)
  | capture (body : Regex)
  | sequence (items : List Regex)
  | choice (branches : List Regex)
  | repetition (body : Regex) (least : Nat) (most : Option Nat) (greedy : Bool)

/-- The number of bytes of a text in UTF-8. -/
def byteLength (text : List Char) : Nat :=
  text.foldl (fun total char => total + char.utf8Size) 0

namespace Regex

mutual

/-- Whether two expressions are the same.  No two capturing groups are, since each has a number of
its own. -/
def same : Regex → Regex → Bool
  | .empty, .empty => true
  | .literal text, .literal other => text == other
  | .set codes, .set other => codes == other
  | .look kind, .look other => kind == other
  | .sequence items, .sequence others => sameAll items others
  | .choice branches, .choice others => sameAll branches others
  | .repetition body least most greedy, .repetition other least' most' greedy' =>
    least == least' && most == most' && greedy == greedy' && same body other
  | _, _ => false

/-- Whether the expressions of two lists are the same, one by one. -/
def sameAll : List Regex → List Regex → Bool
  | [], [] => true
  | regex :: rest, other :: others => same regex other && sameAll rest others
  | _, _ => false

end

mutual

/-- The least number of bytes that an expression matches; `none` if a part or a branch of it matches
nothing. -/
def shortest : Regex → Option Nat
  | .empty => some 0
  | .literal text => some (byteLength text)
  | .set codes => codes.ranges.head?.map fun range => (Char.ofNat range.1).utf8Size
  | .look _ => some 0
  | .capture body => shortest body
  | .sequence items => shortestSum items
  | .choice branches => shortestBranch branches
  | .repetition body least _ _ => (shortest body).map fun length => least * length

/-- The least number of bytes that a sequence matches. -/
def shortestSum : List Regex → Option Nat
  | [] => some 0
  | item :: rest =>
    match shortest item, shortestSum rest with
    | some length, some others => some (length + others)
    | _, _ => none

/-- The least number of bytes that a choice matches. -/
def shortestBranch : List Regex → Option Nat
  | [] => none
  | [branch] => shortest branch
  | branch :: rest =>
    match shortest branch, shortestBranch rest with
    | some length, some others => some (min length others)
    | _, _ => none

end

mutual

/-- Whether an expression matches, and matches the empty text only. -/
def isZeroWidth : Regex → Bool
  | .empty => true
  | .literal _ => false
  | .set _ => false
  | .look _ => true
  | .capture body => isZeroWidth body
  | .sequence items => areZeroWidth items
  | .choice branches => areZeroWidth branches
  | .repetition body _ most _ => most.isSome && isZeroWidth body

/-- Whether several expressions match the empty text only. -/
def areZeroWidth : List Regex → Bool
  | [] => true
  | regex :: rest => isZeroWidth regex && areZeroWidth rest

end

/-- The expression for a set of code points, of which the surrogates match nothing. -/
def ofSet (codes : CodeSet) : Regex :=
  match codes.characters.ranges with
  | [(low, high)] => if low = high then .literal [Char.ofNat low] else .set ⟨[(low, high)]⟩
  | ranges => .set ⟨ranges⟩

/-- The items of an expression as part of a sequence. -/
def items : Regex → List Regex
  | .empty => []
  | .sequence items => items
  | regex => [regex]

/-- Put an item in front of a sequence, where literals join. -/
def joinItem (item : Regex) (rest : List Regex) : List Regex :=
  match item, rest with
  | .literal text, .literal next :: others => .literal (text ++ next) :: others
  | _, _ => item :: rest

/-- Expressions in sequence. -/
def ofItems (regexes : List Regex) : Regex :=
  match (regexes.flatMap items).foldr joinItem [] with
  | [] => .empty
  | [item] => item
  | items => .sequence items

/-- The branches of an expression as part of a choice. -/
def branches : Regex → List Regex
  | .choice branches => branches
  | regex => [regex]

/-- The code points that an expression for single characters matches. -/
def codes? : Regex → Option CodeSet
  | .literal [char] => some (.single char.toNat)
  | .set codes => some codes
  | _ => none

/-- A choice between expressions; single characters become a set.  Without a branch nothing
matches. -/
def unite (regexes : List Regex) : Regex :=
  match regexes.flatMap branches with
  | [] => .set .empty
  | [branch] => branch
  | branches =>
    match branches.mapM codes? with
    | some sets => ofSet (.unions sets)
    | none => .choice branches

/-- The items with which two sequences begin. -/
def commonItems : List Regex → List Regex → List Regex
  | item :: rest, other :: others => if same item other then item :: commonItems rest others else []
  | _, _ => []

/-- The items of a sequence; an expression that is no sequence has none. -/
def sequenceItems : Regex → List Regex
  | .sequence items => items
  | _ => []

/-- The items with which all branches begin. -/
def commonStart : List Regex → List Regex
  | [] => []
  | branch :: rest =>
    rest.foldl (fun start next => commonItems start (sequenceItems next)) (sequenceItems branch)

/-- A choice between expressions.  What all of them begin with is taken in front; the rests have
nothing more in common, so their choice is left as it is. -/
def ofBranches (regexes : List Regex) : Regex :=
  match unite regexes with
  | .choice branches =>
    match commonStart branches with
    | [] => .choice branches
    | start =>
      let rests := branches.map fun branch => ofItems ((sequenceItems branch).drop start.length)
      ofItems (start ++ [unite rests])
  | regex => regex

/-- A repetition.  What matches the empty text only need not be repeated more than once. -/
def repeated (body : Regex) (least : Nat) (most : Option Nat) (greedy : Bool) : Regex :=
  let (least, most) :=
    if isZeroWidth body then (min least 1, some (min (most.getD 1) 1)) else (least, most)
  match least, most with
  | 0, some 0 => .empty
  | 1, some 1 => body
  | _, _ => .repetition body least most greedy

end Regex

end Pattern

end LiveSearch
