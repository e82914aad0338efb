import Std.Data.TreeMap
import LiveSearch.Pattern.Regex
import LiveSearch.Pattern.Utf8

/-!
# The size of automata

The automaton of an expression reads a text byte by byte.  There are two of them, one that reads
forward and one that reads backward, and a pattern is refused if either would be too large.  Nothing
here builds an automaton: an `Extent` says how many states there are and how many bytes they take,
and each expression is a function from the extent before its states to the extent behind them.  A
state takes 32 bytes, with 8 more for each way on in a state that tells bytes apart and 4 more for
each way on in a fork.

States for characters of more than one byte are shared where a table of limited size still knows an
equal one, so that the numbers of the states decide which ones are found again.
-/

namespace LiveSearch

namespace Pattern

open Unicode

/-- The number of states of an automaton and the bytes that they take. -/
structure Extent where
  states : Nat
  bytes : Nat

namespace Extent

/-- No states at all. -/
def zero : Extent := ⟨0, 0⟩

/-- The extent with one more state, which takes some bytes beyond those of every state. -/
def state (extent : Extent) (extra : Nat) : Extent := ⟨extent.states + 1, extent.bytes + 32 + extra⟩

/-- The extent with one more state with a single way on. -/
def plain (extent : Extent) : Extent := extent.state 0

/-- The extent with one more state that tells some ranges of bytes apart. -/
def tell (extent : Extent) (ranges : Nat) : Extent := extent.state (8 * ranges)

/-- The extent with one more state that leads on without a byte, in some ways. -/
def fork (extent : Extent) (ways : Nat) : Extent := extent.state (4 * ways)

/-- The greatest number of bytes. -/
def limit : Nat := 10 * 0x100000

/-- Add the same states a number of times; beyond the limit nothing more is added. -/
def times (add : Extent → Extent) : Nat → Extent → Extent
  | 0, extent => extent
  | count + 1, extent => if limit < extent.bytes then extent else times add count (add extent)

end Extent

/-- States that have been added, and a table of those that may be found again: in each slot that is
taken, what makes up a state and the state's number. -/
structure Sharing where
  extent : Extent
  slots : Nat
  known : Std.TreeMap Nat (List Nat × Nat)

namespace Sharing

/-- A table of some slots, all of them free. -/
def start (slots : Nat) (extent : Extent) : Sharing := ⟨extent, slots, ∅⟩

/-- The slot for what makes up a state: the Fowler-Noll-Vo hash of its numbers. -/
def slot (slots : Nat) (parts : List Nat) : Nat :=
  let hash := parts.foldl (fun hash part => (hash ^^^ part.toUInt64) * 1099511628211)
    (14695981039346656037 : UInt64)
  (hash % slots.toUInt64).toNat

/-- Add a state, which takes its slot from the state that had it. -/
def insert (sharing : Sharing) (place extra : Nat) (parts : List Nat) : Nat × Sharing :=
  let ⟨extent, slots, known⟩ := sharing
  (extent.states, ⟨extent.state extra, slots, known.insert place (parts, extent.states)⟩)

/-- The number of the state that is made up of some parts: a known one, or a new one. -/
def find (sharing : Sharing) (extra : Nat) (parts : List Nat) : Nat × Sharing :=
  let place := slot sharing.slots parts
  match sharing.known[place]? with
  | some (other, number) =>
    if other = parts then (number, sharing) else sharing.insert place extra parts
  | none => sharing.insert place extra parts

end Sharing

/-- Add the states that read sequences of bytes forward to a common end, last bytes first, and give
the number of the first state. -/
def Sharing.addForward (finish : Nat) : Nat → List (List ByteRange) → Sharing → Nat × Sharing
  | 0, _, sharing => (finish, sharing)
  | depth + 1, sequences, sharing =>
    let (parts, sharing) := (byFirst sequences).foldl (fun (parts, sharing) (range, tails) =>
      let (next, sharing) :=
        if tails.all List.isEmpty then (finish, sharing)
        else addForward finish depth tails sharing
      (next :: range.2 :: range.1 :: parts, sharing)) (([] : List Nat), sharing)
    sharing.find (8 * (parts.length / 3)) parts.reverse

/-- Add the states that read a sequence of bytes backward, from the state behind it. -/
def Sharing.addBackward (finish : Nat) (sequence : List ByteRange) (sharing : Sharing) : Sharing :=
  (sequence.foldl (fun (behind, sharing) range =>
    sharing.find 0 [behind, range.1, range.2]) (finish, sharing)).2

/-- Add the states of a set. -/
def addSet (backward : Bool) (codes : CodeSet) (extent : Extent) : Extent :=
  if codes.ranges.all (·.2 < 0x80) then extent.plain.tell codes.ranges.length
  else
    let sequences := setSequences codes
    if backward then
      let finish := extent.states + 1
      let sharing := Sharing.start 1000 (extent.fork sequences.length).plain
      (sequences.foldl (fun sharing sequence => sharing.addBackward finish sequence) sharing).extent
    else (Sharing.addForward extent.states 4 sequences (.start 10000 extent.plain)).2.extent

/-- The words between the empty ones of a list.  Empty words in front count once. -/
def splitWords (words : List (List Nat)) : List (List (List Nat)) :=
  let (front, rest) := words.span List.isEmpty
  let parts := rest.splitOnP List.isEmpty
  if front.isEmpty then parts else [] :: parts

/-- The words of a list by their first byte, each without it. -/
def byLetter (words : List (List Nat)) : List (List (List Nat)) :=
  let letters := (words.filterMap List.head?).eraseDups
  letters.map fun letter => words.filterMap fun word =>
    match word with
    | first :: rest => if first = letter then some rest else none
    | [] => none

/-- Add the states that choose between words: for each of the parts into which the words that end
here cut the others, a state that tells their first bytes apart, and a fork to these states and to
the end. -/
def addWords : Nat → List (List Nat) → Extent → Extent
  | 0, _, extent => extent
  | depth + 1, words, extent =>
    let parts := splitWords words
    let extent := parts.foldl (fun extent part =>
      let next := byLetter part
      let extent := next.foldl (fun extent rests =>
        if rests.all List.isEmpty then extent else addWords depth rests extent) extent
      match next with
      | [] => extent
      | [_] => extent.plain
      | _ => extent.tell next.length) extent
    extent.fork ((parts.filter fun part => !part.isEmpty).length + parts.length - 1)

namespace Regex

/-- The bytes of an expression that is a literal, in reading order. -/
def word? (backward : Bool) : Regex → Option (List Nat)
  | .literal text => some (if backward then (textBytes text).reverse else textBytes text)
  | _ => none

mutual

/-- Add the states of an expression. -/
def add (backward : Bool) : Regex → Extent → Extent
  | .empty, extent => extent.plain
  | .literal text, extent => extent.times Extent.plain (byteLength text)
  | .set codes, extent => addSet backward codes extent
  | .look _, extent => extent.plain
  | .capture body, extent =>
    if backward then add backward body extent else (add backward body extent.plain).plain
  | .sequence items, extent =>
    if backward then addReversed items extent else addAll backward items extent
  | .choice branches, extent =>
    match branches.mapM (word? backward) with
    | some words => addWords ((words.map List.length).foldl max 0 + 1) words extent.plain
    | none => addBranches backward branches extent
  | .repetition body least most _, extent =>
    let copy (extent : Extent) : Extent := add backward body extent
    match least, most with
    | 0, some 1 => (copy (extent.fork 2)).plain
    | 0, none =>
      if (shortest body).any (0 < ·) then copy (extent.fork 2)
      else (((copy extent).fork 2).fork 2).plain
    | least, none => ((copy ((extent.times copy (least - 1)))).fork 2)
    | least, some most =>
      let always := if least = 0 then extent.plain else extent.times copy least
      if least = most then always
      else always.plain.times (fun extent => copy (extent.fork 2)) (most - least)

/-- Add the states of expressions, one after the other. -/
def addAll (backward : Bool) : List Regex → Extent → Extent
  | [], extent => extent
  | item :: rest, extent => addAll backward rest (add backward item extent)

/-- Add the states of expressions that are read backward, the last one first. -/
def addReversed : List Regex → Extent → Extent
  | [], extent => extent
  | item :: rest, extent => add true item (addReversed rest extent)

/-- Add the states of the branches of a choice. -/
def addBranches (backward : Bool) : List Regex → Extent → Extent
  | [], extent => extent
  | [branch], extent => add backward branch extent
  | first :: second :: rest, extent =>
    let extent := add backward second (add backward first extent)
    addAll backward rest (extent.fork (rest.length + 2)).plain

end

mutual

/-- Whether every match begins, or where it is read backward ends, at a place that meets a
condition. -/
def leads (backward : Bool) (condition : Look) : Regex → Bool
  | .look kind => kind = condition
  | .capture body => leads backward condition body
  | .sequence items =>
    if backward then trailsAny condition items else leadsAny condition items
  | .choice branches => leadsAll backward condition branches
  | .repetition body least _ _ => 0 < least && leads backward condition body
  | _ => false

/-- Whether a sequence begins at a place that meets a condition, which one of the items up to the
first that matches characters says. -/
def leadsAny (condition : Look) : List Regex → Bool
  | [] => false
  | item :: rest => leads false condition item || (isZeroWidth item && leadsAny condition rest)

/-- Whether a sequence ends at a place that meets a condition. -/
def trailsAny (condition : Look) : List Regex → Bool
  | [] => false
  | item :: rest =>
    trailsAny condition rest || (areZeroWidth rest && leads true condition item)

/-- Whether all branches begin at a place that meets a condition, or end there. -/
def leadsAll (backward : Bool) (condition : Look) : List Regex → Bool
  | [] => true
  | branch :: rest => leads backward condition branch && leadsAll backward condition rest

end

/-- The extent of the automaton of an expression.  Unless every match begins where the text does, it
skips bytes first. -/
def extent (backward : Bool) (regex : Regex) : Extent :=
  let anchored := leads backward (if backward then .finish else .start) regex
  let skipped := if anchored then Extent.zero.plain else ((Extent.zero.fork 2).plain.tell 1)
  (add backward (.capture regex) skipped).plain

/-- Whether an expression is a choice between at least 3000 words, which are looked up without an
automaton. -/
def isWordList : Regex → Bool
  | .choice branches => 3000 ≤ branches.length && branches.all (word? false · |>.isSome)
  | _ => false

/-- Whether both automata of an expression are small enough. -/
def fits (regex : Regex) : Bool :=
  isWordList regex ||
    ((extent false regex).bytes ≤ Extent.limit && (extent true regex).bytes ≤ Extent.limit)

end Regex

end Pattern

end LiveSearch
