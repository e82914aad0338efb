import LiveSearch.Pattern.Class
import LiveSearch.Pattern.Regex

/-!
# Matching

A set of places in a text is a natural number: bit `i` stands for the place before the `i`-th
character, and the bit behind the last character for the end.  Matching carries all places at once
through an expression, so it never tries anything twice.
-/

namespace LiveSearch

namespace Pattern

open Unicode

/-- A set of places, as a number whose bits they are. -/
abbrev Places := Nat

/-- The places, from `place` on, whose index in a list satisfies a test. -/
def placesWhere {α : Type} (test : α → Bool) (place : Nat) : List α → Places
  | [] => 0
  | item :: rest => (if test item then 1 <<< place else 0) ||| placesWhere test (place + 1) rest

/-- The characters around the places of a text, place by place. -/
def surroundings (before : Option Char) : List Char → List (Option Char × Option Char)
  | [] => [(before, none)]
  | char :: rest => (before, some char) :: surroundings (some char) rest

/-- Whether a character belongs to words. -/
def isWordChar (unicode : Bool) (char : Char) : Bool :=
  if char.toNat < 0x80 then AsciiClass.word.codes.holds char else unicode && wordCodes.holds char

/-- Whether a condition holds between two characters, either of which may be missing. -/
def Look.holds (look : Look) (around : Option Char × Option Char) : Bool :=
  let (before, behind) := around
  let wordBefore (unicode : Bool) : Bool := before.any (isWordChar unicode)
  let wordBehind (unicode : Bool) : Bool := behind.any (isWordChar unicode)
  match look with
  | .start => before.isNone
  | .finish => behind.isNone
  | .lineStart => before.isNone || before == some '\n'
  | .lineFinish => behind.isNone || behind == some '\n'
  | .lineStartCrlf =>
    before.isNone || before == some '\n' || (before == some '\r' && behind != some '\n')
  | .lineFinishCrlf =>
    behind.isNone || behind == some '\r' || (behind == some '\n' && before != some '\r')
  | .boundary unicode => wordBefore unicode != wordBehind unicode
  | .noBoundary unicode => wordBefore unicode == wordBehind unicode
  | .wordStart unicode => !wordBefore unicode && wordBehind unicode
  | .wordFinish unicode => wordBefore unicode && !wordBehind unicode
  | .wordStartHalf unicode => !wordBefore unicode
  | .wordFinishHalf unicode => !wordBehind unicode

/-- Apply a step until the set of places stays the same, at most `fuel` times. -/
def saturate (step : Places → Places) : Nat → Places → Places
  | 0, places => places
  | fuel + 1, places =>
    let next := places ||| step places
    if next = places then places else saturate step fuel next

/-- Apply a step a number of times, or until the set of places stays the same. -/
def iterate (step : Places → Places) : Nat → Places → Places
  | 0, places => places
  | count + 1, places =>
    let next := step places
    if next = places then places else iterate step count next

/-- The places behind a text, where it begins at one of the given places. -/
def behind (chars text : List Char) (places : Places) : Places :=
  text.foldl (fun places char => 2 * (places &&& placesWhere (· == char) 0 chars)) places

namespace Regex

mutual

/-- The places where an expression can end that begins at one of the given places. -/
def advance (text : List Char) : Regex → Places → Places
  | .empty, places => places
  | .literal chars, places => behind text chars places
  | .set codes, places => 2 * (places &&& placesWhere codes.holds 0 text)
  | .look kind, places => places &&& placesWhere kind.holds 0 (surroundings none text)
  | .capture body, places => advance text body places
  | .sequence items, places => advanceAll text items places
  | .choice branches, places => advanceAny text branches places
  | .repetition body least most _, places =>
    let reached := iterate (fun places => advance text body places) least places
    let times := match most with
      | none => text.length + 1
      | some most => most - least
    saturate (fun places => advance text body places) times reached

/-- The places where expressions in sequence can end. -/
def advanceAll (text : List Char) : List Regex → Places → Places
  | [], places => places
  | item :: rest, places => advanceAll text rest (advance text item places)

/-- The places where one of several expressions can end. -/
def advanceAny (text : List Char) : List Regex → Places → Places
  | [], _ => 0
  | branch :: rest, places => advance text branch places ||| advanceAny text rest places

end

/-- Whether an expression matches somewhere in a text. -/
def isMatch (regex : Regex) (text : String) : Bool :=
  let chars := text.toList
  regex.advance chars ((1 <<< (chars.length + 1)) - 1) ≠ 0

end Regex

end Pattern

end LiveSearch
