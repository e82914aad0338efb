import Std.Data.TreeSet

/-!
# Ordered sets of keys

The keys that a session gathers before it publishes its list: each key once, in the order in which
the keys came in.  The sequence gives the order and the search tree answers quickly whether a key
is known.
-/

namespace LiveSearch

/-- A set of keys that remembers the order of insertion. -/
structure KeySet where
  sequence : List String
  members : Std.TreeSet String

namespace KeySet

/-- The set without keys. -/
def empty : KeySet := ⟨[], ∅⟩

/-- Add a key behind all others, unless the set has it already; tell whether it is new. -/
def insert (set : KeySet) (key : String) : Bool × KeySet :=
  if set.members.contains key then (false, set)
  else (true, ⟨set.sequence ++ [key], set.members.insert key⟩)

/-- Take a key away without moving the others; tell whether the set had it. -/
def erase (set : KeySet) (key : String) : Bool × KeySet :=
  if set.members.contains key then
    (true, ⟨set.sequence.filter (· ≠ key), set.members.erase key⟩)
  else (false, set)

/-- The number of keys. -/
def size (set : KeySet) : Nat := set.sequence.length

/-- Whether the set has no key. -/
def isEmpty (set : KeySet) : Bool := set.sequence.isEmpty

/-- The keys in the order of insertion. -/
def toList (set : KeySet) : List String := set.sequence

end KeySet

end LiveSearch
