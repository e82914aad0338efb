/-!
# Numbers of sessions

Whoever shows sessions to a reader gives them the numbers 1, 2, … in the order in which they are
first shown.
-/

namespace LiveSearch

/-- The sessions that have been shown, in the order in which they were first shown. -/
structure Numbering where
  shown : List Nat

namespace Numbering

/-- The numbering before any session is shown. -/
def empty : Numbering := ⟨[]⟩

/-- The number of a session that has been shown. -/
def number? (numbering : Numbering) (id : Nat) : Option Nat :=
  (numbering.shown.findIdx? (· = id)).map (· + 1)

/-- The session with a number. -/
def session? (numbering : Numbering) (number : Nat) : Option Nat :=
  if number = 0 then none else numbering.shown[number - 1]?

/-- The numbering after a session has been shown. -/
def note (numbering : Numbering) (id : Nat) : Numbering :=
  if numbering.shown.contains id then numbering else ⟨numbering.shown ++ [id]⟩

end Numbering

end LiveSearch
