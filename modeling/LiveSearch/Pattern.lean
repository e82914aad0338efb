import LiveSearch.Pattern.Automaton
import LiveSearch.Pattern.Matching
import LiveSearch.Pattern.Meaning
import LiveSearch.Pattern.Reader

/-!
# Patterns

A pattern is a text that spells a regular expression.  `Pattern.compile?` gives the expression or
refuses the text; `Pattern.escape` spells a text so that it stands for itself.
-/

namespace LiveSearch

namespace Pattern

/-- The regular expression that a text spells; `none` if the text is malformed or an automaton for
the expression would be too large. -/
def compile? (pattern : String) : Option Regex := do
  let tree ← Tree.ofText? pattern.toList
  let (regex, _) ← Regex.ofTree? .initial tree
  if regex.fits then some regex else none

/-- A text with a backslash before every character that would stand for a construct. -/
def escapeChars (text : List Char) : List Char :=
  text.flatMap fun char => if Read.isMeta char then ['\\', char] else [char]

/-- The pattern that matches a text literally. -/
def escape (text : String) : String := String.ofList (escapeChars text.toList)

end Pattern

end LiveSearch
