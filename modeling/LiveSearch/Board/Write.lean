import Std.Data.TreeMap

/-!
# List writes

Published lists change by four kinds of write.  `ListWrite.apply` says what a write does to a
list, where `none` is the list that does not exist, and `ListWrite.replay` what a sequence of
writes makes of all lists.
-/

namespace LiveSearch

/-- A write to a published list. -/
inductive ListWrite
  | set (name : String) (entries : List String)
  | add (name entry : String)
  | remove (name entry : String)
  | delete (name : String)
deriving DecidableEq

namespace ListWrite

/-- The list that is written. -/
def name : ListWrite → String
  | set name _ => name
  | add name _ => name
  | remove name _ => name
  | delete name => name

/-- The list after a write.  A list that does not exist counts as empty for additions and
removals, and exists afterwards. -/
def apply (entries : Option (List String)) : ListWrite → Option (List String)
  | set _ replacement => some replacement
  | add _ entry => some (entries.getD [] ++ [entry])
  | remove _ entry => some ((entries.getD []).erase entry)
  | delete _ => none

/-- The lists after a sequence of writes, oldest first. -/
def replay (writes : List ListWrite) : Std.TreeMap String (List String) :=
  writes.foldl (fun lists write => lists.alter write.name write.apply) ∅

end ListWrite

end LiveSearch
