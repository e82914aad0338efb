/-!
# Stable sorting by insertion

Items are inserted one after another.  Each moves in front of the items behind which it does not
belong, from the end of what is already sorted, so items that do not differ keep their order.  Where
the relation comes from a total order of the items, with items that do not differ, there is one
stable way to sort them, and this is it.  Otherwise sorts may differ, and the one of a program may
give another result on more than twenty items or none at all; what depends on the result carries the
condition.
-/

namespace LiveSearch

namespace Sorting

/-- Insert an item into a sorted list that is given from its end. -/
def insert {α : Type} (before : α → α → Bool) (item : α) : List α → List α
  | [] => [item]
  | last :: earlier =>
    if before item last then last :: insert before item earlier else item :: last :: earlier

/-- The items in order. -/
def stable {α : Type} (before : α → α → Bool) (items : List α) : List α :=
  (items.foldl (fun sorted item => insert before item sorted) []).reverse

end Sorting

end LiveSearch
