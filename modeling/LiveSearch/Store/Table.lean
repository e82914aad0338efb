import Std.Data.TreeMap
import LiveSearch.Mailroom
import LiveSearch.Query.Selection
import LiveSearch.Store.Change

/-!
# Tables

A table holds records by the text of their key and the changefeeds that are open on it.  A feed of
a selection with a limit keeps the window it has reported and sends what has left the window
before what has come in; any other feed only looks at the record that was written.
-/

namespace LiveSearch

/-- An open changefeed: where its reader is, what it selects, and the records it has reported, which
only a selection with a limit needs. -/
structure Feed where
  address : Nat
  selection : Selection
  window : List Json

/-- Records by key, and the feeds on them in the order in which they were opened. -/
structure Table where
  rows : Std.TreeMap String Json
  feeds : List Feed

namespace Table

/-- The table without records. -/
def empty : Table := ⟨∅, []⟩

/-- The records in the order of their keys. -/
def records (table : Table) : List Json := table.rows.values

end Table

/-- Whether a record is among others. -/
def isAmong (records : List Json) (record : Json) : Bool := records.any (·.same record)

namespace Feed

/-- What leads from one window to another: removals in the order of the old one, then insertions in
the order of the new one. -/
def windowEvents (old new : List Json) : List FeedEvent :=
  (old.filter fun record => !isAmong new record).map .removed ++
    (new.filter fun record => !isAmong old record).map .inserted

/-- What a write of one record means for a selection without a limit. -/
def recordEvents (selection : Selection) (old new : Option Json) : List FeedEvent :=
  match old.filter selection.accepts, new.filter selection.accepts with
  | none, some record => [.inserted (selection.project record)]
  | some record, none => [.removed (selection.project record)]
  | _, _ => []

/-- The feed after a write, and what it sends. -/
def afterWrite (feed : Feed) (records : List Json) (old new : Option Json) :
    Feed × List FeedEvent :=
  if feed.selection.isWindowed then
    let window := feed.selection.run records
    ({ feed with window }, windowEvents feed.window window)
  else (feed, recordEvents feed.selection old new)

/-- Report a write to the readers of several feeds.  A feed whose reader is gone is given up as soon
as it has something to send. -/
def publish (records : List Json) (old new : Option Json) :
    List Feed → Mailroom FeedItem → List Feed × Mailroom FeedItem
  | [], room => ([], room)
  | feed :: rest, room =>
    let (after, events) := feed.afterWrite records old new
    let (others, final) :=
      publish records old new rest (room.send feed.address (events.map .ok))
    if events.isEmpty || room.isOpen feed.address then (after :: others, final) else (others, final)

end Feed

end LiveSearch
