import LiveSearch.Error
import LiveSearch.Json

/-!
# Changefeeds

A changefeed reports the records that a plan selects: first those selected when it opens, between
two markers, then every change.
-/

namespace LiveSearch

/-- An item of a changefeed.  A change has an old side, a new side, both or neither. -/
inductive FeedEvent
  | initial
  | ready
  | change (old new : Option Json)

/-- A record that comes into the selection. -/
def FeedEvent.inserted (record : Json) : FeedEvent := .change none (some record)

/-- A record that leaves the selection. -/
def FeedEvent.removed (record : Json) : FeedEvent := .change (some record) none

/-- What a reader of a changefeed receives. -/
abbrev FeedItem := Except ServiceError FeedEvent

/-- What a reader of a query result receives. -/
abbrev SnapshotItem := Except ServiceError Json

end LiveSearch
