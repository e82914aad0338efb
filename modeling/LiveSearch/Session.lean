import LiveSearch.Board.Basic
import LiveSearch.Session.KeySet
import LiveSearch.Store.Change
import LiveSearch.Store.Record

/-!
# Search sessions

A session publishes the keys of the records that one plan selects.  It gathers keys from the
result of the query and from the changefeed until the feed is ready, publishes them at once, and
from then on follows every change.  `Session.receive` is its whole behaviour: one signal from its
surroundings at a time.  It ends when it is cancelled, when something fails, or when its list has
been deleted from outside.
-/

namespace LiveSearch

/-- What can be seen of a session. -/
inductive SessionState
  | bootstrapping
  | ready
  | failed (error : SessionError)
  | closed
deriving DecidableEq

/-- Whether a state is the last one. -/
def SessionState.isTerminal : SessionState → Bool
  | failed _ => true
  | closed => true
  | _ => false

/-- What the worker of a session is doing. -/
inductive Phase
  /-- Waiting for the query and the changefeed. -/
  | opening
  /-- Reading the result of the query. -/
  | collecting (keys : KeySet)
  /-- Reading the changefeed until it is ready. -/
  | merging (keys : KeySet)
  /-- Following changes; `entries` is what the list holds. -/
  | following (handle : Handle) (entries : List String)
  /-- Ended, perhaps with a list that is still its own. -/
  | stopped (owned : Option Handle)

/-- Whether the worker has ended. -/
def Phase.isStopped : Phase → Bool
  | stopped _ => true
  | _ => false

/-- What the worker of a session can be told. -/
inductive Signal
  | cancelled
  /-- The query has been answered, and the changefeed is still to be opened. -/
  | queried
  /-- The query or the changefeed has been refused. -/
  | refused (cause : ServiceError)
  /-- Both are open. -/
  | opened
  /-- An item of the result of the query. -/
  | row (item : SnapshotItem)
  /-- The end of the result. -/
  | rowsEnd
  /-- The published list has been deleted. -/
  | listDeleted
  /-- An item of the changefeed. -/
  | event (item : FeedItem)
  /-- The end of the changefeed. -/
  | feedEnd

/-- One search: its worker, what can be seen of it, and whether it has been cancelled and closed. -/
structure Session where
  name : String
  primaryKey : String
  phase : Phase
  state : SessionState
  cancelled : Bool
  closed : Bool

namespace Session

/-- A new session. -/
def start (name primaryKey : String) : Session :=
  ⟨name, primaryKey, .opening, .bootstrapping, false, false⟩

/-- End the worker with a failure. -/
def fail (session : Session) (error : SessionError) (owned : Option Handle) : Session :=
  { session with phase := .stopped owned, state := .failed error }

/-- End the worker with a failure before the list is published. -/
def failInitially (session : Session) (cause : ServiceError) : Session :=
  session.fail (.initialRetrieval cause) none

/-- End the worker without a word about it. -/
def stop (session : Session) (owned : Option Handle) : Session :=
  { session with phase := .stopped owned }

/-- Go on in another phase. -/
def goOn (session : Session) (phase : Phase) : Session := { session with phase }

/-- Add the key of a record to a set; records without a usable key are left out. -/
def addKey (session : Session) (keys : KeySet) (record : Json) : KeySet :=
  match keyOf? session.primaryKey record with
  | some key => (keys.insert key).2
  | none => keys

/-- Take the key of a record away from a set. -/
def dropKey (session : Session) (keys : KeySet) (record : Json) : KeySet :=
  match keyOf? session.primaryKey record with
  | some key => (keys.erase key).2
  | none => keys

/-- The set after a change: first the old side leaves, then the new side comes in. -/
def mergeChange (session : Session) (keys : KeySet) (old new : Option Json) : KeySet :=
  let without := match old with
    | some record => session.dropKey keys record
    | none => keys
  match new with
  | some record => session.addKey without record
  | none => without

/-- Publish the gathered keys. -/
def publish (session : Session) (board : Board) (keys : KeySet) : Session × Board :=
  let (handle, board) := board.handleFor session.name
  match handle.setEntries board keys.toList with
  | (handle, board, .error cause) => (session.fail (.initialRetrieval cause) (some handle), board)
  | (handle, board, .ok _) =>
    ({ session with phase := .following handle keys.toList, state := .ready }, board)

/-- List a record that came into the selection. -/
def listRecord (session : Session) (board : Board) (handle : Handle) (entries : List String)
    (record : Json) : Session × Board :=
  match keyOf? session.primaryKey record with
  | none => (session, board)
  | some key =>
    if entries.contains key then (session, board)
    else match handle.addEntry board key with
      | (handle, board, .error cause) =>
        (session.fail (.changeNotification cause) (some handle), board)
      | (handle, board, .ok _) => (session.goOn (.following handle (entries ++ [key])), board)

/-- Take a record that left the selection off the list. -/
def unlistRecord (session : Session) (board : Board) (handle : Handle) (entries : List String)
    (record : Json) : Session × Board :=
  match keyOf? session.primaryKey record with
  | none => (session, board)
  | some key =>
    if !entries.contains key then (session, board)
    else match handle.removeEntry board key with
      | (handle, board, .error cause) =>
        (session.fail (.changeNotification cause) (some handle), board)
      | (handle, board, .ok _) => (session.goOn (.following handle (entries.erase key)), board)

/-- What a session does while it gathers keys from the changefeed. -/
def receiveMerging (session : Session) (board : Board) (keys : KeySet) :
    Signal → Session × Board
  | .event (.ok .ready) => session.publish board keys
  | .event (.ok .initial) => (session.goOn (.merging .empty), board)
  | .event (.ok (.change old new)) =>
    (session.goOn (.merging (session.mergeChange keys old new)), board)
  | .event (.error cause) => (session.failInitially cause, board)
  | .feedEnd => (session.failInitially (.feed "feed ended before ready"), board)
  | _ => (session, board)

/-- What a session does while it follows changes.  A change with both sides leaves the list as it
is. -/
def receiveFollowing (session : Session) (board : Board) (handle : Handle)
    (entries : List String) : Signal → Session × Board
  | .event (.ok (.change none (some record))) => session.listRecord board handle entries record
  | .event (.ok (.change (some record) none)) => session.unlistRecord board handle entries record
  | .event (.error cause) => (session.fail (.changeNotification cause) (some handle), board)
  | .feedEnd => (session.fail (.changeNotification (.feed "feed ended")) (some handle), board)
  | .listDeleted => ({ session with phase := .stopped none, state := .closed }, board)
  | _ => (session, board)

/-- The list that a worker owns when it is cancelled. -/
def ownedList : Phase → Option Handle
  | .following handle _ => some handle
  | _ => none

/-- What a session does on a signal.  A worker that has ended does nothing, and signals that do not
belong to its phase change nothing. -/
def receive (session : Session) (board : Board) (signal : Signal) : Session × Board :=
  match session.phase, signal with
  | .stopped _, _ => (session, board)
  | phase, .cancelled => (session.stop (ownedList phase), board)
  | .opening, .refused cause => (session.failInitially cause, board)
  | .opening, .opened => (session.goOn (.collecting .empty), board)
  | .opening, _ => (session, board)
  | .collecting keys, .row (.ok record) =>
    (session.goOn (.collecting (session.addKey keys record)), board)
  | .collecting _, .row (.error cause) => (session.failInitially cause, board)
  | .collecting keys, .rowsEnd => (session.goOn (.merging keys), board)
  | .collecting _, _ => (session, board)
  | .merging keys, signal => session.receiveMerging board keys signal
  | .following handle entries, signal => session.receiveFollowing board handle entries signal

/-- Whether a signal makes a session report that it has been detached from its list. -/
def detaches (session : Session) (signal : Signal) : Bool :=
  match session.phase, signal with
  | .following _ _, .listDeleted => true
  | _, _ => false

/-- Tell the worker to end. -/
def cancel (session : Session) : Session := { session with cancelled := true }

/-- Finish the closing of a session whose worker has ended: delete the list if it is still its own.
A failure stays visible; anything else becomes `closed`. -/
def finishClosing (session : Session) (board : Board) : Session × Board :=
  let board := match session.phase with
    | .stopped (some handle) => if board.isWithdrawn handle then board else (handle.delete board).2
    | _ => board
  let state := match session.state with
    | .failed error => .failed error
    | _ => .closed
  ({ session with phase := .stopped none, state, closed := true }, board)

/-- What the worker waits for, and what it would be told now.  Being cancelled comes first, then the
deletion of the list, then the reading of rows and events. -/
def pendingSignal (session : Session) (board : Board) (rows : List SnapshotItem)
    (event : Found FeedItem) : Option Signal :=
  let fromFeed := match event with
    | .nothing => none
    | .item item => some (.event item)
    | .finish => some .feedEnd
  if session.phase.isStopped then none
  else if session.cancelled then some .cancelled
  else match session.phase with
    | .collecting _ => match rows with
      | item :: _ => some (.row item)
      | [] => some .rowsEnd
    | .merging _ => fromFeed
    | .following handle _ => if board.isWithdrawn handle then some .listDeleted else fromFeed
    | _ => none

end Session

end LiveSearch
