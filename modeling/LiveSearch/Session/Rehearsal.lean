import LiveSearch.Query.Plan
import LiveSearch.Session

/-!
# Sessions with prepared sources

A rehearsal runs one session against sources whose answers are fixed beforehand: what the query
answers, whether the changefeed opens, and the items on it, to which more can be added at any time.
A session meets every behaviour of a record store here, also those that no store has.
-/

namespace LiveSearch

/-- A session, the board that it writes to, and its sources. -/
structure Rehearsal where
  session : Session
  board : Board
  /-- What the query answers. -/
  answer : Except ServiceError (List SnapshotItem)
  /-- What the opening of the changefeed fails with. -/
  refusal : Option ServiceError
  feed : Box FeedItem
  /-- Whether the session has opened the changefeed. -/
  opened : Bool
  /-- Whether the session has given the changefeed up. -/
  released : Bool
  /-- The rows that have not been read. -/
  rows : List SnapshotItem
  /-- How often the session has reported that it is detached. -/
  reports : Nat

namespace Rehearsal

/-- A new session with its sources. -/
def start (session : Session) (board : Board) (answer : Except ServiceError (List SnapshotItem))
    (refusal : Option ServiceError) (items : List FeedItem) : Rehearsal :=
  ⟨session, board, answer, refusal, ⟨items, false⟩, false, false, [], 0⟩

/-- Send the query and open the changefeed, whether the query succeeds or not. -/
def connect (rehearsal : Rehearsal) : Rehearsal × Signal :=
  let opening := { rehearsal with opened := rehearsal.refusal.isNone }
  match rehearsal.answer, rehearsal.refusal with
  | .ok rows, none => ({ opening with rows }, .opened)
  | .error cause, _ => (opening, .refused cause)
  | .ok _, some cause => (opening, .refused cause)

/-- The sources behind a signal: the row or event that it carried has been read. -/
def consume (rehearsal : Rehearsal) : Signal → Rehearsal
  | .row _ => { rehearsal with rows := rehearsal.rows.drop 1 }
  | .event _ => { rehearsal with feed := rehearsal.feed.read.2 }
  | _ => rehearsal

/-- The next signal of the session, and the sources behind it. -/
def nextSignal (rehearsal : Rehearsal) : Option (Rehearsal × Signal) :=
  match rehearsal.session.phase, rehearsal.session.cancelled with
  | .opening, false => some rehearsal.connect
  | _, _ =>
    (rehearsal.session.pendingSignal rehearsal.board rehearsal.rows rehearsal.feed.read.1).map
      fun signal => (rehearsal.consume signal, signal)

/-- Tell the session something and let it act. -/
def deliver (rehearsal : Rehearsal) (signal : Signal) : Rehearsal :=
  let (session, board) := rehearsal.session.receive rehearsal.board signal
  { rehearsal with
    session, board
    released := rehearsal.released || session.phase.isStopped && rehearsal.opened
    reports := rehearsal.reports + if rehearsal.session.detaches signal then 1 else 0 }

/-- The next step of the session; `none` while it can only wait. -/
def step? (rehearsal : Rehearsal) : Option Rehearsal :=
  rehearsal.nextSignal.map fun (behind, signal) => behind.deliver signal

/-- Take steps until the session can only wait. -/
def advance : Nat → Rehearsal → Rehearsal
  | 0, rehearsal => rehearsal
  | fuel + 1, rehearsal =>
    match rehearsal.step? with
    | none => rehearsal
    | some next => advance fuel next

/-- The number of rows that the query answers. -/
def rowCount (rehearsal : Rehearsal) : Nat :=
  match rehearsal.answer with
  | .ok rows => rows.length
  | .error _ => 0

/-- Let the session run until it can only wait: it reads every row and every item once, and takes at
most one step each for opening, the end of the rows, and its own end. -/
def settle (rehearsal : Rehearsal) : Rehearsal :=
  rehearsal.advance (rehearsal.rowCount + rehearsal.feed.items.length + 4)

/-- Put an item on the changefeed; tell whether someone may still read it. -/
def push (rehearsal : Rehearsal) (item : FeedItem) : Rehearsal × Bool :=
  if rehearsal.released || rehearsal.feed.ended then (rehearsal, false)
  else
    ({ rehearsal with feed := { rehearsal.feed with items := rehearsal.feed.items ++ [item] } },
      true)

/-- End the changefeed; tell whether it had not ended before. -/
def endFeed (rehearsal : Rehearsal) : Rehearsal × Bool :=
  ({ rehearsal with feed := { rehearsal.feed with ended := true } }, !rehearsal.feed.ended)

/-- Tell the session to end. -/
def cancel (rehearsal : Rehearsal) : Rehearsal :=
  { rehearsal with session := rehearsal.session.cancel }

/-- Close the session: it is cancelled, and with the end of its worker its list goes. -/
def close (rehearsal : Rehearsal) : Rehearsal :=
  let ended := (rehearsal.cancel.step?).getD rehearsal.cancel
  let (session, board) := ended.session.finishClosing ended.board
  { ended with session, board }

/-- Change the board from outside. -/
def withBoard (rehearsal : Rehearsal) (board : Board) : Rehearsal := { rehearsal with board }

end Rehearsal

end LiveSearch
