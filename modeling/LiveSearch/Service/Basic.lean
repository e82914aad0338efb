import LiveSearch.Query.Name
import LiveSearch.Query.Plan
import LiveSearch.Session
import LiveSearch.Store.Database

/-!
# The search service

The service holds the record store, the board of published lists, every session that was ever
opened, and the registry of the searches that have subscribers.  Sessions advance one step at a
time; `Service.step?` is the next step of one session, and `none` while it can only wait.
-/

namespace LiveSearch

/-- A session with what it reads: the rest of the result of its query and its changefeed. -/
structure Running where
  session : Session
  plan : Plan
  /-- What the query has been answered, until the changefeed is asked for. -/
  answer : Option (Except ServiceError (List Json))
  rows : List SnapshotItem
  feed : Option Nat

/-- A search with subscribers. -/
structure Entry where
  session : Nat
  subscribers : Nat

/-- The report of a session that its list has been deleted from outside. -/
structure Detachment where
  name : String
  session : Nat
deriving DecidableEq

/-- The whole service. -/
structure Service where
  primaryKey : String
  database : Database
  board : Board
  running : Std.TreeMap Nat Running
  nextSession : Nat
  entries : Std.TreeMap String Entry
  /-- Reports that nobody has read yet, oldest first. -/
  detachments : List Detachment

namespace Running

/-- Give up everything that an ended worker was reading. -/
def release (running : Running) (database : Database) : Running × Database :=
  match running.feed with
  | some address => ({ running with rows := [], feed := none }, database.release address)
  | none => ({ running with rows := [] }, database)

/-- Send the query. -/
def ask (running : Running) (database : Database) : Running × Database × Signal :=
  let (database, answer) := database.query running.plan
  ({ running with answer := some answer }, database, .queried)

/-- Open the changefeed behind the query, whether the query has succeeded or not. -/
def connect (running : Running) (database : Database) (answer : Except ServiceError (List Json)) :
    Running × Database × Signal :=
  let (database, feed) := database.subscribe running.plan
  let running := { running with answer := none }
  match answer, feed with
  | .ok records, .ok address =>
    ({ running with rows := records.map .ok, feed := some address }, database, .opened)
  | .error cause, .ok address => (running, database.release address, .refused cause)
  | .error cause, .error _ => (running, database, .refused cause)
  | .ok _, .error cause => (running, database, .refused cause)

/-- What the worker finds at its changefeed. -/
def findEvent (running : Running) (database : Database) : Found FeedItem :=
  match running.feed with
  | some address => (database.feedRoom.read address).1
  | none => .nothing

/-- The state of reading after a signal: the row or event that it carried has been read. -/
def consume (running : Running) (database : Database) : Signal → Running × Database
  | .row _ => ({ running with rows := running.rows.drop 1 }, database)
  | .event _ =>
    match running.feed with
    | some address =>
      (running, { database with feedRoom := (database.feedRoom.read address).2 })
    | none => (running, database)
  | _ => (running, database)

/-- The next signal of a worker, and the state of reading behind it.  The query and the changefeed
are two calls, between which the store may change; only before the first one does the worker look
whether it has been cancelled. -/
def nextSignal (running : Running) (board : Board) (database : Database) :
    Option (Running × Database × Signal) :=
  match running.session.phase, running.answer, running.session.cancelled with
  | .opening, some answer, _ => some (running.connect database answer)
  | .opening, none, false => some (running.ask database)
  | _, _, _ =>
    (running.session.pendingSignal board running.rows (running.findEvent database)).map
      fun signal =>
        let (running, database) := running.consume database signal
        (running, database, signal)

end Running

namespace Service

/-- A service without sessions. -/
def start (primaryKey : String) (database : Database) (board : Board) : Service :=
  ⟨primaryKey, database, board, ∅, 1, ∅, []⟩

/-- Tell a session something and let it act. -/
def deliver (service : Service) (id : Nat) (running : Running) (signal : Signal) : Service :=
  let (session, board) := running.session.receive service.board signal
  let detachments :=
    if running.session.detaches signal then service.detachments ++ [⟨session.name, id⟩]
    else service.detachments
  let running := { running with session }
  let (running, database) :=
    if session.phase.isStopped then running.release service.database
    else (running, service.database)
  { service with
    database, board, detachments, running := service.running.insert id running }

/-- The next step of a session; `none` while it can only wait. -/
def step? (service : Service) (id : Nat) : Option Service := do
  let running ← service.running[id]?
  let (running, database, signal) ← running.nextSignal service.board service.database
  return { service with database }.deliver id running signal

/-- Change a session. -/
def modifySession (service : Service) (id : Nat) (change : Session → Session) : Service :=
  match service.running[id]? with
  | none => service
  | some running =>
    { service with
      running := service.running.insert id { running with session := change running.session } }

/-- Open a session for a query. -/
def openSession (service : Service) (name : String) (descriptor : Descriptor) : Nat × Service :=
  let session := Session.start name service.primaryKey
  let running : Running := ⟨session, descriptor.plan service.primaryKey, none, [], none⟩
  (service.nextSession,
    { service with
      running := service.running.insert service.nextSession running
      nextSession := service.nextSession + 1 })

/-- One subscription more.  The first one opens a session; a name that is no query is ignored. -/
def addSubscriber (service : Service) (name : String) : Service :=
  match service.entries[name]? with
  | some entry =>
    { service with
      entries := service.entries.insert name { entry with subscribers := entry.subscribers + 1 } }
  | none =>
    match Descriptor.ofName name with
    | .error _ => service
    | .ok descriptor =>
      let (id, service) := service.openSession name descriptor
      { service with entries := service.entries.insert name ⟨id, 1⟩ }

/-- Remove the entry of a name and begin to close its session. -/
def removeEntry (service : Service) (name : String) (entry : Entry) : Service × Option Nat :=
  ({ service with entries := service.entries.erase name }.modifySession entry.session
      Session.cancel,
    some entry.session)

/-- One subscription less.  With the last one the entry goes, and its session has to be closed. -/
def dropSubscriber (service : Service) (name : String) : Service × Option Nat :=
  match service.entries[name]? with
  | none => (service, none)
  | some entry =>
    if 0 < entry.subscribers - 1 then
      ({ service with
          entries :=
            service.entries.insert name { entry with subscribers := entry.subscribers - 1 } },
        none)
    else service.removeEntry name entry

/-- A session has been detached: its entry goes, unless the name has another session by now. -/
def dropDetached (service : Service) (report : Detachment) : Service × Option Nat :=
  match service.entries[report.name]? with
  | none => (service, none)
  | some entry =>
    if entry.session = report.session then service.removeEntry report.name entry
    else (service, none)

/-- Whether the worker of a session has ended. -/
def hasStopped (service : Service) (id : Nat) : Bool :=
  (service.running[id]?).any (·.session.phase.isStopped)

/-- Finish the closing of a session whose worker has ended. -/
def finishClosing (service : Service) (id : Nat) : Service :=
  match service.running[id]? with
  | none => service
  | some running =>
    let (session, board) := running.session.finishClosing service.board
    { service with board, running := service.running.insert id { running with session } }

/-- Let a session take its next step unless it can only wait. -/
def advance (service : Service) (id : Nat) : Service := (service.step? id).getD service

/-- Wait for the worker of a cancelled session: it ends with its next step, or, if its query has
been answered, with the one after it. -/
def awaitEnd (service : Service) (id : Nat) : Service := (service.advance id).advance id

/-- Wait for the worker of a cancelled session and finish the closing. -/
def awaitClosing (service : Service) (id : Nat) : Service :=
  (service.awaitEnd id).finishClosing id

/-- Apply one subscription or the end of one, and wait for a session that it closes. -/
def applyNotice (service : Service) (notice : Notice) : Service :=
  if notice.subscribed then service.addSubscriber notice.name
  else match service.dropSubscriber notice.name with
    | (service, none) => service
    | (service, some id) => service.awaitClosing id

/-- Act on the report of a detached session, and wait for its closing. -/
def applyDetachment (service : Service) (report : Detachment) : Service :=
  match service.dropDetached report with
  | (service, none) => service
  | (service, some id) => service.awaitClosing id

/-- Close sessions one after another. -/
def closeEach (service : Service) (ids : List Nat) : Service :=
  ids.foldl (fun service id => (service.modifySession id Session.cancel).awaitClosing id) service

/-- Close the sessions of all entries, in the order of their names. -/
def closeAll (service : Service) : Service :=
  { service with entries := ∅ }.closeEach (service.entries.values.map Entry.session)

/-- What is visible of an entry. -/
structure Summary where
  name : String
  session : Nat
  subscribers : Nat

/-- The entries in the order of their names. -/
def summaries (service : Service) : List Summary :=
  service.entries.toList.map fun (name, entry) => ⟨name, entry.session, entry.subscribers⟩

/-- The state of a session. -/
def stateOf (service : Service) (id : Nat) : SessionState :=
  match service.running[id]? with
  | some running => running.session.state
  | none => .closed

/-- Change the record store. -/
def withDatabase (service : Service) (database : Database) : Service := { service with database }

/-- Change the board. -/
def withBoard (service : Service) (board : Board) : Service := { service with board }

end Service

end LiveSearch
