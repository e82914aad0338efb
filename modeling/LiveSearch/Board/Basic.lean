import Std.Data.TreeSet
import LiveSearch.Board.Write
import LiveSearch.Error
import LiveSearch.Mailroom
import LiveSearch.Pattern

/-!
# Published lists

The board keeps the published lists.  Clients write through handles: a handle for a list that does
not exist yet reserves an incarnation for it, and the first write creates the list in that
incarnation.  When a list is deleted its incarnation is withdrawn for good, and every handle of
the incarnation knows.  Each successful write is sent to the observers and kept in the journal.
-/

namespace LiveSearch

/-- A published list: its entries and the incarnation in which it exists. -/
structure PublishedList where
  entries : List String
  incarnation : Nat

/-- A subscription to a name, or the end of one. -/
structure Notice where
  name : String
  subscribed : Bool
deriving DecidableEq

/-- A reader of notices about names that match a pattern. -/
structure Listener where
  pattern : Pattern.Regex
  address : Nat

/-- The published lists and everyone who reads about them. -/
structure Board where
  lists : Std.TreeMap String PublishedList
  /-- The incarnations whose deletion has been signalled. -/
  withdrawn : Std.TreeSet Nat
  nextIncarnation : Nat
  /-- The latest writes, oldest first. -/
  journal : List ListWrite
  capacity : Nat
  observers : List Nat
  writeRoom : Mailroom ListWrite
  listeners : List Listener
  noticeRoom : Mailroom Notice
  /-- What every write fails with at present. -/
  failure : Option ServiceError

/-- The right of a client to write a list.  It is pending while the handle holds the reserved
incarnation of a list that it has not created. -/
structure Handle where
  name : String
  incarnation : Nat
  pending : Bool

namespace Board

/-- The number of writes in the journal unless another number is chosen. -/
def defaultCapacity : Nat := 10000

/-- The board without lists. -/
def empty (capacity : Nat) : Board := ⟨∅, ∅, 0, [], capacity, [], .empty, [], .empty, none⟩

/-- The entries of a list that exists. -/
def entries? (board : Board) (name : String) : Option (List String) :=
  (board.lists[name]?).map PublishedList.entries

/-- The names of the lists, in order. -/
def names (board : Board) : List String := board.lists.keys

/-- The journal entries of one list. -/
def journalFor (board : Board) (name : String) : List ListWrite :=
  board.journal.filter fun write => write.name = name

/-- Send a write to the observers; those that are gone are forgotten. -/
def notifyObservers (board : Board) (write : ListWrite) : Board :=
  { board with
    observers := board.observers.filter board.writeRoom.isOpen
    writeRoom := board.observers.foldl (fun room address => room.send address [write])
      board.writeRoom }

/-- Keep a write in the journal, which drops its oldest one when it is full. -/
def keepInJournal (board : Board) (write : ListWrite) : Board :=
  if board.capacity = 0 then board
  else if board.journal.length = board.capacity then
    { board with journal := board.journal.drop 1 ++ [write] }
  else { board with journal := board.journal ++ [write] }

/-- Record a successful write. -/
def record (board : Board) (write : ListWrite) : Board :=
  (board.notifyObservers write).keepInJournal write

/-- Take a list away, while nobody else uses the lists. -/
def unlist (board : Board) (name : String) : Board := { board with lists := board.lists.erase name }

/-- Signal that the list of an incarnation has been deleted, and record the deletion. -/
def signal (board : Board) (name : String) (incarnation : Nat) : Board :=
  { board with withdrawn := board.withdrawn.insert incarnation }.record (.delete name)

/-- Delete a list; tell whether it existed. -/
def deleteList (board : Board) (name : String) : Board × Bool :=
  match board.lists[name]? with
  | none => (board, false)
  | some list => ((board.unlist name).signal name list.incarnation, true)

/-- Make every write fail from now on, or let writes succeed again. -/
def setFailure (board : Board) (failure : Option ServiceError) : Board := { board with failure }

/-- Read all writes from now on. -/
def observe (board : Board) : Nat × Board :=
  let (address, writeRoom) := board.writeRoom.openBox []
  (address, { board with observers := board.observers ++ [address], writeRoom })

/-- What an observer finds of the writes, all of which it has read then. -/
def readWrites (board : Board) (address : Nat) : List ListWrite × Board :=
  let (writes, writeRoom) := board.writeRoom.readAll address
  (writes, { board with writeRoom })

/-- Read no more writes. -/
def stopObserving (board : Board) (address : Nat) : Board :=
  { board with writeRoom := board.writeRoom.close address }

/-- Read the notices about names that match a pattern from now on. -/
def listen (board : Board) (pattern : String) : Except ServiceError (Nat × Board) :=
  match Pattern.compile? pattern with
  | none => .error (.unavailable "<regex>")
  | some regex =>
    let (address, noticeRoom) := board.noticeRoom.openBox []
    .ok (address,
      { board with listeners := board.listeners ++ [⟨regex, address⟩], noticeRoom })

/-- What a listener finds of the notices, all of which it has read then. -/
def readNotices (board : Board) (address : Nat) : List Notice × Board :=
  let (notices, noticeRoom) := board.noticeRoom.readAll address
  (notices, { board with noticeRoom })

/-- Read no more notices. -/
def stopListening (board : Board) (address : Nat) : Board :=
  { board with noticeRoom := board.noticeRoom.close address }

/-- Send a notice to the listeners whose pattern its name matches; those of them that are gone are
forgotten. -/
def notify (board : Board) (notice : Notice) : Board :=
  let concerned := board.listeners.filter fun listener => listener.pattern.isMatch notice.name
  { board with
    listeners := board.listeners.filter fun listener =>
      !listener.pattern.isMatch notice.name || board.noticeRoom.isOpen listener.address
    noticeRoom := concerned.foldl (fun room listener => room.send listener.address [notice])
      board.noticeRoom }

/-- A client subscribes to a name. -/
def subscribe (board : Board) (name : String) : Board := board.notify ⟨name, true⟩

/-- A client gives up a subscription to a name. -/
def unsubscribe (board : Board) (name : String) : Board := board.notify ⟨name, false⟩

/-- A handle for a list, which need not exist. -/
def handleFor (board : Board) (name : String) : Handle × Board :=
  match board.lists[name]? with
  | some list => (⟨name, list.incarnation, false⟩, board)
  | none =>
    (⟨name, board.nextIncarnation, true⟩,
      { board with nextIncarnation := board.nextIncarnation + 1 })

/-- Whether the incarnation of a handle has been deleted. -/
def isWithdrawn (board : Board) (handle : Handle) : Bool :=
  board.withdrawn.contains handle.incarnation

end Board

namespace Handle

/-- The failure of a write to a list that has been deleted. -/
def gone (handle : Handle) : ServiceError := .publish ("list `" ++ handle.name ++ "` was deleted")

/-- Change the entries of a list, while nobody else uses the lists, and record the write.  A list
that exists is written whoever created it; otherwise a pending handle creates it. -/
def commit (handle : Handle) (board : Board) (edit : List String → List String)
    (write : ListWrite) : Handle × Board × Except ServiceError Unit :=
  match board.lists[handle.name]? with
  | some list =>
    let lists := board.lists.insert handle.name { list with entries := edit list.entries }
    (handle, { board with lists }.record write, .ok ())
  | none =>
    if handle.pending then
      let lists := board.lists.insert handle.name ⟨edit [], handle.incarnation⟩
      ({ handle with pending := false }, { board with lists }.record write, .ok ())
    else (handle, board, .error handle.gone)

/-- Write through a handle, unless writes fail at present or its list has been deleted. -/
def write (handle : Handle) (board : Board) (edit : List String → List String)
    (write : ListWrite) : Handle × Board × Except ServiceError Unit :=
  match board.failure with
  | some failure => (handle, board, .error failure)
  | none =>
    if board.isWithdrawn handle then (handle, board, .error handle.gone)
    else handle.commit board edit write

/-- Replace all entries. -/
def setEntries (handle : Handle) (board : Board) (entries : List String) :
    Handle × Board × Except ServiceError Unit :=
  handle.write board (fun _ => entries) (.set handle.name entries)

/-- Add an entry at the end. -/
def addEntry (handle : Handle) (board : Board) (entry : String) :
    Handle × Board × Except ServiceError Unit :=
  handle.write board (· ++ [entry]) (.add handle.name entry)

/-- Remove the first entry that is equal to the given one. -/
def removeEntry (handle : Handle) (board : Board) (entry : String) :
    Handle × Board × Except ServiceError Unit :=
  handle.write board (·.erase entry) (.remove handle.name entry)

/-- Give up the reserved incarnation. -/
def giveUp (handle : Handle) (board : Board) : Handle × Board :=
  ({ handle with pending := false },
    { board with withdrawn := board.withdrawn.insert handle.incarnation })

/-- Delete the list.  A handle that has not created its list gives up the reserved incarnation, and
one whose incarnation is gone does nothing. -/
def delete (handle : Handle) (board : Board) : Handle × Board :=
  if handle.pending then handle.giveUp board
  else if board.isWithdrawn handle then (handle, board)
  else (handle, (board.deleteList handle.name).1)

end Handle

end LiveSearch
