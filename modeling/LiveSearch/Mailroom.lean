import Std.Data.TreeMap

/-!
# Mailrooms

Items travel to their readers through boxes.  A box exists as long as its reader keeps it: what is
sent to a box that has been closed is lost, and the sender learns so.  A sender that ends leaves
behind the items that have not been read.
-/

namespace LiveSearch

/-- The items on their way to one reader, oldest first, and whether no more will come. -/
structure Box (α : Type) where
  items : List α
  ended : Bool

/-- The boxes of all readers of one kind of item, by address. -/
structure Mailroom (α : Type) where
  next : Nat
  boxes : Std.TreeMap Nat (Box α)

/-- What a reader finds. -/
inductive Found (α : Type)
  /-- Nothing yet. -/
  | nothing
  | item (value : α)
  /-- The sender has ended and everything has been read. -/
  | finish

/-- What the reader of a box finds, and the box without it. -/
def Box.read {α : Type} (box : Box α) : Found α × Box α :=
  match box.items with
  | item :: rest => (.item item, { box with items := rest })
  | [] => (if box.ended then .finish else .nothing, box)

namespace Mailroom

variable {α : Type}

/-- The mailroom without boxes. -/
def empty : Mailroom α := ⟨0, ∅⟩

/-- Open a box at a new address. -/
def openBox (room : Mailroom α) (items : List α) : Nat × Mailroom α :=
  (room.next, ⟨room.next + 1, room.boxes.insert room.next ⟨items, false⟩⟩)

/-- Whether a reader keeps the box at an address. -/
def isOpen (room : Mailroom α) (address : Nat) : Bool := room.boxes.contains address

/-- The items that wait at an address. -/
def waiting (room : Mailroom α) (address : Nat) : List α :=
  match room.boxes[address]? with
  | some box => box.items
  | none => []

/-- Send items; nothing happens where no reader is. -/
def send (room : Mailroom α) (address : Nat) (items : List α) : Mailroom α :=
  match room.boxes[address]? with
  | none => room
  | some box =>
    { room with boxes := room.boxes.insert address { box with items := box.items ++ items } }

/-- End the sending to an address. -/
def finish (room : Mailroom α) (address : Nat) : Mailroom α :=
  match room.boxes[address]? with
  | none => room
  | some box => { room with boxes := room.boxes.insert address { box with ended := true } }

/-- Read at an address. -/
def read (room : Mailroom α) (address : Nat) : Found α × Mailroom α :=
  match room.boxes[address]? with
  | none => (.nothing, room)
  | some box => ((box.read).1, { room with boxes := room.boxes.insert address (box.read).2 })

/-- Read everything that waits at an address. -/
def readAll (room : Mailroom α) (address : Nat) : List α × Mailroom α :=
  match room.boxes[address]? with
  | none => ([], room)
  | some box =>
    (box.items, { room with boxes := room.boxes.insert address { box with items := [] } })

/-- Whether the sender to an address has ended and everything has been read. -/
def isFinished (room : Mailroom α) (address : Nat) : Bool :=
  match room.boxes[address]? with
  | none => false
  | some box => box.ended && box.items.isEmpty

/-- Close the box at an address and lose what waits in it. -/
def close (room : Mailroom α) (address : Nat) : Mailroom α :=
  { room with boxes := room.boxes.erase address }

end Mailroom

end LiveSearch
