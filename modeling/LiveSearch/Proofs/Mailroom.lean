import LiveSearch.Mailroom
import LiveSearch.Proofs.Map

/-! # Boxes behind the operations of a mailroom

Each operation is described by the boxes that stand at the addresses behind it: it changes the box
at its own address and leaves all others as they are.
-/

namespace LiveSearch

/-- The item that a reader finds, if there is one. -/
def Found.toList {α : Type} : Found α → List α
  | item value => [value]
  | _ => []

/-- What is read from a box and what it holds then is what it has held. -/
private theorem Box.toList_read {α : Type} (box : Box α) :
    box.read.1.toList ++ box.read.2.items = box.items := by
  obtain ⟨items, ended⟩ := box
  cases items with
  | nil => cases ended <;> rfl
  | cons item rest => rfl

namespace Mailroom

variable {α : Type} (room : Mailroom α)

theorem isOpen_iff (address : Nat) :
    room.isOpen address = true ↔ ∃ box, room.boxes[address]? = some box := by
  rw [isOpen, Std.TreeMap.contains_eq_isSome_getElem?, Option.isSome_iff_exists]

theorem boxes_openBox (items : List α) (address : Nat) :
    (room.openBox items).2.boxes[address]? =
      if room.next = address then some ⟨items, false⟩ else room.boxes[address]? := by
  simp only [openBox, lookup_insert]

/-- Changing the box at an address, if there is one, changes no other box. -/
private theorem getElem?_change (boxes : Std.TreeMap Nat (Box α)) (change : Box α → Box α)
    (address other : Nat) :
    (match boxes[address]? with
      | none => boxes
      | some box => boxes.insert address (change box))[other]? =
      if address = other then (boxes[address]?).map change else boxes[other]? := by
  cases found : boxes[address]? with
  | none =>
      by_cases same : address = other
      · subst same
        simp only [found, ↓reduceIte, Option.map_none]
      · simp only [same, ↓reduceIte]
  | some box =>
      simp only [lookup_insert, Option.map_some]

theorem boxes_send (address : Nat) (items : List α) (other : Nat) :
    (room.send address items).boxes[other]? =
      if address = other then
        (room.boxes[address]?).map fun box => { box with items := box.items ++ items }
      else room.boxes[other]? := by
  rw [← getElem?_change room.boxes (fun box => { box with items := box.items ++ items })]
  unfold send
  cases room.boxes[address]? <;> rfl

theorem boxes_finish (address other : Nat) :
    (room.finish address).boxes[other]? =
      if address = other then
        (room.boxes[address]?).map fun box => { box with ended := true }
      else room.boxes[other]? := by
  rw [← getElem?_change room.boxes (fun box => { box with ended := true })]
  unfold finish
  cases room.boxes[address]? <;> rfl

theorem boxes_read (address other : Nat) :
    (room.read address).2.boxes[other]? =
      if address = other then (room.boxes[address]?).map fun box => box.read.2
      else room.boxes[other]? := by
  rw [← getElem?_change room.boxes fun box => box.read.2]
  unfold read
  cases room.boxes[address]? <;> rfl

theorem boxes_readAll (address other : Nat) :
    (room.readAll address).2.boxes[other]? =
      if address = other then (room.boxes[address]?).map fun box => { box with items := [] }
      else room.boxes[other]? := by
  rw [← getElem?_change room.boxes fun box => { box with items := [] }]
  unfold readAll
  cases room.boxes[address]? <;> rfl

theorem boxes_close (address other : Nat) :
    (room.close address).boxes[other]? =
      if address = other then none else room.boxes[other]? := by
  simp only [close, lookup_erase]

/-- A box that is changed stays open, and no other one is opened. -/
private theorem isOpen_of_change {after : Mailroom α} {change : Box α → Box α}
    {address other : Nat} (changed : after.boxes[other]? =
      if address = other then (room.boxes[address]?).map change else room.boxes[other]?) :
    after.isOpen other = room.isOpen other := by
  simp only [isOpen, Std.TreeMap.contains_eq_isSome_getElem?, changed]
  split
  · rename_i same
    rw [Option.isSome_map, same]
  · rfl

@[simp] theorem isOpen_read (address other : Nat) :
    (room.read address).2.isOpen other = room.isOpen other :=
  room.isOpen_of_change (room.boxes_read address other)

@[simp] theorem isOpen_readAll (address other : Nat) :
    (room.readAll address).2.isOpen other = room.isOpen other :=
  room.isOpen_of_change (room.boxes_readAll address other)

theorem isOpen_close (address other : Nat) :
    (room.close address).isOpen other = (address ≠ other && room.isOpen other) := by
  simp only [isOpen, Std.TreeMap.contains_eq_isSome_getElem?, boxes_close]
  split
  · rename_i same
    simp only [same, ne_eq, not_true, decide_false, Bool.false_and, Option.isSome_none]
  · rename_i different
    simp only [different, ne_eq, not_false_eq_true, decide_true, Bool.true_and]

theorem isOpen_openBox (items : List α) (other : Nat) :
    (room.openBox items).2.isOpen other = (room.next = other || room.isOpen other) := by
  simp only [isOpen, Std.TreeMap.contains_eq_isSome_getElem?, boxes_openBox]
  split
  · rename_i same
    simp only [same, decide_true, Bool.true_or, Option.isSome_some]
  · rename_i different
    simp only [different, decide_false, Bool.false_or]

@[simp] theorem next_send (address : Nat) (items : List α) :
    (room.send address items).next = room.next := by
  unfold send
  split <;> rfl

@[simp] theorem next_finish (address : Nat) : (room.finish address).next = room.next := by
  unfold finish
  split <;> rfl

@[simp] theorem next_read (address : Nat) : (room.read address).2.next = room.next := by
  unfold read
  split <;> rfl

@[simp] theorem next_readAll (address : Nat) : (room.readAll address).2.next = room.next := by
  unfold readAll
  split <;> rfl

@[simp] theorem next_close (address : Nat) : (room.close address).next = room.next := rfl

/-- An address that has been given out is not opened a second time. -/
structure Ages (before after : Mailroom α) : Prop where
  next : before.next ≤ after.next
  former : ∀ address < before.next, after.isOpen address = true → before.isOpen address = true

theorem Ages.refl (room : Mailroom α) : room.Ages room := ⟨Nat.le_refl _, fun _ _ => id⟩

theorem Ages.trans {first second third : Mailroom α} (one : first.Ages second)
    (two : second.Ages third) : first.Ages third where
  next := Nat.le_trans one.next two.next
  former address known isOpen :=
    one.former address known (two.former address (Nat.lt_of_lt_of_le known one.next) isOpen)

/-- What opens no box gives out no address. -/
theorem Ages.of_isOpen {before after : Mailroom α} (next : after.next = before.next)
    (isOpen : ∀ address, after.isOpen address = true → before.isOpen address = true) :
    before.Ages after :=
  ⟨Nat.le_of_eq next.symm, fun address _ => isOpen address⟩

theorem close_ages (address : Nat) : room.Ages (room.close address) :=
  .of_isOpen rfl fun other isOpen => by
    rw [isOpen_close, Bool.and_eq_true] at isOpen
    exact isOpen.2

theorem openBox_ages (items : List α) : room.Ages (room.openBox items).2 where
  next := Nat.le_succ _
  former address known isOpen := by
    rw [isOpen_openBox, Bool.or_eq_true, decide_eq_true_eq] at isOpen
    exact isOpen.resolve_left (Nat.ne_of_gt known)

/-- What a reader finds is what its box gives. -/
theorem read_of_box {address : Nat} {box : Box α} (found : room.boxes[address]? = some box) :
    (room.read address).1 = box.read.1 := by
  simp only [read, found]

theorem readAll_of_box {address : Nat} {box : Box α} (found : room.boxes[address]? = some box) :
    (room.readAll address).1 = box.items := by
  simp only [readAll, found]

theorem waiting_of_box {address : Nat} {box : Box α} (found : room.boxes[address]? = some box) :
    room.waiting address = box.items := by
  simp only [waiting, found]

/-- What is read and what waits then is what has waited. -/
theorem toList_read (address : Nat) :
    (room.read address).1.toList ++ (room.read address).2.waiting address =
      room.waiting address := by
  rw [waiting, boxes_read, if_pos rfl]
  cases found : room.boxes[address]? with
  | none => simp only [read, waiting, found, Found.toList, Option.map_none, List.nil_append]
  | some box =>
      rw [read_of_box _ found, waiting_of_box _ found]
      exact box.toList_read

/-- What is read and what waits then is what has waited. -/
theorem readAll_append (address : Nat) :
    (room.readAll address).1 ++ (room.readAll address).2.waiting address =
      room.waiting address := by
  rw [waiting, boxes_readAll, if_pos rfl]
  cases found : room.boxes[address]? with
  | none => simp only [readAll, waiting, found, Option.map_none, List.nil_append]
  | some box =>
      rw [readAll_of_box _ found, waiting_of_box _ found]
      exact List.append_nil _

/-- One item sent to several addresses arrives at each as often as the address is named. -/
theorem boxes_sendEach (addresses : List Nat) (item : α) (other : Nat) :
    (addresses.foldl (fun room address => room.send address [item]) room).boxes[other]? =
      (room.boxes[other]?).map fun box =>
        { box with items := box.items ++ List.replicate (addresses.count other) item } := by
  induction addresses generalizing room with
  | nil =>
      simp only [List.foldl_nil, List.count_nil, List.replicate_zero, List.append_nil,
        Option.map_id']
  | cons address rest ih =>
      rw [List.foldl_cons, ih, boxes_send]
      by_cases same : address = other
      · subst same
        simp only [↓reduceIte, Option.map_map, List.count_cons_self, List.replicate_succ,
          Function.comp_def, List.append_assoc, List.singleton_append]
      · simp only [same, ↓reduceIte, List.count_cons_of_ne same]

end Mailroom

end LiveSearch
