import LiveSearch.Proofs.Board.Basic

/-! # What an observer learns

An address watches a board when exactly one observer stands there and its box is open
(`LiveSearch.Board.IsWatched`). Such an observer receives every write that is recorded, once and in
order (`LiveSearch.Board.waiting_record`), so the writes of one client are those that arrive while
that client acts (`LiveSearch.Board.newWrites`).
-/

namespace LiveSearch

namespace Board

variable {board : Board} {address : Nat}

/-- One observer reads at the address. -/
structure IsWatched (board : Board) (address : Nat) : Prop where
  once : board.observers.count address = 1
  isOpen : board.writeRoom.isOpen address = true

/-- The writes that have arrived at an address between two boards. -/
def newWrites (before after : Board) (address : Nat) : List ListWrite :=
  (after.writeRoom.waiting address).drop (before.writeRoom.waiting address).length

@[simp] theorem newWrites_self (board : Board) (address : Nat) :
    board.newWrites board address = [] := by
  rw [newWrites, List.drop_length]

@[simp] theorem observers_record (board : Board) (write : ListWrite) :
    (board.record write).observers = board.observers.filter board.writeRoom.isOpen := by
  unfold record keepInJournal
  split
  · rfl
  · split <;> rfl

@[simp] theorem writeRoom_record (board : Board) (write : ListWrite) :
    (board.record write).writeRoom =
      board.observers.foldl (fun room address => room.send address [write]) board.writeRoom := by
  unfold record keepInJournal
  split
  · rfl
  · split <;> rfl

/-- An observer receives a write that is recorded. -/
theorem waiting_record (watched : board.IsWatched address) (write : ListWrite) :
    (board.record write).writeRoom.waiting address =
      board.writeRoom.waiting address ++ [write] := by
  obtain ⟨box, found⟩ := (Mailroom.isOpen_iff _ _).mp watched.isOpen
  have after : (board.record write).writeRoom.boxes[address]? =
      some { box with items := box.items ++ [write] } := by
    rw [writeRoom_record, Mailroom.boxes_sendEach, found, watched.once, Option.map_some,
      List.replicate_one]
  rw [Mailroom.waiting_of_box _ after, Mailroom.waiting_of_box _ found]

theorem IsWatched.record (watched : board.IsWatched address) (write : ListWrite) :
    (board.record write).IsWatched address where
  once := by
    rw [observers_record, List.count_filter watched.isOpen, watched.once]
  isOpen := by
    obtain ⟨box, found⟩ := (Mailroom.isOpen_iff _ _).mp watched.isOpen
    refine (Mailroom.isOpen_iff _ _).mpr ⟨{ box with items := box.items ++ [write] }, ?_⟩
    rw [writeRoom_record, Mailroom.boxes_sendEach, found, watched.once, Option.map_some,
      List.replicate_one]

theorem newWrites_record (watched : board.IsWatched address) (write : ListWrite) :
    board.newWrites (board.record write) address = [write] := by
  rw [newWrites, waiting_record watched, List.drop_left]

/-- The deletion of a list that exists is recorded; nothing else is. -/
theorem newWrites_deleteList (watched : board.IsWatched address) (name : String) :
    board.newWrites (board.deleteList name).1 address =
      if (board.lists[name]?).isSome then [.delete name] else [] := by
  unfold deleteList
  cases found : board.lists[name]? with
  | none => simp only [newWrites_self, Option.isSome_none, Bool.false_eq_true, ↓reduceIte]
  | some list =>
      simp only [Option.isSome_some, ↓reduceIte]
      have same : IsWatched { board with
          lists := board.lists.erase name
          withdrawn := board.withdrawn.insert list.incarnation } address :=
        ⟨watched.once, watched.isOpen⟩
      exact newWrites_record same (.delete name)

theorem IsWatched.deleteList (watched : board.IsWatched address) (name : String) :
    (board.deleteList name).1.IsWatched address := by
  unfold Board.deleteList
  cases board.lists[name]? with
  | none => exact watched
  | some list =>
      have same : IsWatched { board with
          lists := board.lists.erase name
          withdrawn := board.withdrawn.insert list.incarnation } address :=
        ⟨watched.once, watched.isOpen⟩
      exact same.record (.delete name)

/-- Asking for a handle is no write. -/
theorem IsWatched.handleFor (watched : board.IsWatched address) (name : String) :
    (board.handleFor name).2.IsWatched address := by
  unfold Board.handleFor
  split
  · exact watched
  · exact ⟨watched.once, watched.isOpen⟩

@[simp] theorem newWrites_handleFor (board : Board) (name : String) (address : Nat) :
    board.newWrites (board.handleFor name).2 address = [] := by
  unfold Board.handleFor
  split
  · exact newWrites_self board address
  · exact newWrites_self board address

end Board

namespace Handle

variable {board : Board} {address : Nat} (handle : Handle) (edit : List String → List String)
  (write : ListWrite)

theorem newWrites_rewritten (watched : board.IsWatched address) (list : PublishedList) :
    board.newWrites (handle.rewritten board edit write list) address = [write] := by
  have same : Board.IsWatched { board with
      lists := board.lists.insert handle.name
        { list with entries := edit list.entries } } address :=
    ⟨watched.once, watched.isOpen⟩
  exact Board.newWrites_record same write

theorem isWatched_rewritten (watched : board.IsWatched address) (list : PublishedList) :
    (handle.rewritten board edit write list).IsWatched address := by
  have same : Board.IsWatched { board with
      lists := board.lists.insert handle.name
        { list with entries := edit list.entries } } address :=
    ⟨watched.once, watched.isOpen⟩
  exact same.record write

theorem newWrites_created (watched : board.IsWatched address) :
    board.newWrites (handle.created board edit write) address = [write] := by
  have same : Board.IsWatched { board with
      lists := board.lists.insert handle.name ⟨edit [], handle.incarnation⟩ } address :=
    ⟨watched.once, watched.isOpen⟩
  exact Board.newWrites_record same write

theorem isWatched_created (watched : board.IsWatched address) :
    (handle.created board edit write).IsWatched address := by
  have same : Board.IsWatched { board with
      lists := board.lists.insert handle.name ⟨edit [], handle.incarnation⟩ } address :=
    ⟨watched.once, watched.isOpen⟩
  exact same.record write

end Handle

end LiveSearch
