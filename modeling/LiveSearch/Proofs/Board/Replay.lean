import LiveSearch.Proofs.Board.Clients
import LiveSearch.Proofs.Board.Observation

/-! # The lists are the replay of the recorded writes

Clients write and delete lists through handles and by name, writing is made to fail and to work
again, and readers of the writes come and go, in any order (`LiveSearch.Ledger.run`). What the
clients are told says which writes have been made. Step by step, replaying these writes gives the
lists (`LiveSearch.Board.Replays`), the journal keeps the latest of them, and each reader receives
those made since it came (`LiveSearch.Board.Keeps`). The main result is
`LiveSearch.Ledger.faithful_run`.
-/

namespace LiveSearch

/-- Someone who reads the writes: where they arrive, how many had been made before, and what has
been read so far. -/
structure Reader where
  address : Nat
  since : Nat
  received : List ListWrite

/-- The lists after one more write. -/
theorem ListWrite.replay_append (writes : List ListWrite) (write : ListWrite) (name : String) :
    (replay (writes ++ [write]))[name]? =
      if write.name = name then write.apply (replay writes)[name]? else (replay writes)[name]? := by
  rw [replay, List.foldl_append]
  change ((replay writes).alter write.name write.apply)[name]? = _
  rw [Std.TreeMap.getElem?_alter]
  by_cases same : write.name = name
  · subst same
    simp only [Std.ReflCmp.compare_self, ↓reduceIte]
  · simp only [Std.LawfulEqCmp.compare_eq_iff_eq, same, ↓reduceIte]

@[simp] theorem Mailroom.next_sendEach {Item : Type} (room : Mailroom Item) (addresses : List Nat)
    (item : Item) :
    (addresses.foldl (fun room address => room.send address [item]) room).next = room.next := by
  induction addresses generalizing room with
  | nil => rfl
  | cons address rest ih => rw [List.foldl_cons, ih, next_send]

namespace Board

variable {board other : Board} {writes : List ListWrite} {readers : List Reader} {bound : Nat}

theorem journal_record (board : Board) (write : ListWrite) :
    (board.record write).journal =
      if board.capacity = 0 then board.journal
      else if board.journal.length = board.capacity then board.journal.drop 1 ++ [write]
      else board.journal ++ [write] := by
  unfold record keepInJournal
  split
  · rename_i none
    exact (if_pos none).symm
  · rename_i some
    have bounded : ¬ board.capacity = 0 := some
    rw [if_neg bounded]
    split
    · rename_i full
      exact (if_pos full).symm
    · rename_i room
      exact (if_neg room).symm

section Replaying

/-- The lists of a board are the replay of the writes. -/
def Replays (board : Board) (writes : List ListWrite) : Prop :=
  ∀ name, (ListWrite.replay writes)[name]? = board.entries? name

/-- The lists have changed as a write says. -/
theorem Replays.append (replays : board.Replays writes) {write : ListWrite}
    (written : ∀ name, other.entries? name =
      if write.name = name then write.apply (board.entries? name) else board.entries? name) :
    other.Replays (writes ++ [write]) := by
  intro name
  rw [ListWrite.replay_append, replays name, written name]

/-- Nothing but the lists matters to the replay. -/
theorem Replays.of_lists (replays : board.Replays writes) (same : other.lists = board.lists) :
    other.Replays writes := by
  intro name
  rw [replays name, entries?, entries?, same]

theorem replays_empty (capacity : Nat) : (Board.empty capacity).Replays [] := by
  intro name
  rw [ListWrite.replay, List.foldl_nil, Std.TreeMap.getElem?_emptyc, entries?, Board.empty,
    Std.TreeMap.getElem?_emptyc, Option.map_none]

end Replaying

/-- Someone who has read what waits at an address. -/
def readOn (board : Board) (address : Nat) (reader : Reader) : Reader :=
  if reader.address = address then
    { reader with received := reader.received ++ (board.readWrites address).1 }
  else reader

/-- The journal of a board holds the latest of the writes, and its readers have received those made
since they came, as far as these do not wait for them. -/
structure Keeps (board : Board) (bound : Nat) (writes : List ListWrite)
    (readers : List Reader) : Prop where
  capacity : board.capacity = bound
  journal : board.journal = writes.drop (writes.length - bound)
  once : board.observers.Nodup
  known : ∀ address ∈ board.observers, address < board.writeRoom.next
  apart : (readers.map Reader.address).Nodup
  watched : ∀ reader ∈ readers, board.IsWatched reader.address
  since : ∀ reader ∈ readers, reader.since ≤ writes.length
  received : ∀ reader ∈ readers,
    reader.received ++ board.writeRoom.waiting reader.address = writes.drop reader.since

theorem keeps_empty (capacity : Nat) : (empty capacity).Keeps capacity [] [] where
  capacity := rfl
  journal := List.drop_nil.symm
  once := .nil
  known := List.forall_mem_nil _
  apart := .nil
  watched := List.forall_mem_nil _
  since := List.forall_mem_nil _
  received := List.forall_mem_nil _

namespace Keeps

variable (keeps : board.Keeps bound writes readers)

include keeps

/-- Nothing but the journal and the observers matters. -/
theorem of_same (capacity : other.capacity = board.capacity)
    (journal : other.journal = board.journal)
    (observers : other.observers = board.observers) (room : other.writeRoom = board.writeRoom) :
    other.Keeps bound writes readers where
  capacity := capacity.trans keeps.capacity
  journal := journal.trans keeps.journal
  once := observers ▸ keeps.once
  known := by
    rw [observers, room]
    exact keeps.known
  apart := keeps.apart
  watched reader member := by
    have watched := keeps.watched reader member
    exact ⟨observers ▸ watched.once, room ▸ watched.isOpen⟩
  since := keeps.since
  received := by
    rw [room]
    exact keeps.received

/-- One more write is recorded: the full journal drops its oldest one. -/
private theorem journal_after (write : ListWrite) : (board.record write).journal =
    (writes ++ [write]).drop ((writes ++ [write]).length - bound) := by
  rw [journal_record, keeps.capacity, keeps.journal, List.length_append, List.length_singleton,
    List.length_drop]
  split
  · rename_i none
    have all : (writes ++ [write]).drop (writes.length + 1) = [] :=
      List.drop_of_length_le (Nat.le_of_eq List.length_append)
    rw [none, Nat.sub_zero, Nat.sub_zero, List.drop_length, all]
  · split
    · have next : writes.length + 1 - bound = writes.length - bound + 1 := by omega
      rw [List.drop_drop, next, List.drop_append_of_le_length (by omega)]
    · have none : writes.length - bound = 0 := by omega
      have after : writes.length + 1 - bound = 0 := by omega
      rw [none, after, List.drop_zero, List.drop_zero]

theorem record (write : ListWrite) :
    (board.record write).Keeps bound (writes ++ [write]) readers where
  capacity := by
    obtain ⟨_, _, _, same⟩ := board.record_eq write
    rw [same]
    exact keeps.capacity
  journal := keeps.journal_after write
  once := by
    rw [observers_record]
    exact keeps.once.filter _
  known address member := by
    rw [observers_record] at member
    rw [writeRoom_record, Mailroom.next_sendEach]
    exact keeps.known address (List.mem_filter.mp member).1
  apart := keeps.apart
  watched reader member := (keeps.watched reader member).record write
  since reader member := by
    rw [List.length_append]
    exact Nat.le_add_right_of_le (keeps.since reader member)
  received reader member := by
    rw [waiting_record (keeps.watched reader member), ← List.append_assoc,
      keeps.received reader member, List.drop_append_of_le_length (keeps.since reader member)]

/-- Where readers read is known. -/
theorem address_lt {reader : Reader} (member : reader ∈ readers) :
    reader.address < board.writeRoom.next := by
  have once := (keeps.watched reader member).once
  exact keeps.known _ (List.count_pos_iff.mp (once ▸ Nat.one_pos))

/-- What has arrived at an address is kept where nothing changes there. -/
private theorem watched_elsewhere {reader : Reader} (member : reader ∈ readers) (other : Board)
    (observers : other.observers.count reader.address = board.observers.count reader.address)
    (box : other.writeRoom.boxes[reader.address]? = board.writeRoom.boxes[reader.address]?) :
    other.IsWatched reader.address ∧
      reader.received ++ other.writeRoom.waiting reader.address = writes.drop reader.since := by
  have watched := keeps.watched reader member
  refine ⟨⟨observers.trans watched.once, ?_⟩, ?_⟩
  · obtain ⟨open_, found⟩ := (Mailroom.isOpen_iff _ _).mp watched.isOpen
    exact (Mailroom.isOpen_iff _ _).mpr ⟨open_, box.trans found⟩
  · rw [Mailroom.waiting, box]
    exact keeps.received reader member

/-- One more reader comes. -/
theorem observe : board.observe.2.Keeps bound writes
    (readers ++ [⟨board.observe.1, writes.length, []⟩]) := by
  have fresh : board.writeRoom.next ∉ board.observers :=
    fun member => Nat.lt_irrefl _ (keeps.known _ member)
  have old {reader : Reader} (member : reader ∈ readers) :
      board.writeRoom.next ≠ reader.address := Nat.ne_of_gt (keeps.address_lt member)
  have box := (board.writeRoom.boxes_openBox [] board.writeRoom.next).trans (if_pos rfl)
  have former {reader : Reader} (member : reader ∈ readers) :=
    keeps.watched_elsewhere member board.observe.2
      (by
        change (board.observers ++ [board.writeRoom.next]).count reader.address = _
        rw [List.count_append, List.count_singleton, beq_eq_false_iff_ne.mpr (old member),
          if_neg Bool.false_ne_true, Nat.add_zero])
      ((board.writeRoom.boxes_openBox [] reader.address).trans (if_neg (old member)))
  refine ⟨keeps.capacity, keeps.journal, ?_, ?_, ?_, ?_, ?_, ?_⟩
  · refine List.nodup_append.mpr ⟨keeps.once, List.pairwise_singleton _ _, ?_⟩
    rintro address member other single rfl
    exact fresh (List.mem_singleton.mp single ▸ member)
  · refine List.forall_mem_append.mpr ⟨fun address member => ?_, ?_⟩
    · exact Nat.lt_succ_of_lt (keeps.known address member)
    · exact List.forall_mem_singleton.mpr (Nat.lt_succ_self _)
  · rw [List.map_append]
    refine List.nodup_append.mpr ⟨keeps.apart, List.pairwise_singleton _ _, ?_⟩
    rintro address member other single rfl
    obtain ⟨reader, present, same⟩ := List.mem_map.mp member
    exact old present ((List.mem_singleton.mp single).symm.trans same.symm)
  · refine List.forall_mem_append.mpr ⟨fun reader member => (former member).1, ?_⟩
    refine List.forall_mem_singleton.mpr ⟨?_, (Mailroom.isOpen_iff _ _).mpr ⟨_, box⟩⟩
    change (board.observers ++ [board.writeRoom.next]).count board.writeRoom.next = 1
    rw [List.count_append, List.count_eq_zero.mpr fresh, List.count_singleton_self]
  · refine List.forall_mem_append.mpr ⟨keeps.since, ?_⟩
    exact List.forall_mem_singleton.mpr (Nat.le_refl _)
  · refine List.forall_mem_append.mpr ⟨fun reader member => (former member).2, ?_⟩
    refine List.forall_mem_singleton.mpr ?_
    change [] ++ (board.writeRoom.openBox []).2.waiting board.writeRoom.next = _
    rw [Mailroom.waiting_of_box _ box, List.drop_length, List.nil_append]

/-- Someone reads what waits at an address. -/
theorem read (address : Nat) : (board.readWrites address).2.Keeps bound writes
    (readers.map (readOn board address)) := by
  have place (reader : Reader) : (readOn board address reader).address = reader.address := by
    unfold readOn
    split <;> rfl
  have since (reader : Reader) : (readOn board address reader).since = reader.since := by
    unfold readOn
    split <;> rfl
  have boxes (other : Nat) : (board.readWrites address).2.writeRoom.boxes[other]? = _ :=
    board.writeRoom.boxes_readAll address other
  have former {reader : Reader} (member : reader ∈ readers) :
      (board.readWrites address).2.IsWatched reader.address ∧
        (readOn board address reader).received ++
          (board.readWrites address).2.writeRoom.waiting reader.address =
            writes.drop reader.since := by
    by_cases here : reader.address = address
    · subst here
      have watched := keeps.watched reader member
      obtain ⟨box, found⟩ := (Mailroom.isOpen_iff _ _).mp watched.isOpen
      have emptied := (boxes reader.address).trans (if_pos rfl)
      rw [found, Option.map_some] at emptied
      refine ⟨⟨watched.once, (Mailroom.isOpen_iff _ _).mpr ⟨_, emptied⟩⟩, ?_⟩
      rw [readOn, if_pos rfl, ← keeps.received reader member, List.append_assoc]
      exact congrArg _ (board.writeRoom.readAll_append reader.address)
    · rw [readOn, if_neg here]
      exact keeps.watched_elsewhere member _ rfl
        ((boxes reader.address).trans (if_neg (Ne.symm here)))
  refine ⟨keeps.capacity, keeps.journal, keeps.once, ?_, ?_, ?_, ?_, ?_⟩
  · intro other member
    change other < (board.writeRoom.readAll address).2.next
    rw [Mailroom.next_readAll]
    exact keeps.known other member
  · rw [List.map_map]
    have same : Reader.address ∘ readOn board address = Reader.address := funext place
    rw [same]
    exact keeps.apart
  · refine List.forall_mem_map.mpr fun reader member => ?_
    rw [place]
    exact (former member).1
  · refine List.forall_mem_map.mpr fun reader member => ?_
    rw [since]
    exact keeps.since reader member
  · refine List.forall_mem_map.mpr fun reader member => ?_
    rw [place, since]
    exact (former member).2

/-- The reader at an address leaves. -/
theorem leave (address : Nat) : (board.stopObserving address).Keeps bound writes
    (readers.filter fun reader => reader.address ≠ address) := by
  have former {reader : Reader}
      (member : reader ∈ readers.filter fun reader => reader.address ≠ address) :=
    have present := List.mem_filter.mp member
    keeps.watched_elsewhere present.1 (board.stopObserving address) rfl
      ((board.writeRoom.boxes_close address reader.address).trans
        (if_neg (of_decide_eq_true present.2).symm))
  exact ⟨keeps.capacity, keeps.journal, keeps.once, keeps.known,
    keeps.apart.sublist (List.filter_sublist.map _), fun reader member => (former member).1,
    fun reader member => keeps.since reader (List.mem_filter.mp member).1,
    fun reader member => (former member).2⟩

end Keeps

/-- The write that a client has made, if it has not been refused. -/
def made (write : ListWrite) : Except ServiceError Unit → List ListWrite
  | .ok () => [write]
  | .error _ => []

/-- The deletion of a list, if it has taken place. -/
def deletion (name : String) (deleted : Bool) : List ListWrite :=
  if deleted then [.delete name] else []

/-- A board agrees with the writes that have been made. -/
structure Agrees (board : Board) (bound : Nat) (writes : List ListWrite)
    (readers : List Reader) : Prop where
  replays : board.Replays writes
  keeps : board.Keeps bound writes readers

namespace Agrees

variable (agrees : board.Agrees bound writes readers)

include agrees

theorem of_lists (lists : other.lists = board.lists) (capacity : other.capacity = board.capacity)
    (journal : other.journal = board.journal) (observers : other.observers = board.observers)
    (room : other.writeRoom = board.writeRoom) : other.Agrees bound writes readers :=
  ⟨agrees.replays.of_lists lists, agrees.keeps.of_same capacity journal observers room⟩

theorem handleFor (name : String) : (board.handleFor name).2.Agrees bound writes readers := by
  unfold Board.handleFor
  split
  · exact agrees
  · exact agrees.of_lists rfl rfl rfl rfl rfl

/-- What a write changes is recorded. -/
theorem recorded {write : ListWrite} (lists : Std.TreeMap String PublishedList)
    (withdrawn : Std.TreeSet Nat)
    (written : ∀ name, (lists[name]?).map PublishedList.entries =
      if write.name = name then write.apply (board.entries? name) else board.entries? name) :
    ({ board with lists, withdrawn }.record write).Agrees bound (writes ++ [write]) readers where
  replays := agrees.replays.append fun name => by
    rw [entries?, lists_record]
    exact written name
  keeps := by
    have keeps : Keeps { board with lists, withdrawn } bound writes readers :=
      agrees.keeps.of_same rfl rfl rfl rfl
    exact keeps.record write

theorem deleteList (name : String) : (board.deleteList name).1.Agrees bound
    (writes ++ deletion name (board.deleteList name).2) readers := by
  unfold Board.deleteList
  cases found : board.lists[name]? with
  | none => exact (List.append_nil writes).symm ▸ agrees
  | some list =>
      refine agrees.recorded _ _ fun another => ?_
      rw [lists_unlist, entries?]
      change (if name = another then none else _).map _ = if name = another then none else _
      split <;> rfl

/-- A change of entries is recorded if it is not refused. -/
theorem perform (handle : Handle) (edit : Handle.Edit) :
    (handle.perform board edit).2.1.Agrees bound
      (writes ++ made (edit.write handle.name) (handle.perform board edit).2.2) readers := by
  rw [handle.perform_eq]
  rcases handle.write_cases board edit.apply (edit.write handle.name) with
    ⟨cause, _, same⟩ | ⟨list, found, same⟩ | ⟨absent, _, same⟩
  · rw [same]
    exact (List.append_nil writes).symm ▸ agrees
  · rw [same]
    exact agrees.recorded _ _ (edit.entries_insert board (by rw [entries?, found]; rfl))
  · rw [same]
    exact agrees.recorded _ _ (edit.entries_insert board (by rw [entries?, absent]; rfl))

/-- Deleting through a handle is recorded if the list has been there and is gone. -/
theorem delete (handle : Handle) : (handle.delete board).2.Agrees bound
    (writes ++ deletion handle.name ((board.entries? handle.name).isSome &&
      ((handle.delete board).2.entries? handle.name).isNone)) readers := by
  have none (before : Option (List String)) : (before.isSome && before.isNone) = false := by
    cases before <;> rfl
  rcases handle.delete_cases board with ⟨_, same⟩ | ⟨_, _, same⟩ | ⟨_, _, same⟩
  · rw [same]
    change Agrees _ bound (writes ++ deletion _ ((board.entries? handle.name).isSome &&
      (board.entries? handle.name).isNone)) readers
    rw [none]
    exact (List.append_nil writes).symm ▸ agrees.of_lists rfl rfl rfl rfl rfl
  · rw [same]
    dsimp only
    rw [none]
    exact (List.append_nil writes).symm ▸ agrees
  · rw [same]
    have deleted : ((board.entries? handle.name).isSome &&
        ((board.deleteList handle.name).1.entries? handle.name).isNone) =
          (board.deleteList handle.name).2 := by
      rw [entries?, entries?, lists_deleteList, if_pos rfl, Board.deleteList]
      cases board.lists[handle.name]? <;> rfl
    rw [deleted]
    exact agrees.deleteList handle.name

end Agrees

end Board

/-- A board with the handles of its clients, the readers of its writes, and the writes that have
been made according to what the clients have been told. -/
structure Ledger where
  board : Board
  handles : List Handle
  writes : List ListWrite
  readers : List Reader

namespace Ledger

/-- What clients and readers can do. -/
inductive Act
  /-- Ask for a handle. -/
  | take (name : String)
  /-- Change the entries of a list through the handle at a position. -/
  | edit (position : Nat) (edit : Handle.Edit)
  /-- Delete through the handle at a position. -/
  | delete (position : Nat)
  /-- Delete a list by its name. -/
  | deleteList (name : String)
  /-- Writing fails from now on, or works again. -/
  | fail (failure : Option ServiceError)
  /-- A reader comes. -/
  | observe
  /-- What waits at an address is read. -/
  | read (address : Nat)
  /-- The reader at an address leaves. -/
  | leave (address : Nat)

/-- Nothing has happened yet. -/
def start (capacity : Nat) : Ledger := ⟨.empty capacity, [], [], []⟩

/-- The ledger after an act. A client that deletes through its handle is told nothing, so it looks
whether the list is there before, but not behind. -/
def after (ledger : Ledger) : Act → Ledger
  | .take name =>
    let (handle, board) := ledger.board.handleFor name
    { ledger with board, handles := ledger.handles ++ [handle] }
  | .edit position edit =>
    match ledger.handles[position]? with
    | none => ledger
    | some handle =>
      let (next, board, answer) := handle.perform ledger.board edit
      { ledger with
        board
        handles := ledger.handles.set position next
        writes := ledger.writes ++ Board.made (edit.write handle.name) answer }
  | .delete position =>
    match ledger.handles[position]? with
    | none => ledger
    | some handle =>
      let (next, board) := handle.delete ledger.board
      { ledger with
        board
        handles := ledger.handles.set position next
        writes := ledger.writes ++ Board.deletion handle.name
          ((ledger.board.entries? handle.name).isSome && (board.entries? handle.name).isNone) }
  | .deleteList name =>
    let (board, existed) := ledger.board.deleteList name
    { ledger with board, writes := ledger.writes ++ Board.deletion name existed }
  | .fail failure => { ledger with board := ledger.board.setFailure failure }
  | .observe =>
    let (address, board) := ledger.board.observe
    { ledger with board, readers := ledger.readers ++ [⟨address, ledger.writes.length, []⟩] }
  | .read address =>
    { ledger with
      board := (ledger.board.readWrites address).2
      readers := ledger.readers.map (ledger.board.readOn address) }
  | .leave address =>
    { ledger with
      board := ledger.board.stopObserving address
      readers := ledger.readers.filter fun reader => reader.address ≠ address }

/-- The ledger after several acts. -/
def run (ledger : Ledger) (acts : List Act) : Ledger := acts.foldl after ledger

/-- An act that is refused, or that deletes what is not there. -/
def IsFruitless (ledger : Ledger) : Act → Prop
  | .edit position edit => ∃ handle cause, ledger.handles[position]? = some handle ∧
      (handle.perform ledger.board edit).2.2 = .error cause
  | .delete position => ∃ handle, ledger.handles[position]? = some handle ∧
      (handle.pending = true ∨ ledger.board.isWithdrawn handle = true ∨
        ledger.board.entries? handle.name = none)
  | .deleteList name => (ledger.board.deleteList name).2 = false
  | _ => False

variable {ledger : Ledger} {bound position : Nat} {handle : Handle}

theorem after_edit (held : ledger.handles[position]? = some handle) (edit : Handle.Edit) :
    ledger.after (.edit position edit) = { ledger with
      board := (handle.perform ledger.board edit).2.1
      handles := ledger.handles.set position (handle.perform ledger.board edit).1
      writes := ledger.writes ++ Board.made (edit.write handle.name)
        (handle.perform ledger.board edit).2.2 } := by
  rw [after, held]

theorem after_delete (held : ledger.handles[position]? = some handle) :
    ledger.after (.delete position) = { ledger with
      board := (handle.delete ledger.board).2
      handles := ledger.handles.set position (handle.delete ledger.board).1
      writes := ledger.writes ++ Board.deletion handle.name
        ((ledger.board.entries? handle.name).isSome &&
          ((handle.delete ledger.board).2.entries? handle.name).isNone) } := by
  rw [after, held]

/-- Whatever is done, the board agrees with the writes. -/
theorem agrees_after (agrees : ledger.board.Agrees bound ledger.writes ledger.readers) (act : Act) :
    (ledger.after act).board.Agrees bound (ledger.after act).writes (ledger.after act).readers := by
  cases act with
  | take name => exact agrees.handleFor name
  | edit position edit =>
      cases held : ledger.handles[position]? with
      | none =>
          rw [after, held]
          exact agrees
      | some handle =>
          rw [after_edit held]
          exact agrees.perform handle edit
  | delete position =>
      cases held : ledger.handles[position]? with
      | none =>
          rw [after, held]
          exact agrees
      | some handle =>
          rw [after_delete held]
          exact agrees.delete handle
  | deleteList name => exact agrees.deleteList name
  | fail failure => exact agrees.of_lists rfl rfl rfl rfl rfl
  | observe => exact ⟨agrees.replays.of_lists rfl, agrees.keeps.observe⟩
  | read address => exact ⟨agrees.replays.of_lists rfl, agrees.keeps.read address⟩
  | leave address => exact ⟨agrees.replays.of_lists rfl, agrees.keeps.leave address⟩

theorem agrees_run (agrees : ledger.board.Agrees bound ledger.writes ledger.readers)
    (acts : List Act) :
    (ledger.run acts).board.Agrees bound (ledger.run acts).writes (ledger.run acts).readers := by
  induction acts generalizing ledger with
  | nil => exact agrees
  | cons act rest ih => exact ih (agrees_after agrees act)

/-- An act that is refused, or that deletes what is not there, is no write and changes no list. -/
theorem after_fruitless {act : Act} (fruitless : ledger.IsFruitless act) :
    (ledger.after act).writes = ledger.writes ∧
      (ledger.after act).board.lists = ledger.board.lists := by
  cases act with
  | edit position edit =>
      obtain ⟨handle, cause, held, refused⟩ := fruitless
      rw [handle.perform_eq] at refused
      rw [after_edit held, handle.perform_eq]
      rcases handle.write_cases ledger.board edit.apply (edit.write handle.name) with
        ⟨cause, _, same⟩ | ⟨list, _, same⟩ | ⟨_, _, same⟩
      · rw [same]
        exact ⟨List.append_nil _, rfl⟩
      · rw [same] at refused
        exact nomatch refused
      · rw [same] at refused
        exact nomatch refused
  | delete position =>
      obtain ⟨handle, held, nothing⟩ := fruitless
      have unchanged : (handle.delete ledger.board).2.lists = ledger.board.lists := by
        rcases handle.delete_cases ledger.board with
          ⟨_, same⟩ | ⟨_, _, same⟩ | ⟨settled, standing, same⟩
        · rw [same]
        · rw [same]
        · have absent : ledger.board.lists[handle.name]? = none := by
            rcases nothing with pending | gone | absent
            · exact absurd (settled.symm.trans pending) Bool.false_ne_true
            · exact absurd (standing.symm.trans gone) Bool.false_ne_true
            · exact Option.map_eq_none_iff.mp absent
          rw [same, Board.deleteList, absent]
      rw [after_delete held]
      refine ⟨?_, unchanged⟩
      dsimp only
      rw [Board.entries?, Board.entries?, unchanged]
      cases ledger.board.lists[handle.name]? <;> exact List.append_nil _
  | deleteList name =>
      change (ledger.board.deleteList name).2 = false at fruitless
      have absent : ledger.board.lists[name]? = none := by
        cases found : ledger.board.lists[name]? with
        | none => rfl
        | some list =>
            rw [Board.deleteList, found] at fruitless
            exact nomatch fruitless
      have unchanged : ledger.board.deleteList name = (ledger.board, false) := by
        rw [Board.deleteList, absent]
      rw [after, unchanged]
      exact ⟨List.append_nil _, rfl⟩
  | _ => exact fruitless.elim

/-- After any acts of clients and readers, replaying the writes that have been made gives the lists
with their entries; an act that is refused, or that deletes what is not there, is no write and
changes no list; the journal, and its part on any one list, holds the latest writes, as many as it
has room for; and every reader has received the writes made since it came, apart from those at their
end that wait for it. -/
theorem faithful_run (capacity : Nat) (acts : List Act) :
    let ledger := (start capacity).run acts
    (∀ name, (ListWrite.replay ledger.writes)[name]? = ledger.board.entries? name) ∧
      (∀ act, ledger.IsFruitless act → (ledger.after act).writes = ledger.writes ∧
        (ledger.after act).board.lists = ledger.board.lists) ∧
      ledger.board.journal = ledger.writes.drop (ledger.writes.length - capacity) ∧
      (∀ name, ledger.board.journalFor name =
        (ledger.writes.drop (ledger.writes.length - capacity)).filter fun write =>
          write.name = name) ∧
      ∀ reader ∈ ledger.readers,
        reader.received ++ ledger.board.writeRoom.waiting reader.address =
          ledger.writes.drop reader.since := by
  intro ledger
  have agrees : ledger.board.Agrees capacity ledger.writes ledger.readers :=
    agrees_run ⟨Board.replays_empty capacity, Board.keeps_empty capacity⟩ acts
  refine ⟨agrees.replays, fun act fruitless => after_fruitless fruitless, agrees.keeps.journal,
    fun name => ?_, agrees.keeps.received⟩
  rw [Board.journalFor, agrees.keeps.journal]

end Ledger

end LiveSearch
