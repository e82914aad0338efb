import LiveSearch.Proofs.Board.Basic

/-! # Clients and their handles

Any number of clients ask a board for handles, change and delete lists through them, and delete
lists by name, in any order (`LiveSearch.Clients.run`). All handles that have been given out fit the
board (`LiveSearch.Handle.Fits`): one that is pending has reserved an incarnation in which no list
exists, and any other one has the incarnation of the list of its name, unless this incarnation has
been withdrawn. No act of a client changes that (`LiveSearch.Clients.issued_after`), because a
reserved incarnation belongs to one handle alone (`LiveSearch.Board.Issued`).
-/

namespace LiveSearch

namespace Handle

/-- A change of the entries of a list. -/
inductive Edit
  | set (entries : List String)
  | add (entry : String)
  | remove (entry : String)

/-- The entries after a change. -/
def Edit.apply : Edit → List String → List String
  | .set entries, _ => entries
  | .add entry, present => present ++ [entry]
  | .remove entry, present => present.erase entry

/-- The write to a list that a change of its entries is. -/
def Edit.write (name : String) : Edit → ListWrite
  | .set entries => .set name entries
  | .add entry => .add name entry
  | .remove entry => .remove name entry

theorem Edit.name_write (edit : Edit) (name : String) : (edit.write name).name = name := by
  cases edit <;> rfl

theorem Edit.apply_write (edit : Edit) (name : String) (entries : Option (List String)) :
    (edit.write name).apply entries = some (edit.apply (entries.getD [])) := by
  cases edit <;> rfl

/-- Where the list of a name has become what a change makes of it, the lists are what the write
makes of them. -/
theorem Edit.entries_insert (edit : Edit) (board : Board) {name : String} {list : PublishedList}
    (changed : list.entries = edit.apply ((board.entries? name).getD [])) (other : String) :
    ((board.lists.insert name list)[other]?).map PublishedList.entries =
      if (edit.write name).name = other then (edit.write name).apply (board.entries? other)
      else board.entries? other := by
  rw [lookup_insert, edit.name_write, edit.apply_write]
  by_cases same : name = other
  · rw [if_pos same, if_pos same, ← same, ← changed]
    rfl
  · rw [if_neg same, if_neg same]
    rfl

/-- Change the entries of a list through a handle. -/
def perform (handle : Handle) (board : Board) : Edit → Handle × Board × Except ServiceError Unit
  | .set entries => handle.setEntries board entries
  | .add entry => handle.addEntry board entry
  | .remove entry => handle.removeEntry board entry

theorem perform_eq (handle : Handle) (board : Board) (edit : Edit) :
    handle.perform board edit = handle.write board edit.apply (edit.write handle.name) := by
  cases edit with
  | set entries => rfl
  | add entry => rfl
  | remove entry => rfl

/-- The incarnation of a handle has been handed out. While the handle is pending it stands and no
list exists in it; otherwise the list of the handle exists in it, unless it has been withdrawn. -/
structure Fits (handle : Handle) (board : Board) : Prop where
  known : handle.incarnation < board.nextIncarnation
  reserved : handle.pending = true → board.isWithdrawn handle = false ∧
    ∀ (name : String) (list : PublishedList), board.lists[name]? = some list →
      list.incarnation ≠ handle.incarnation
  standing : handle.pending = false → board.isWithdrawn handle = true ∨
    ∃ list : PublishedList, board.lists[handle.name]? = some list ∧
      list.incarnation = handle.incarnation

/-- If one of two handles is pending they have different incarnations. -/
def Apart (first second : Handle) : Prop :=
  first.pending = true ∨ second.pending = true → first.incarnation ≠ second.incarnation

theorem Apart.symm {first second : Handle} (apart : first.Apart second) : second.Apart first :=
  fun pending same => apart pending.symm same.symm

end Handle

namespace Board

/-- The handles have been given out by the board: it is sound, they fit it, and each of them that is
pending has reserved an incarnation for itself. -/
structure Issued (board : Board) (handles : List Handle) : Prop where
  sound : board.IsSound
  fit : ∀ handle ∈ handles, handle.Fits board
  apart : handles.Pairwise Handle.Apart

/-- The board when everything but its lists has become what it is on another board. -/
def around (board other : Board) : Board :=
  { other with
    lists := board.lists
    withdrawn := board.withdrawn
    nextIncarnation := board.nextIncarnation }

end Board

namespace Handle

variable {handle other : Handle} {board : Board}

section Fitting

/-- A change of the entries of a list leaves every handle fit for the board. -/
theorem Fits.rewritten (fits : other.Fits board) (edit : List String → List String)
    (write : ListWrite) {list : PublishedList} (found : board.lists[handle.name]? = some list) :
    other.Fits (handle.rewritten board edit write list) where
  known := by
    rw [Handle.rewritten, Board.nextIncarnation_record]
    exact fits.known
  reserved pending := by
    refine ⟨(rewritten_writesOnly edit write found).isWithdrawn other ▸ (fits.reserved pending).1,
      fun name later listed => ?_⟩
    rw [lists_rewritten] at listed
    by_cases same : handle.name = name
    · rw [if_pos same] at listed
      rw [← Option.some.inj listed]
      exact (fits.reserved pending).2 handle.name list found
    · rw [if_neg same] at listed
      exact (fits.reserved pending).2 name later listed
  standing settled := by
    rcases fits.standing settled with withdrawn | ⟨earlier, present, incarnation⟩
    · left
      rw [(rewritten_writesOnly edit write found).isWithdrawn other]
      exact withdrawn
    · right
      rw [lists_rewritten]
      by_cases same : handle.name = other.name
      · rw [same, present] at found
        obtain rfl := Option.some.inj found
        exact ⟨_, if_pos same, incarnation⟩
      · exact ⟨earlier, (if_neg same).trans present, incarnation⟩

/-- The creation of a list by one handle leaves another one fit for the board. -/
theorem Fits.created (fits : other.Fits board) (apart : handle.Apart other)
    (edit : List String → List String) (write : ListWrite)
    (absent : board.lists[handle.name]? = none) :
    other.Fits (handle.created board edit write) where
  known := by
    rw [Handle.created, Board.nextIncarnation_record]
    exact fits.known
  reserved pending := by
    refine ⟨?_, fun name later listed => ?_⟩
    · rw [Board.isWithdrawn, Handle.created, Board.withdrawn_record]
      exact (fits.reserved pending).1
    · rw [lists_created] at listed
      by_cases same : handle.name = name
      · rw [if_pos same] at listed
        rw [← Option.some.inj listed]
        exact apart (.inr pending)
      · rw [if_neg same] at listed
        exact (fits.reserved pending).2 name later listed
  standing settled := by
    rw [Board.isWithdrawn, lists_created]
    refine (fits.standing settled).imp ?_ ?_
    · rw [Handle.created, Board.withdrawn_record]
      exact id
    · rintro ⟨list, present, incarnation⟩
      have different : handle.name ≠ other.name := fun same =>
        Option.some_ne_none list (present.symm.trans (same ▸ absent))
      exact ⟨list, (if_neg different).trans present, incarnation⟩

/-- When a list is deleted its handles are told. -/
theorem Fits.deleteList (fits : other.Fits board) (name : String) :
    other.Fits (board.deleteList name).1 where
  known := by
    rw [Board.nextIncarnation_deleteList]
    exact fits.known
  reserved pending := by
    obtain ⟨standing, unused⟩ := fits.reserved pending
    refine ⟨Bool.eq_false_iff.mpr fun gone => ?_, fun another list listed => ?_⟩
    · rcases (board.withdrawn_deleteList name other.incarnation).mp gone with
        earlier | ⟨list, found, same⟩
      · exact Bool.false_ne_true (standing.symm.trans earlier)
      · exact unused name list found same
    · exact unused another list ((board.deleteList_withdraws name).lists another list listed)
  standing settled := by
    have withdraws := board.deleteList_withdraws name
    rcases fits.standing settled with withdrawn | ⟨list, found, same⟩
    · exact .inl (withdraws.withdrawn other.incarnation withdrawn)
    · rcases withdraws.kept other.name list found with still | withdrawn
      · exact .inr ⟨list, still, same⟩
      · rw [same] at withdrawn
        exact .inl withdrawn

/-- The withdrawal of the incarnation of one handle leaves another one fit for the board. -/
theorem Fits.withdrawn (fits : other.Fits board) (apart : handle.Apart other) :
    other.Fits { board with withdrawn := board.withdrawn.insert handle.incarnation } where
  known := fits.known
  reserved pending := by
    refine ⟨?_, (fits.reserved pending).2⟩
    change (board.withdrawn.insert handle.incarnation).contains other.incarnation = false
    have standing : board.withdrawn.contains other.incarnation = false := (fits.reserved pending).1
    rw [Std.TreeSet.contains_insert, standing, Bool.or_false, beq_eq_false_iff_ne, ne_eq,
      Std.LawfulEqCmp.compare_eq_iff_eq]
    exact apart (.inr pending)
  standing settled := by
    refine (fits.standing settled).imp_left fun gone => ?_
    change (board.withdrawn.insert handle.incarnation).contains other.incarnation = true
    have earlier : board.withdrawn.contains other.incarnation = true := gone
    rw [Std.TreeSet.contains_insert, earlier, Bool.or_true]

end Fitting

/-- A handle whose incarnation has been withdrawn writes nothing. -/
theorem write_of_withdrawn (gone : board.isWithdrawn handle = true)
    (edit : List String → List String) (write : ListWrite) :
    ∃ cause, handle.write board edit write = (handle, board, .error cause) := by
  unfold Handle.write
  cases board.failure with
  | some failure => exact ⟨failure, rfl⟩
  | none =>
      refine ⟨handle.gone, ?_⟩
      dsimp only
      rw [if_pos gone]

/-- A handle that has been written through stands. -/
theorem standing_of_written {edit : List String → List String} {write : ListWrite}
    (succeeds : (handle.write board edit write).2.2 = .ok ()) :
    board.isWithdrawn handle = false := by
  refine Bool.eq_false_iff.mpr fun gone => ?_
  obtain ⟨cause, refused⟩ := write_of_withdrawn gone edit write
  rw [refused] at succeeds
  exact nomatch succeeds

/-- A handle that is not pending and stands has the incarnation of the list of its name. -/
theorem Fits.own (fits : handle.Fits board) (settled : handle.pending = false)
    (standing : board.isWithdrawn handle = false) {list : PublishedList}
    (found : board.lists[handle.name]? = some list) : list.incarnation = handle.incarnation := by
  rcases fits.standing settled with gone | ⟨other, present, own⟩
  · exact absurd (standing.symm.trans gone) Bool.false_ne_true
  · obtain rfl := Option.some.inj (found.symm.trans present)
    exact own

/-- A handle keeps its name and its incarnation when it is written through, and one that is not
pending is not changed at all. -/
theorem write_keeps (handle : Handle) (board : Board) (edit : List String → List String)
    (write : ListWrite) :
    (handle.write board edit write).1.name = handle.name ∧
      (handle.write board edit write).1.incarnation = handle.incarnation ∧
      (handle.pending = false → (handle.write board edit write).1 = handle) := by
  rcases handle.write_cases board edit write with
    ⟨cause, _, same⟩ | ⟨list, _, same⟩ | ⟨_, pending, same⟩
  · rw [same]
    exact ⟨rfl, rfl, fun _ => rfl⟩
  · rw [same]
    exact ⟨rfl, rfl, fun _ => rfl⟩
  · rw [same]
    exact ⟨rfl, rfl, fun settled => absurd (settled.symm.trans pending) Bool.false_ne_true⟩

/-- Deleting through a handle gives up what it has reserved, or does nothing, or deletes the list of
its name. -/
theorem delete_cases (handle : Handle) (board : Board) :
    (handle.pending = true ∧ handle.delete board = ({ handle with pending := false },
      { board with withdrawn := board.withdrawn.insert handle.incarnation })) ∨
    (handle.pending = false ∧ board.isWithdrawn handle = true ∧
      handle.delete board = (handle, board)) ∨
    (handle.pending = false ∧ board.isWithdrawn handle = false ∧
      handle.delete board = (handle, (board.deleteList handle.name).1)) := by
  unfold Handle.delete
  cases pending : handle.pending with
  | true => exact .inl ⟨rfl, rfl⟩
  | false =>
      cases gone : board.isWithdrawn handle with
      | true => exact .inr (.inl ⟨rfl, rfl, rfl⟩)
      | false => exact .inr (.inr ⟨rfl, rfl, rfl⟩)

/-- Nothing that is done through the handle has an effect. -/
structure IsInert (handle : Handle) (board : Board) : Prop where
  edits : ∀ edit, ∃ cause, handle.perform board edit = (handle, board, .error cause)
  deletes : handle.delete board = (handle, board)

/-- A handle whose incarnation has been withdrawn is of no use. -/
theorem Fits.isInert (fits : handle.Fits board)
    (gone : board.isWithdrawn handle = true) : handle.IsInert board where
  edits edit := by
    rw [handle.perform_eq]
    exact write_of_withdrawn gone edit.apply (edit.write handle.name)
  deletes := by
    rcases handle.delete_cases board with ⟨pending, _⟩ | ⟨_, _, same⟩ | ⟨_, standing, _⟩
    · exact absurd ((fits.reserved pending).1.symm.trans gone) Bool.false_ne_true
    · exact same
    · exact absurd (standing.symm.trans gone) Bool.false_ne_true

end Handle

namespace Board.Issued

variable {board : Board} {handle : Handle} {handles others : List Handle}

/-- It does not matter in which order handles are listed. -/
theorem perm (issued : board.Issued handles) (same : handles.Perm others) :
    board.Issued others where
  sound := issued.sound
  fit handle member := issued.fit handle (same.mem_iff.mpr member)
  apart := (same.pairwise_iff Handle.Apart.symm).mp issued.apart

/-- Handles can be given up. -/
theorem sublist (issued : board.Issued handles) (less : others.Sublist handles) :
    board.Issued others where
  sound := issued.sound
  fit handle member := issued.fit handle (less.subset member)
  apart := issued.apart.sublist less

theorem around (issued : board.Issued handles) (other : Board) :
    (board.around other).Issued handles where
  sound := ⟨issued.sound.listed, issued.sound.withdrawn, issued.sound.apart⟩
  fit handle member :=
    let fits := issued.fit handle member
    ⟨fits.known, fits.reserved, fits.standing⟩
  apart := issued.apart

/-- Another handle is given out. -/
theorem take (issued : board.Issued handles) (name : String) :
    (board.handleFor name).2.Issued ((board.handleFor name).1 :: handles) := by
  unfold Board.handleFor
  cases found : board.lists[name]? with
  | some list =>
      obtain ⟨known, _⟩ := issued.sound.listed name list found
      refine ⟨issued.sound, List.forall_mem_cons.mpr ⟨⟨known, ?_, ?_⟩, issued.fit⟩,
        List.pairwise_cons.mpr ⟨fun other member pending => ?_, issued.apart⟩⟩
      · exact fun pending => absurd pending Bool.false_ne_true
      · exact fun _ => .inr ⟨list, found, rfl⟩
      · rcases pending with mine | theirs
        · exact absurd mine Bool.false_ne_true
        · exact ((issued.fit other member).reserved theirs).2 name list found
  | none =>
      have fresh (other : Handle) (member : other ∈ handles) :
          board.nextIncarnation ≠ other.incarnation :=
        Nat.ne_of_gt (issued.fit other member).known
      refine ⟨issued.sound.reserve, List.forall_mem_cons.mpr ⟨⟨Nat.lt_succ_self _, ?_, ?_⟩,
        fun other member => ?_⟩, List.pairwise_cons.mpr ⟨fun other member _ => fresh other member,
        issued.apart⟩⟩
      · exact fun _ => ⟨issued.sound.notWithdrawn (Nat.le_refl _), fun other list listed =>
          Nat.ne_of_lt (issued.sound.listed other list listed).1⟩
      · exact fun settled => absurd settled.symm Bool.false_ne_true
      · have fits := issued.fit other member
        exact ⟨Nat.lt_succ_of_lt fits.known, fits.reserved, fits.standing⟩

/-- The entries of a list change. -/
theorem rewritten (issued : board.Issued handles) (edit : List String → List String)
    (write : ListWrite) {list : PublishedList} (found : board.lists[handle.name]? = some list) :
    (handle.rewritten board edit write list).Issued handles where
  sound := Handle.rewritten_isSound issued.sound edit write found
  fit other member := (issued.fit other member).rewritten edit write found
  apart := issued.apart

/-- A pending handle creates its list. -/
theorem created (issued : board.Issued (handle :: others)) (edit : List String → List String)
    (write : ListWrite) (absent : board.lists[handle.name]? = none)
    (pending : handle.pending = true) :
    (handle.created board edit write).Issued ({ handle with pending := false } :: others) := by
  obtain ⟨fits, rest⟩ := List.forall_mem_cons.mp issued.fit
  obtain ⟨apart, among⟩ := List.pairwise_cons.mp issued.apart
  obtain ⟨standing, unused⟩ := fits.reserved pending
  refine ⟨Handle.created_isSound issued.sound edit write fits.known standing unused,
    List.forall_mem_cons.mpr ⟨⟨?_, fun now => absurd now Bool.false_ne_true,
      fun _ => .inr ⟨⟨edit [], handle.incarnation⟩, ?_, rfl⟩⟩, fun other member => ?_⟩,
    List.pairwise_cons.mpr ⟨fun other member _ => apart other member (.inl pending), among⟩⟩
  · rw [Handle.created, Board.nextIncarnation_record]
    exact fits.known
  · rw [Handle.lists_created, if_pos rfl]
  · exact (rest other member).created (apart other member) edit write absent

/-- One of the handles is written through. -/
theorem write (issued : board.Issued (handle :: others)) (edit : List String → List String)
    (write : ListWrite) :
    (handle.write board edit write).2.1.Issued ((handle.write board edit write).1 :: others) := by
  rcases handle.write_cases board edit write with
    ⟨cause, _, same⟩ | ⟨list, found, same⟩ | ⟨absent, pending, same⟩
  · rw [same]
    exact issued
  · rw [same]
    exact issued.rewritten edit write found
  · rw [same]
    exact issued.created edit write absent pending

/-- A list is deleted. -/
theorem deleteList (issued : board.Issued handles) (name : String) :
    (board.deleteList name).1.Issued handles where
  sound := issued.sound.deleteList name
  fit handle member := (issued.fit handle member).deleteList name
  apart := issued.apart

/-- One of the handles deletes. -/
theorem delete (issued : board.Issued (handle :: others)) :
    (handle.delete board).2.Issued ((handle.delete board).1 :: others) := by
  rcases handle.delete_cases board with ⟨pending, same⟩ | ⟨_, _, same⟩ | ⟨_, _, same⟩
  · rw [same]
    obtain ⟨fits, rest⟩ := List.forall_mem_cons.mp issued.fit
    obtain ⟨apart, among⟩ := List.pairwise_cons.mp issued.apart
    have gone : (board.withdrawn.insert handle.incarnation).contains handle.incarnation = true :=
      Std.TreeSet.contains_insert_self
    refine ⟨⟨fun name list found => ⟨(issued.sound.listed name list found).1, ?_⟩,
        fun incarnation withdrawn => ?_, issued.sound.apart⟩,
      List.forall_mem_cons.mpr ⟨⟨fits.known, fun now => absurd now Bool.false_ne_true,
        fun _ => .inl gone⟩, fun other member =>
          (rest other member).withdrawn (apart other member)⟩,
      List.pairwise_cons.mpr ⟨fun other member _ => apart other member (.inl pending), among⟩⟩
    · rw [Std.TreeSet.contains_insert, (issued.sound.listed name list found).2, Bool.or_false,
        beq_eq_false_iff_ne, ne_eq, Std.LawfulEqCmp.compare_eq_iff_eq]
      exact ((fits.reserved pending).2 name list found).symm
    · rw [Std.TreeSet.contains_insert, Bool.or_eq_true, beq_iff_eq,
        Std.LawfulEqCmp.compare_eq_iff_eq] at withdrawn
      rcases withdrawn with rfl | earlier
      · exact fits.known
      · exact issued.sound.withdrawn incarnation earlier
  · rw [same]
    exact issued
  · rw [same]
    exact issued.deleteList handle.name

end Board.Issued

/-- A board and the handles that clients have been given, in the order in which they asked. -/
structure Clients where
  board : Board
  handles : List Handle

namespace Clients

/-- What a client can do. -/
inductive Act
  /-- Ask for a handle. -/
  | take (name : String)
  /-- Change the entries of a list through the handle at a position. -/
  | edit (position : Nat) (edit : Handle.Edit)
  /-- Delete through the handle at a position. -/
  | delete (position : Nat)
  /-- Delete a list by its name. -/
  | deleteList (name : String)
  /-- Everything but the lists becomes what it is on another board: writing fails or works again,
  observers and listeners come and go. -/
  | around (other : Board)

/-- No client has a handle, and no list exists. -/
def start (capacity : Nat) : Clients := ⟨.empty capacity, []⟩

/-- The clients after an act. -/
def after (clients : Clients) : Act → Clients
  | .take name =>
    let (handle, board) := clients.board.handleFor name
    ⟨board, clients.handles ++ [handle]⟩
  | .edit position edit =>
    match clients.handles[position]? with
    | none => clients
    | some handle =>
      let (handle, board, _) := handle.perform clients.board edit
      ⟨board, clients.handles.set position handle⟩
  | .delete position =>
    match clients.handles[position]? with
    | none => clients
    | some handle =>
      let (handle, board) := handle.delete clients.board
      ⟨board, clients.handles.set position handle⟩
  | .deleteList name => { clients with board := (clients.board.deleteList name).1 }
  | .around other => { clients with board := clients.board.around other }

/-- The clients after several acts. -/
def run (clients : Clients) (acts : List Act) : Clients := acts.foldl after clients

variable {clients : Clients} {position : Nat} {handle : Handle}

theorem run_append (clients : Clients) (first second : List Act) :
    clients.run (first ++ second) = (clients.run first).run second :=
  List.foldl_append

theorem after_edit (held : clients.handles[position]? = some handle) (edit : Handle.Edit) :
    clients.after (.edit position edit) = ⟨(handle.perform clients.board edit).2.1,
      clients.handles.set position (handle.perform clients.board edit).1⟩ := by
  rw [after, held]

theorem after_delete (held : clients.handles[position]? = some handle) :
    clients.after (.delete position) = ⟨(handle.delete clients.board).2,
      clients.handles.set position (handle.delete clients.board).1⟩ := by
  rw [after, held]

/-- A handle can be replaced by what it has become. -/
private theorem issued_set {before after : Board} {next : Handle} (rest : List Handle)
    {handles : List Handle} (held : handles[position]? = some handle)
    (onward : ∀ others, before.Issued (handle :: others) → after.Issued (next :: others))
    (issued : before.Issued (rest ++ handles)) :
    after.Issued (rest ++ handles.set position next) := by
  obtain ⟨inside, here⟩ := List.getElem?_eq_some_iff.mp held
  have cut : ∃ front back, handles = front ++ handles[position] :: back ∧
      front.length = position ∧ handles.set position next = front ++ next :: back :=
    List.exists_of_set inside
  obtain ⟨front, back, same, _, replaced⟩ := cut
  rw [here] at same
  rw [same, ← List.append_assoc] at issued
  rw [replaced, ← List.append_assoc]
  exact (onward _ (issued.perm List.perm_middle)).perm List.perm_middle.symm

/-- Whatever a client does, the handles of all clients have been given out by the board, and so have
any others. -/
theorem issued_after (rest : List Handle) (issued : clients.board.Issued (rest ++ clients.handles))
    (act : Act) : (clients.after act).board.Issued (rest ++ (clients.after act).handles) := by
  cases act with
  | take name =>
      refine (issued.take name).perm ?_
      rw [after, ← List.append_assoc]
      exact (List.perm_append_singleton _ _).symm
  | edit position edit =>
      cases held : clients.handles[position]? with
      | none =>
          rw [after, held]
          exact issued
      | some handle =>
          rw [after_edit held, handle.perform_eq]
          exact issued_set rest held (fun others given => given.write _ _) issued
  | delete position =>
      cases held : clients.handles[position]? with
      | none =>
          rw [after, held]
          exact issued
      | some handle =>
          rw [after_delete held]
          exact issued_set rest held (fun others given => given.delete) issued
  | deleteList name => exact issued.deleteList name
  | around other => exact issued.around other

theorem issued_start (capacity : Nat) :
    (start capacity).board.Issued (start capacity).handles :=
  ⟨Board.isSound_empty capacity, List.forall_mem_nil _, .nil⟩

theorem issued_run (issued : clients.board.Issued clients.handles) (acts : List Act) :
    (clients.run acts).board.Issued (clients.run acts).handles := by
  induction acts generalizing clients with
  | nil => exact issued
  | cons act rest ih => exact ih (issued_after [] issued act)

/-- Nobody takes back that an incarnation has been withdrawn. -/
theorem withdrawn_after (clients : Clients) (act : Act) {incarnation : Nat}
    (gone : clients.board.withdrawn.contains incarnation = true) :
    (clients.after act).board.withdrawn.contains incarnation = true := by
  cases act with
  | take name =>
      change (clients.board.handleFor name).2.withdrawn.contains incarnation = true
      rw [(clients.board.handleFor_writesOnly name).withdrawn]
      exact gone
  | edit position edit =>
      cases held : clients.handles[position]? with
      | none =>
          rw [after, held]
          exact gone
      | some handle =>
          rw [after_edit held, handle.perform_eq]
          rcases handle.write_cases clients.board edit.apply (edit.write handle.name) with
            ⟨cause, _, same⟩ | ⟨list, _, same⟩ | ⟨_, _, same⟩
          · rw [same]
            exact gone
          · rw [same]
            exact (Board.withdrawn_record _ _).symm ▸ gone
          · rw [same]
            exact (Board.withdrawn_record _ _).symm ▸ gone
  | delete position =>
      cases held : clients.handles[position]? with
      | none =>
          rw [after, held]
          exact gone
      | some handle =>
          rw [after_delete held]
          rcases handle.delete_cases clients.board with ⟨_, same⟩ | ⟨_, _, same⟩ | ⟨_, _, same⟩
          · rw [same]
            change (clients.board.withdrawn.insert handle.incarnation).contains incarnation = true
            rw [Std.TreeSet.contains_insert, gone, Bool.or_true]
          · rw [same]
            exact gone
          · rw [same]
            exact (clients.board.withdrawn_deleteList handle.name incarnation).mpr (.inl gone)
  | deleteList name => exact (clients.board.withdrawn_deleteList name incarnation).mpr (.inl gone)
  | around other => exact gone

theorem withdrawn_run (clients : Clients) (acts : List Act) {incarnation : Nat}
    (gone : clients.board.withdrawn.contains incarnation = true) :
    (clients.run acts).board.withdrawn.contains incarnation = true := by
  induction acts generalizing clients with
  | nil => exact gone
  | cons act rest ih => exact ih (clients.after act) (clients.withdrawn_after act gone)

/-- A list that is there before and after an act is the same list. -/
theorem incarnation_after (clients : Clients) (act : Act) {name : String}
    {list later : PublishedList} (found : clients.board.lists[name]? = some list)
    (still : (clients.after act).board.lists[name]? = some later) :
    later.incarnation = list.incarnation := by
  have unchanged (same : (clients.after act).board.lists[name]? = clients.board.lists[name]?) :
      later.incarnation = list.incarnation :=
    congrArg PublishedList.incarnation (Option.some.inj ((still.symm.trans same).trans found))
  have deleted {other : String}
      (same : (clients.after act).board = (clients.board.deleteList other).1) :
      later.incarnation = list.incarnation := by
    rw [same] at still
    have earlier := (clients.board.deleteList_withdraws other).lists name later still
    exact congrArg PublishedList.incarnation (Option.some.inj (earlier.symm.trans found))
  cases act with
  | take name =>
      refine unchanged (congrArg (·[_]?) ?_)
      exact clients.board.lists_handleFor name
  | edit position edit =>
      cases held : clients.handles[position]? with
      | none => exact unchanged (by rw [after, held])
      | some handle =>
          rw [after_edit held, handle.perform_eq] at still unchanged
          rcases handle.write_cases clients.board edit.apply (edit.write handle.name) with
            ⟨cause, _, same⟩ | ⟨other, present, same⟩ | ⟨absent, _, same⟩
          · exact unchanged (by rw [same])
          · rw [same, Handle.lists_rewritten] at still
            by_cases equal : handle.name = name
            · rw [equal, found] at present
              rw [if_pos equal] at still
              rw [← Option.some.inj still, ← Option.some.inj present]
            · exact unchanged (by rw [same, Handle.lists_rewritten, if_neg equal])
          · have different : handle.name ≠ name := fun equal =>
              nomatch (equal ▸ absent).symm.trans found
            exact unchanged (by rw [same, Handle.lists_created, if_neg different])
  | delete position =>
      cases held : clients.handles[position]? with
      | none => exact unchanged (by rw [after, held])
      | some handle =>
          rw [after_delete held] at deleted unchanged
          rcases handle.delete_cases clients.board with ⟨_, same⟩ | ⟨_, _, same⟩ | ⟨_, _, same⟩
          · exact unchanged (by rw [same])
          · exact unchanged (by rw [same])
          · exact deleted (congrArg Prod.snd same)
  | deleteList other => exact deleted rfl
  | around other => exact unchanged rfl

/-- A handle that is not pending stays as it is. -/
theorem held_after (held : clients.handles[position]? = some handle)
    (settled : handle.pending = false) (act : Act) :
    (clients.after act).handles[position]? = some handle := by
  have replaced {other : Nat} {former next : Handle} (there : clients.handles[other]? = some former)
      (same : former.pending = false → next = former) :
      (clients.handles.set other next)[position]? = some handle := by
    rw [List.getElem?_set]
    by_cases equal : other = position
    · rw [equal, held] at there
      obtain rfl := Option.some.inj there
      rw [if_pos equal, equal, if_pos (List.getElem?_eq_some_iff.mp held).1, same settled]
    · rw [if_neg equal]
      exact held
  cases act with
  | take name =>
      change (clients.handles ++ _)[position]? = some handle
      rw [List.getElem?_append_left (List.getElem?_eq_some_iff.mp held).1]
      exact held
  | edit other edit =>
      cases there : clients.handles[other]? with
      | none =>
          rw [after, there]
          exact held
      | some former =>
          rw [after_edit there, former.perform_eq]
          exact replaced there (former.write_keeps clients.board _ _).2.2
  | delete other =>
      cases there : clients.handles[other]? with
      | none =>
          rw [after, there]
          exact held
      | some former =>
          rw [after_delete there]
          refine replaced there fun settled => ?_
          rcases former.delete_cases clients.board with ⟨pending, _⟩ | ⟨_, _, same⟩ | ⟨_, _, same⟩
          · exact absurd (settled.symm.trans pending) Bool.false_ne_true
          · rw [same]
          · rw [same]
  | deleteList name => exact held
  | around other => exact held

theorem held_run (held : clients.handles[position]? = some handle)
    (settled : handle.pending = false) (acts : List Act) :
    (clients.run acts).handles[position]? = some handle := by
  induction acts generalizing clients with
  | nil => exact held
  | cons act rest ih => exact ih (held_after held settled act)

end Clients

end LiveSearch
