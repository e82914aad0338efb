import LiveSearch.Proofs.Board.Replay
import LiveSearch.Proofs.Pattern.Listening
import Mathlib.Data.List.Basic

/-! # What a listener hears

Listeners come and go, clients subscribe and unsubscribe, and lists are written, in any order
(`LiveSearch.Board.run`). A listener that stays stands on the board exactly once
(`LiveSearch.Board.Attends`): the listeners that are forgotten when a notice is given are others. So
step by step it finds the notices about names that match its pattern, each once and in order
(`LiveSearch.Board.Attends.run`), which for the pattern of a prefix are the names that begin with
the prefix and a question mark (`LiveSearch.Board.hears_prefixed`).
-/

namespace LiveSearch

namespace Board

section Acts

/-- What clients, listeners and everyone else can do. -/
inductive Act
  | subscribe (name : String)
  | unsubscribe (name : String)
  | listen (pattern : String)
  /-- Everything that waits at an address is read. -/
  | readAll (address : Nat)
  /-- One notice that waits at an address is read, if there is one. -/
  | readOne (address : Nat)
  /-- The listener at an address leaves. -/
  | leave (address : Nat)
  /-- Everything but the listeners and their notices becomes what it is on another board: lists are
  written and deleted, observers come and go. -/
  | around (other : Board)

/-- The notices that an act gives. -/
def Act.notices : Act → List Notice
  | .subscribe name => [⟨name, true⟩]
  | .unsubscribe name => [⟨name, false⟩]
  | _ => []

/-- The board after an act. -/
def after (board : Board) : Act → Board
  | .subscribe name => board.subscribe name
  | .unsubscribe name => board.unsubscribe name
  | .listen pattern =>
    match board.listen pattern with
    | .ok (_, opened) => opened
    | .error _ => board
  | .readAll address => (board.readNotices address).2
  | .readOne address => { board with noticeRoom := (board.noticeRoom.read address).2 }
  | .leave address => board.stopListening address
  | .around other => { other with listeners := board.listeners, noticeRoom := board.noticeRoom }

/-- The board after several acts. -/
def run (board : Board) (acts : List Act) : Board := acts.foldl after board

/-- What is read at an address in an act. -/
def readAt (board : Board) (address : Nat) : Act → List Notice
  | .readAll other => if other = address then (board.readNotices address).1 else []
  | .readOne other => if other = address then (board.noticeRoom.read address).1.toList else []
  | _ => []

/-- What is read at an address in several acts, one after another. -/
def heard (address : Nat) : Board → List Act → List Notice
  | _, [] => []
  | board, act :: rest => board.readAt address act ++ heard address (board.after act) rest

end Acts

section Addresses

variable {board : Board}

/-- The listeners read at addresses that have been given out. -/
def HasAddresses (board : Board) : Prop :=
  ∀ listener ∈ board.listeners, listener.address < board.noticeRoom.next

/-- A notice goes to the addresses of those whom it concerns. -/
theorem noticeRoom_notify (board : Board) (notice : Notice) : (board.notify notice).noticeRoom =
    ((board.listeners.filter (·.pattern.isMatch notice.name)).map Listener.address).foldl
      (fun room address => room.send address [notice]) board.noticeRoom := by
  rw [List.foldl_map]
  rfl

/-- A listener that comes gets the next address. -/
theorem listen_of_compiled {pattern : String} {regex : Pattern.Regex}
    (compiled : Pattern.compile? pattern = some regex) :
    board.listen pattern = .ok (board.noticeRoom.next,
      { board with
        listeners := board.listeners ++ [⟨regex, board.noticeRoom.next⟩]
        noticeRoom := (board.noticeRoom.openBox []).2 }) := by
  rw [listen, compiled]
  rfl

theorem listen_of_malformed {pattern : String} (malformed : Pattern.compile? pattern = none) :
    board.listen pattern = .error (.unavailable "<regex>") := by
  rw [listen, malformed]

theorem HasAddresses.notify (placed : board.HasAddresses) (notice : Notice) :
    (board.notify notice).HasAddresses := by
  intro listener member
  rw [noticeRoom_notify, Mailroom.next_sendEach]
  exact placed listener (List.mem_filter.mp member).1

theorem HasAddresses.after (placed : board.HasAddresses) (act : Act) :
    (board.after act).HasAddresses := by
  cases act with
  | subscribe name => exact placed.notify ⟨name, true⟩
  | unsubscribe name => exact placed.notify ⟨name, false⟩
  | listen pattern =>
      cases compiled : Pattern.compile? pattern with
      | none =>
          rw [Board.after, listen_of_malformed compiled]
          exact placed
      | some regex =>
          rw [Board.after, listen_of_compiled compiled]
          intro listener member
          rcases List.mem_append.mp member with old | new
          · exact Nat.lt_succ_of_lt (placed listener old)
          · rw [List.mem_singleton.mp new]
            exact Nat.lt_succ_self _
  | readAll address =>
      intro listener member
      change _ < (board.noticeRoom.readAll address).2.next
      rw [Mailroom.next_readAll]
      exact placed listener member
  | readOne address =>
      intro listener member
      change _ < (board.noticeRoom.read address).2.next
      rw [Mailroom.next_read]
      exact placed listener member
  | leave address => exact placed
  | around other => exact placed

theorem HasAddresses.run (placed : board.HasAddresses) (acts : List Act) :
    (board.run acts).HasAddresses := by
  induction acts generalizing board with
  | nil => exact placed
  | cons act rest ih => exact ih (placed.after act)

end Addresses

section Attending

variable {board : Board} {listener : Listener} {waiting : List Notice}

/-- Exactly one listener reads at its address. What waits for it has not been read, and more may
come. -/
structure Attends (board : Board) (listener : Listener) (waiting : List Notice) : Prop where
  once : board.listeners.filter (·.address == listener.address) = [listener]
  box : board.noticeRoom.boxes[listener.address]? = some ⟨waiting, false⟩

theorem Attends.mem (attends : board.Attends listener waiting) : listener ∈ board.listeners := by
  have found : listener ∈ board.listeners.filter (·.address == listener.address) := by
    rw [attends.once]
    exact List.mem_singleton_self listener
  exact (List.mem_filter.mp found).1

/-- A listener that comes is the only one at its address. -/
theorem attends_of_listen {pattern : String} {regex : Pattern.Regex}
    (compiled : Pattern.compile? pattern = some regex) (placed : board.HasAddresses) :
    ∃ address opened, board.listen pattern = .ok (address, opened) ∧
      opened.Attends ⟨regex, address⟩ [] := by
  have fresh : board.listeners.filter (·.address == board.noticeRoom.next) = [] := by
    apply List.filter_eq_nil_iff.mpr
    intro listener member same
    exact Nat.ne_of_lt (placed listener member) (beq_iff_eq.mp same)
  refine ⟨_, _, listen_of_compiled compiled, ?_, ?_⟩
  · simp only [List.filter_append, fresh, List.nil_append, List.filter_cons, beq_self_eq_true,
      ↓reduceIte, List.filter_nil]
  · exact (board.noticeRoom.boxes_openBox [] _).trans (if_pos rfl)

/-- A listener finds a notice exactly if its pattern matches the name, and it stays on the board. -/
theorem Attends.notify (attends : board.Attends listener waiting) (notice : Notice) :
    (board.notify notice).Attends listener
      (waiting ++ [notice].filter (listener.pattern.isMatch ·.name)) where
  once := by
    have kept : board.noticeRoom.isOpen listener.address = true :=
      (Mailroom.isOpen_iff _ _).mpr ⟨_, attends.box⟩
    change (board.listeners.filter _).filter _ = _
    rw [List.filter_comm, attends.once]
    apply List.filter_cons_of_pos
    rw [kept, Bool.or_true]
  box := by
    have times : ((board.listeners.filter (·.pattern.isMatch notice.name)).map
        Listener.address).count listener.address =
          ([listener].filter (·.pattern.isMatch notice.name)).length := by
      rw [List.count_eq_countP, List.countP_map, List.countP_eq_length_filter, List.filter_comm]
      change ((board.listeners.filter (·.address == listener.address)).filter _).length = _
      rw [attends.once]
    rw [noticeRoom_notify, Mailroom.boxes_sendEach, attends.box, times, Option.map_some]
    by_cases concerned : listener.pattern.isMatch notice.name = true
    · simp only [List.filter_cons, concerned, ↓reduceIte, List.filter_nil, List.length_singleton,
        List.replicate_one]
    · simp only [List.filter_cons, concerned, Bool.false_eq_true, ↓reduceIte, List.filter_nil,
        List.length_nil, List.replicate_zero]

/-- In an act a listener that does not leave reads the first of the notices that wait, and those
that concern it join the others. -/
theorem Attends.after (attends : board.Attends listener waiting) (placed : board.HasAddresses)
    {act : Act} (stays : act ≠ .leave listener.address) :
    ∃ rest, (board.after act).Attends listener rest ∧
      board.readAt listener.address act ++ rest =
        waiting ++ act.notices.filter (listener.pattern.isMatch ·.name) := by
  -- Where no notice is given and nothing is read, all is as before.
  have still {other : Board} {act : Act} (quiet : act.notices = [])
      (unread : board.readAt listener.address act = [])
      (listeners : other.listeners.filter (·.address == listener.address) = [listener])
      (box : other.noticeRoom.boxes[listener.address]? =
        board.noticeRoom.boxes[listener.address]?) :
      ∃ rest, other.Attends listener rest ∧ board.readAt listener.address act ++ rest =
        waiting ++ act.notices.filter (listener.pattern.isMatch ·.name) := by
    refine ⟨waiting, ⟨listeners, box.trans attends.box⟩, ?_⟩
    rw [quiet, unread, List.nil_append, List.filter_nil, List.append_nil]
  cases act with
  | subscribe name => exact ⟨_, attends.notify ⟨name, true⟩, rfl⟩
  | unsubscribe name => exact ⟨_, attends.notify ⟨name, false⟩, rfl⟩
  | listen pattern =>
      have old : board.noticeRoom.next ≠ listener.address := Nat.ne_of_gt (placed _ attends.mem)
      cases compiled : Pattern.compile? pattern with
      | none =>
          rw [Board.after, listen_of_malformed compiled]
          exact still rfl rfl attends.once rfl
      | some regex =>
          rw [Board.after, listen_of_compiled compiled]
          apply still rfl rfl
          · simp only [List.filter_append, attends.once, List.filter_cons, beq_iff_eq, old,
              ↓reduceIte, List.filter_nil, List.append_nil]
          · exact (board.noticeRoom.boxes_openBox [] _).trans (if_neg old)
  | readAll address =>
      have boxes := board.noticeRoom.boxes_readAll address listener.address
      by_cases here : address = listener.address
      · subst here
        refine ⟨[], ⟨attends.once, ?_⟩, ?_⟩
        · rw [if_pos rfl, attends.box] at boxes
          exact boxes
        · simp only [readAt, ↓reduceIte, List.append_nil, Act.notices, List.filter_nil]
          exact board.noticeRoom.readAll_of_box attends.box
      · exact still rfl (if_neg here) attends.once (boxes.trans (if_neg here))
  | readOne address =>
      have boxes := board.noticeRoom.boxes_read address listener.address
      by_cases here : address = listener.address
      · subst here
        rw [if_pos rfl, attends.box, Option.map_some] at boxes
        refine ⟨waiting.drop 1, ⟨attends.once, boxes.trans ?_⟩, ?_⟩
        · cases waiting <;> rfl
        · simp only [readAt, ↓reduceIte, Mailroom.read_of_box _ attends.box, Act.notices,
            List.filter_nil, List.append_nil]
          cases waiting <;> rfl
      · exact still rfl (if_neg here) attends.once (boxes.trans (if_neg here))
  | leave address =>
      have other : address ≠ listener.address := fun same => stays (same ▸ rfl)
      exact still rfl rfl attends.once
        ((board.noticeRoom.boxes_close address listener.address).trans (if_neg other))
  | around other => exact still rfl rfl attends.once rfl

/-- As long as it does not leave, a listener hears the notices that concern it, apart from those
that wait for it. -/
theorem Attends.run (attends : board.Attends listener waiting) (placed : board.HasAddresses)
    {acts : List Act} (stays : .leave listener.address ∉ acts) :
    ∃ rest, (board.run acts).Attends listener rest ∧
      board.heard listener.address acts ++ rest =
        waiting ++ (acts.flatMap Act.notices).filter (listener.pattern.isMatch ·.name) := by
  induction acts generalizing board waiting with
  | nil => exact ⟨waiting, attends, (List.append_nil waiting).symm⟩
  | cons act later ih =>
      rw [List.mem_cons, not_or] at stays
      obtain ⟨between, attends, read⟩ := attends.after placed (Ne.symm stays.1)
      obtain ⟨rest, attends, onward⟩ := ih attends (placed.after act) stays.2
      refine ⟨rest, attends, ?_⟩
      rw [heard, List.append_assoc, onward, ← List.append_assoc, read, List.flatMap_cons,
        List.filter_append, List.append_assoc]

end Attending

/-- **Who listens with the pattern of a prefix misses nothing.** The pattern matches the names that
begin with the prefix and a question mark. Who listens with it hears the later notices about these
names, each once and in order, whatever else happens: what it has read and what it finds next are
all of them, and it is never told that there will be no more. -/
theorem hears_prefixed (capacity : Nat) (earlier : List Act) (listPrefix : String)
    {regex : Pattern.Regex} (compiled : Pattern.compile? (listenPattern listPrefix) = some regex) :
    (∀ name, regex.isMatch name = true ↔ listPrefix.toList ++ ['?'] <+: name.toList) ∧
      ∃ address opened,
        ((Board.empty capacity).run earlier).listen (listenPattern listPrefix) =
          .ok (address, opened) ∧
        ∀ later, .leave address ∉ later →
          opened.heard address later ++ ((opened.run later).readNotices address).1 =
            (later.flatMap Act.notices).filter
              (fun notice => listPrefix.toList ++ ['?'] <+: notice.name.toList) ∧
          (opened.run later).noticeRoom.isFinished address = false := by
  have matching (name : String) :
      regex.isMatch name = true ↔ listPrefix.toList ++ ['?'] <+: name.toList := by
    have means := compiled
    rw [Pattern.compile?_listenPattern] at means
    split at means
    · rw [← Option.some.inj means]
      exact Pattern.isMatch_listenRegex listPrefix.toList name
    · cases means
  have nobody : (Board.empty capacity).HasAddresses := List.forall_mem_nil _
  have placed := nobody.run earlier
  obtain ⟨address, opened, listening, attends⟩ := attends_of_listen compiled placed
  refine ⟨matching, address, opened, listening, ?_⟩
  intro later stays
  have settled : opened.HasAddresses := by
    have step := placed.after (.listen (listenPattern listPrefix))
    rwa [Board.after, listening] at step
  obtain ⟨rest, attends, heard⟩ := attends.run settled stays
  constructor
  · change _ ++ ((opened.run later).noticeRoom.readAll address).1 = _
    rw [Mailroom.readAll_of_box _ attends.box, heard, List.nil_append]
    apply List.filter_congr
    intro notice _
    rw [Bool.eq_iff_iff, matching, decide_eq_true_eq]
  · simp only [Mailroom.isFinished, attends.box, Bool.false_and]

/-- Others listen to all names or leave, and names come that are like those with the prefix. -/
def bustle : List Act :=
  [.subscribe "a.b?1", .listen "", .subscribe "a-b?1", .readOne 2, .leave 1, .subscribe "a.b",
    .subscribe "a.bc?1", .readAll 3, .unsubscribe "a.b?1", .leave 3, .subscribe "a.b?\n"]

theorem hears_prefixed_bustle : ∃ address opened,
    ((Board.empty 9).run [.listen "", .listen "b", .leave 0]).listen (listenPattern "a.b") =
      .ok (address, opened) ∧
    opened.heard address bustle ++ ((opened.run bustle).readNotices address).1 =
      [⟨"a.b?1", true⟩, ⟨"a.b?1", false⟩, ⟨"a.b?\n", true⟩] := by
  have short : (Pattern.compile? (listenPattern "a.b")).isSome = true := by decide +kernel
  obtain ⟨regex, compiled⟩ := Option.isSome_iff_exists.mp short
  obtain ⟨address, opened, listening, hears⟩ :=
    (hears_prefixed 9 [.listen "", .listen "b", .leave 0] "a.b" compiled).2
  have third : (((Board.empty 9).run [.listen "", .listen "b", .leave 0]).listen
      (listenPattern "a.b")).toOption.map Prod.fst = some 2 := by decide +kernel
  rw [listening] at third
  obtain rfl := Option.some.inj third
  refine ⟨2, opened, listening, ?_⟩
  rw [(hears bustle (by simp [bustle])).1]
  decide +kernel

end Board

end LiveSearch
