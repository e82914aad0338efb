import LiveSearch.Proofs.Service.Sessions
import LiveSearch.Proofs.Store.Delivery

/-! # Readers of changefeeds

A session opens one changefeed and gives it up when it ends, so of all changefeeds that sessions
have opened only those are still open that a session reads (`LiveSearch.Readership`). When all
sessions have ended none of them is open (`LiveSearch.Readership.closed`).
-/

namespace LiveSearch

/-- The addresses of the boxes that have been opened between two moments. -/
def Mailroom.opened {α : Type} (before after : Mailroom α) : List Nat :=
  List.range' before.next (after.next - before.next)

theorem Mailroom.mem_opened {α : Type} {before after : Mailroom α} (ages : before.Ages after)
    {address : Nat} : address ∈ before.opened after ↔
      before.next ≤ address ∧ address < after.next := by
  rw [opened, List.mem_range'_1, Nat.add_sub_cancel' ages.next]

/-- The worker has no feed yet, or no longer. -/
def Phase.isIdle : Phase → Bool
  | opening => true
  | stopped _ => true
  | _ => false

theorem Phase.isIdle_of_isStopped {phase : Phase} (stopped : phase.isStopped = true) :
    phase.isIdle = true := by
  cases phase with
  | stopped owned => rfl
  | _ => exact absurd stopped Bool.false_ne_true

/-- A worker that is not about to open its feed has its feed unless it has ended. -/
theorem Phase.isStopped_of_isIdle {phase : Phase} (idle : phase.isIdle = true)
    (opened : phase ≠ .opening) : phase.isStopped = true := by
  cases phase with
  | opening => exact absurd rfl opened
  | stopped owned => rfl
  | _ => exact absurd idle Bool.false_ne_true

namespace Running

variable {running behind : Running} {board : Board} {database between : Database} {signal : Signal}

/-- A session that has been told something is not about to open its feed, unless its query has just
been answered. -/
theorem Next.ne_opening (next : running.Next board database behind between signal)
    (told : signal ≠ .queried) : (running.session.receive board signal).1.phase ≠ .opening := by
  have ended {session : Session} (stopped : session.phase.isStopped = true) :
      session.phase ≠ .opening := by
    intro opening
    rw [opening] at stopped
    exact absurd stopped Bool.false_ne_true
  cases next with
  | asked opening kept => exact absurd rfl told
  | connected answer opening answered =>
      rcases running.connect_cases database answer with
        ⟨records, address, _, _, opened⟩ | ⟨cause, address, _, refused⟩ | ⟨cause, _, _, refused⟩
      · rw [opened]
        simp only [Session.receive, opening]
        intro same
        cases same
      · rw [refused]
        simp only [Session.receive, opening]
        intro same
        cases same
      · rw [refused]
        simp only [Session.receive, opening]
        intro same
        cases same
  | cancelled told going => exact ended (running.session.isStopped_cancelled board)
  | row item rest keys collecting rows =>
      simp only [Session.receive, collecting]
      cases item with
      | ok record =>
          intro same
          cases same
      | error cause =>
          intro same
          cases same
  | rowsEnd keys collecting =>
      simp only [Session.receive, collecting]
      intro same
      cases same
  | listDeleted handle entries following withdrawn =>
      simp only [Session.receive, following]
      intro same
      cases same
  | event address item reads going feed found =>
      exact Phase.ne_opening_of_readsFeed
        ((running.session.receive_outcome board (.event item)).readsFeed reads)
  | feedEnd address reads going feed found =>
      exact Phase.ne_opening_of_readsFeed
        ((running.session.receive_outcome board .feedEnd).readsFeed reads)

/-- A session that is told something opens at most the box of its feed. -/
private theorem Next.opens (next : running.Next board database behind between signal)
    (tidy : database.IsTidy) : between.IsTidy ∧ database.feedRoom.Ages between.feedRoom ∧
      ∀ address, database.feedRoom.next ≤ address → between.feedRoom.isOpen address = true →
        behind.feed = some address := by
  have former {address : Nat} (fresh : database.feedRoom.next ≤ address) :
      database.feedRoom.isOpen address ≠ true := by
    intro earlier
    obtain ⟨box, placed⟩ := (Mailroom.isOpen_iff _ _).mp earlier
    exact Nat.not_lt.mpr fresh (tidy.boxes address box placed)
  cases next with
  | asked opening kept =>
      have room : (database.query running.plan).1.feedRoom = database.feedRoom :=
        Database.feedRoom_query running.plan
      refine ⟨Database.query_isTidy tidy, Database.query_ages running.plan, ?_⟩
      rw [room]
      exact fun address fresh isOpen => absurd isOpen (former fresh)
  | connected answer opening answered =>
      have subscribed : (database.subscribe running.plan).1.IsTidy := Database.subscribe_isTidy tidy
      have ages : database.feedRoom.Ages (database.subscribe running.plan).1.feedRoom :=
        Database.subscribe_ages running.plan
      have granted {address : Nat} (fresh : database.feedRoom.next ≤ address)
          (isOpen : (database.subscribe running.plan).1.feedRoom.isOpen address = true) :
          (database.subscribe running.plan).2 = .ok address :=
        Database.isOpen_subscribe fresh tidy isOpen
      rcases running.connect_cases database answer with
        ⟨records, address, _, given, opened⟩ | ⟨cause, address, given, refused⟩ |
          ⟨cause, failure, failed, refused⟩
      · rw [opened]
        refine ⟨subscribed, ages, fun other fresh isOpen => ?_⟩
        exact congrArg some (Except.ok.inj (given.symm.trans (granted fresh isOpen)))
      · rw [refused]
        refine ⟨Database.release_isTidy address subscribed,
          ages.trans (Mailroom.close_ages _ address), fun other fresh isOpen => ?_⟩
        rw [Database.release, Mailroom.isOpen_close, Bool.and_eq_true, decide_eq_true_eq] at isOpen
        obtain ⟨different, isOpen⟩ := isOpen
        exact absurd (Except.ok.inj (given.symm.trans (granted fresh isOpen))) different
      · rw [refused]
        refine ⟨subscribed, ages, fun other fresh isOpen => ?_⟩
        cases failed.symm.trans (granted fresh isOpen)
  | event other item reads going feed found =>
      refine ⟨Database.afterRead_isTidy other tidy, Database.afterRead_ages database other,
        fun address fresh isOpen => absurd ?_ (former fresh)⟩
      exact (Mailroom.isOpen_read _ other address).symm.trans isOpen
  | _ => exact ⟨tidy, .refl _, fun address fresh isOpen => absurd isOpen (former fresh)⟩

/-- A session that has a feed keeps it while it is told something. -/
private theorem Next.feed (next : running.Next board database behind between signal)
    (opened : running.session.phase ≠ .opening) : behind.feed = running.feed := by
  cases next with
  | connected answer opening answered => exact absurd opening opened
  | _ => rfl

/-- A session that has ended closes the box of its feed. -/
private theorem tell_closes (running : Running) (board : Board) (tidy : database.IsTidy)
    (signal : Signal) : (running.tell board database signal).2.IsTidy ∧
      (running.tell board database signal).2.feedRoom.next = database.feedRoom.next ∧
      ∀ address, (running.tell board database signal).2.feedRoom.isOpen address = true →
        database.feedRoom.isOpen address = true ∧ (running.feed = some address →
          (running.tell board database signal).1.feed = some address) := by
  cases going : (running.session.receive board signal).1.phase.isStopped with
  | false =>
      rw [tell_of_running going]
      exact ⟨tidy, rfl, fun _ isOpen => ⟨isOpen, id⟩⟩
  | true =>
      rw [tell_of_stopped going]
      cases feed : running.feed with
      | none => exact ⟨tidy, rfl, fun _ isOpen => ⟨isOpen, nofun⟩⟩
      | some address =>
          refine ⟨Database.release_isTidy address tidy, rfl, fun other isOpen => ?_⟩
          have left : (database.feedRoom.close address).isOpen other = true := isOpen
          rw [Mailroom.isOpen_close, Bool.and_eq_true, decide_eq_true_eq] at left
          exact ⟨left.2, fun same => absurd (Option.some.inj same) left.1⟩

/-- Only a session that is about to open its feed hears that its query has been answered. -/
private theorem Next.queried_cases (next : running.Next board database behind between signal) :
    signal ≠ .queried ∨
      running.session.phase = .opening ∧ behind.feed = running.feed ∧ signal = .queried := by
  cases next with
  | asked opening kept => exact .inr ⟨opening, rfl, rfl⟩
  | connected answer opening answered =>
      left
      rcases running.connect_cases database answer with
        ⟨records, address, _, _, opened⟩ | ⟨cause, address, _, refused⟩ | ⟨cause, _, _, refused⟩
      · rw [opened]
        exact nofun
      · rw [refused]
        exact nofun
      · rw [refused]
        exact nofun
  | _ => exact .inl nofun

/-- A session that has been told something has its feed unless it has not opened one or has
ended. -/
private theorem Next.idle_tell (next : running.Next board database behind between signal)
    (before : running.session.phase.isIdle = true → running.feed = none)
    (idle : (behind.tell board between signal).1.session.phase.isIdle = true) :
    (behind.tell board between signal).1.feed = none := by
  rcases next.queried_cases with told | ⟨opening, feed, rfl⟩
  · rw [next.session_tell] at idle
    have stopped := Phase.isStopped_of_isIdle idle (next.ne_opening told)
    rw [← next.session] at stopped
    rw [tell_of_stopped stopped]
  · have going : (behind.session.receive board .queried).1.phase.isStopped = false := by
      rw [next.session]
      simp only [Session.receive, opening]
      rfl
    rw [tell_of_running going]
    exact feed.trans (before (by rw [opening]; rfl))

end Running

/-- The store is tidy. A session that has not opened its feed or has ended has none, and of the
boxes that sessions have opened only those are still open that a session reads. -/
structure Readership (given : List Nat) (sessions : Std.TreeMap Nat Running) (database : Database) :
    Prop where
  tidy : database.IsTidy
  idle : ∀ (id : Nat) (running : Running), sessions[id]? = some running →
    running.session.phase.isIdle = true → running.feed = none
  known : ∀ address ∈ given, address < database.feedRoom.next
  read : ∀ address ∈ given, database.feedRoom.isOpen address = true →
    ∃ (id : Nat) (running : Running), sessions[id]? = some running ∧ running.feed = some address

namespace Readership

variable {given : List Nat} {sessions : Std.TreeMap Nat Running} {database : Database} {id : Nat}

theorem of_empty (tidy : database.IsTidy) : Readership [] ∅ database where
  tidy := tidy
  idle _ _ found := nomatch Std.TreeMap.getElem?_emptyc.symm.trans found
  known := List.forall_mem_nil _
  read := List.forall_mem_nil _

variable (readership : Readership given sessions database)

include readership

/-- When all sessions have ended the boxes that they have opened are closed. -/
theorem closed (stopped : ∀ (id : Nat) (running : Running), sessions[id]? = some running →
    running.session.phase.isStopped = true) {address : Nat} (member : address ∈ given) :
    database.feedRoom.isOpen address = false := by
  rw [Bool.eq_false_iff]
  intro isOpen
  obtain ⟨id, running, found, feed⟩ := readership.read address member isOpen
  have idle := Phase.isIdle_of_isStopped (stopped id running found)
  exact nomatch feed.symm.trans (readership.idle id running found idle)

/-- A session takes the place of another one that has the same feed, or is a new one. -/
theorem insert {after : Running}
    (idle : after.session.phase.isIdle = true → after.feed = none)
    (feed : ∀ before, sessions[id]? = some before → after.feed = before.feed) :
    Readership given (sessions.insert id after) database where
  tidy := readership.tidy
  idle other running found := by
    rcases lookup_insert_cases found with ⟨_, rfl⟩ | ⟨_, earlier⟩
    · exact idle
    · exact readership.idle other running earlier
  known := readership.known
  read address member isOpen := by
    obtain ⟨other, running, found, reads⟩ := readership.read address member isOpen
    by_cases same : id = other
    · subst same
      refine ⟨id, after, ?_, (feed running found).trans reads⟩
      rw [lookup_insert, if_pos rfl]
    · refine ⟨other, running, ?_, reads⟩
      rw [lookup_insert, if_neg same, found]

/-- A session is told something. -/
theorem told {running behind : Running} {board : Board} {between : Database} {signal : Signal}
    (found : sessions[id]? = some running)
    (next : running.Next board database behind between signal) :
    Readership (given ++ database.feedRoom.opened (behind.tell board between signal).2.feedRoom)
      (sessions.insert id (behind.tell board between signal).1)
      (behind.tell board between signal).2 := by
  obtain ⟨tidy, ages, opens⟩ := next.opens readership.tidy
  obtain ⟨ordered, stays, closes⟩ := behind.tell_closes board tidy signal
  have grown := ages.trans (.of_isOpen stays fun address isOpen => (closes address isOpen).1)
  have own : (sessions.insert id (behind.tell board between signal).1)[id]? =
      some (behind.tell board between signal).1 := by
    rw [lookup_insert, if_pos rfl]
  refine ⟨ordered, fun other another present idle => ?_, fun address member => ?_,
    fun address member isOpen => ?_⟩
  · rcases lookup_insert_cases present with ⟨_, rfl⟩ | ⟨_, earlier⟩
    · exact next.idle_tell (readership.idle id running found) idle
    · exact readership.idle other another earlier idle
  · rcases List.mem_append.mp member with earlier | new
    · exact Nat.lt_of_lt_of_le (readership.known address earlier) grown.next
    · exact ((Mailroom.mem_opened grown).mp new).2
  · rcases List.mem_append.mp member with earlier | new
    · have known := readership.known address earlier
      obtain ⟨other, another, held, reads⟩ :=
        readership.read address earlier (grown.former address known isOpen)
      by_cases same : id = other
      · subst same
        obtain rfl := Option.some.inj (found.symm.trans held)
        have opened : running.session.phase ≠ .opening := by
          intro opening
          have none := readership.idle id running found (by rw [opening]; rfl)
          exact nomatch reads.symm.trans none
        exact ⟨id, _, own, (closes address isOpen).2 ((next.feed opened).trans reads)⟩
      · refine ⟨other, another, ?_, reads⟩
        rw [lookup_insert, if_neg same, held]
    · obtain ⟨before, feed⟩ := closes address isOpen
      have fresh := ((Mailroom.mem_opened grown).mp new).1
      exact ⟨id, _, own, feed (opens address fresh before)⟩

/-- Others use the store. -/
theorem act (act : Database.Act) : Readership given sessions (act.after database) where
  tidy := act.isTidy_after readership.tidy
  idle := readership.idle
  known address member :=
    Nat.lt_of_lt_of_le (readership.known address member) (act.ages_after database).next
  read address member isOpen := readership.read address member
    ((act.ages_after database).former address (readership.known address member) isOpen)

end Readership

end LiveSearch
