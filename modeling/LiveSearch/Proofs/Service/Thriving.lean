import LiveSearch.Proofs.Service.Sessions
import LiveSearch.Proofs.Session.Rehearsal

/-! # Sessions that nothing disturbs

A session thrives while its table exists, its feed has not ended, and its list, once published, has
not been deleted (`LiveSearch.Running.Thrives`). If nothing is made to fail, its own steps do not
end it (`LiveSearch.Running.Next.thrives`), and those of others do not concern it
(`LiveSearch.Running.Thrives.frame`).
-/

namespace LiveSearch

namespace Running

/-- A session has not ended, and nothing has happened that ends it. -/
structure Thrives (running : Running) (board : Board) (database : Database) : Prop where
  going : running.session.phase.isStopped = false
  /-- The query has not been refused. -/
  answered : ∀ cause, running.answer ≠ some (.error cause)
  stored : ∃ table, database.tables[running.plan.table]? = some table
  lasting : ∀ (address : Nat) (box : Box FeedItem), running.feed = some address →
    database.feedRoom.boxes[address]? = some box → box.ended = false
  listed : running.session.phase.isEarly = false →
    ∃ list, board.lists[running.session.name]? = some list

variable {running : Running} {board : Board} {database : Database}

/-- What happens to other lists and at other feeds does not disturb a session. -/
theorem Thrives.frame (thrives : running.Thrives board database) {written : Board}
    {after : Database}
    (lists : written.lists[running.session.name]? = board.lists[running.session.name]?)
    (boxes : ∀ (address : Nat) (box : Box FeedItem), running.feed = some address →
      after.feedRoom.boxes[address]? = some box → ∃ earlier : Box FeedItem,
        database.feedRoom.boxes[address]? = some earlier ∧ earlier.ended = box.ended)
    (tables : ∀ (name : String) (table : Table), database.tables[name]? = some table →
      ∃ other, after.tables[name]? = some other) : running.Thrives written after where
  going := thrives.going
  answered := thrives.answered
  stored := by
    obtain ⟨table, found⟩ := thrives.stored
    exact tables _ table found
  lasting address box feed placed := by
    obtain ⟨earlier, before, same⟩ := boxes address box feed placed
    exact same ▸ thrives.lasting address earlier feed before
  listed late := by
    rw [lists]
    exact thrives.listed late

/-- A thriving session is calm while writes succeed. -/
theorem Thrives.isCalm (thrives : running.Thrives board database)
    (sound : running.IsSound board database) (unclosed : running.session.closed = false)
    (ordered : board.IsSound) (working : board.failure = none) : running.session.IsCalm board where
  fits := sound.fits
  sound := ordered
  working := working
  standing handle entries following := by
    cases withdrawn : board.isWithdrawn handle with
    | false => rfl
    | true =>
        obtain ⟨list, found⟩ := thrives.listed (by rw [following]; rfl)
        have absent := (sound.owns unclosed).absent_of_withdrawn ordered (by rw [following]; rfl)
          withdrawn
        exact nomatch absent.symm.trans found

/-- A calm session that reads an event goes on. -/
private theorem going_of_event {session : Session} {board : Board} (calm : session.IsCalm board)
    {event : FeedEvent} {events : List FeedEvent} {keys : Finset String}
    (reads : session.phase.readsFeed = true)
    (absorbs : session.phase.AbsorbsTo session.primaryKey (event :: events) keys) :
    (session.receive board (.event (.ok event))).1.phase.isStopped = false := by
  cases phase : session.phase with
  | merging gathered =>
      cases event with
      | ready =>
          obtain ⟨handle, published, _⟩ := session.publish_ready calm.sound calm.working gathered
          have told : session.receive board (.event (.ok .ready)) =
              session.publish board gathered := by
            simp only [Session.receive, phase, Session.receiveMerging]
          rw [told, published]
          rfl
      | initial =>
          simp only [Session.receive, phase, Session.receiveMerging]
          rfl
      | change old new =>
          simp only [Session.receive, phase, Session.receiveMerging]
          rfl
  | following handle entries =>
      rw [phase] at absorbs
      obtain ⟨others, told, _⟩ := Session.receive_pure calm.fits calm.working phase
        (calm.standing handle entries phase) (absorbs.1 event List.mem_cons_self)
      rw [told]
      rfl
  | opening =>
      rw [phase] at reads
      exact absurd reads Bool.false_ne_true
  | collecting gathered =>
      rw [phase] at reads
      exact absurd reads Bool.false_ne_true
  | stopped owned =>
      rw [phase] at absorbs
      exact absorbs.elim

section Stepping

variable {behind : Running} {between : Database} {signal : Signal}

/-- The table of a thriving session exists, and its plan can be run. -/
private theorem Thrives.selected (thrives : running.Thrives board database)
    (sound : running.IsSound board database) : ∃ selection table,
      Selection.ofPlan? running.plan = some selection ∧
        database.tables[running.plan.table]? = some table := by
  obtain ⟨table, found⟩ := thrives.stored
  obtain ⟨descriptor, parsed, planned⟩ := sound.planned
  obtain ⟨selection, selected, _⟩ := Descriptor.selection_of_plan parsed database.primaryKey
  exact ⟨selection, table, planned ▸ selected, found⟩

/-- The query of a thriving session is not refused. -/
private theorem Thrives.unrefused (thrives : running.Thrives board database)
    (sound : running.IsSound board database) (queries : database.failQuery = none)
    (cause : ServiceError) : (database.query running.plan).2 ≠ .error cause := by
  obtain ⟨selection, table, selected, found⟩ := thrives.selected sound
  rw [Database.query_answers selected found queries]
  exact nofun

/-- A thriving session is not refused its changefeed. -/
private theorem connect_opened (thrives : running.Thrives board database)
    (sound : running.IsSound board database) (opens : database.failSubscribe = none)
    {answer : Except ServiceError (List Json)} (answered : running.answer = some answer) :
    ∃ (records : List Json) (address : Nat),
      (database.subscribe running.plan).2 = .ok address ∧
      running.connect database answer =
        ({ running with answer := none, rows := records.map .ok, feed := some address },
          (database.subscribe running.plan).1, .opened) := by
  obtain ⟨selection, table, selected, found⟩ := thrives.selected sound
  have granted := Database.subscribe_answers selected found opens
  cases answer with
  | error cause => exact absurd answered (thrives.answered cause)
  | ok records =>
      refine ⟨records, database.feedRoom.next, granted, ?_⟩
      simp only [connect, granted]

/-- A thriving session that is not told to end goes on. -/
private theorem Next.goes_on (next : running.Next board database behind between signal)
    (sound : running.IsSound board database) (thrives : running.Thrives board database)
    (calm : running.session.IsCalm board) (kept : running.session.cancelled = false)
    (opens : database.failSubscribe = none) :
    (running.session.receive board signal).1.phase.isStopped = false := by
  cases next with
  | asked opening _ =>
      simp only [Session.receive, opening]
      rfl
  | connected answer opening answered =>
      obtain ⟨records, address, _, opened⟩ := connect_opened thrives sound opens answered
      rw [opened]
      simp only [Session.receive, opening]
      rfl
  | cancelled told _ => exact absurd (kept.symm.trans told) Bool.false_ne_true
  | row item rest keys collecting rows =>
      obtain ⟨record, rfl⟩ := sound.rows item (rows ▸ List.mem_cons_self)
      simp only [Session.receive, collecting]
      rfl
  | rowsEnd keys collecting =>
      simp only [Session.receive, collecting]
      rfl
  | event address item reads going feed found =>
      obtain ⟨other, same, table, box, _, placed, lasting⟩ := sound.serves
        (Phase.ne_opening_of_readsFeed reads) going
      obtain rfl := Option.some.inj (feed.symm.trans same)
      rcases lasting with ended | ⟨_, _, events, _, _, _, rfl, absorbs⟩
      · exact absurd ((thrives.lasting address box feed placed).symm.trans ended)
          Bool.false_ne_true
      · rw [Mailroom.read_of_box _ placed] at found
        cases events with
        | nil => cases found
        | cons event rest =>
            obtain rfl := Found.item.inj found
            rw [← sound.keyed] at absorbs
            exact going_of_event calm reads absorbs
  | feedEnd address reads going feed found =>
      obtain ⟨other, same, _, box, _, placed, _⟩ := sound.serves
        (Phase.ne_opening_of_readsFeed reads) going
      obtain rfl := Option.some.inj (feed.symm.trans same)
      rw [Mailroom.read_of_box _ placed, Box.read, thrives.lasting address box feed placed] at found
      split at found <;> cases found
  | listDeleted handle entries following withdrawn =>
      exact absurd ((calm.standing handle entries following).symm.trans withdrawn)
        Bool.false_ne_true

/-- The feed of a thriving session has not ended when the session has read. -/
private theorem Next.lasts (next : running.Next board database behind between signal)
    (sound : running.IsSound board database) (thrives : running.Thrives board database)
    (opens : database.failSubscribe = none) (address : Nat)
    (box : Box FeedItem) (feed : behind.feed = some address)
    (placed : between.feedRoom.boxes[address]? = some box) : box.ended = false := by
  cases next with
  | asked opening _ =>
      rw [(database.query_keepsFeed running.plan address).box] at placed
      exact thrives.lasting address box feed placed
  | connected answer opening answered =>
      obtain ⟨records, granted, subscribed, opened⟩ := connect_opened thrives sound opens answered
      rw [opened] at feed placed
      obtain rfl := Option.some.inj feed
      obtain ⟨_, _, lasting⟩ := fresh_of_subscribed sound subscribed .empty
      exact lasting box placed
  | event other item _ _ same found =>
      obtain rfl := Option.some.inj (same.symm.trans feed)
      change (database.feedRoom.read other).2.boxes[other]? = some box at placed
      rw [Mailroom.boxes_read, if_pos rfl] at placed
      obtain ⟨earlier, before, read⟩ := Option.map_eq_some_iff.mp placed
      have lasting := thrives.lasting other earlier feed before
      rw [← read, Box.read]
      split <;> exact lasting
  | _ => exact thrives.lasting address box feed placed

/-- A thriving session has not been refused its query when it has been told something. -/
private theorem Next.answered (next : running.Next board database behind between signal)
    (sound : running.IsSound board database) (thrives : running.Thrives board database)
    (queries : database.failQuery = none) (cause : ServiceError) :
    behind.answer ≠ some (.error cause) := by
  cases next with
  | asked opening kept =>
      exact fun same => thrives.unrefused sound queries cause (Option.some.inj same)
  | connected answer opening answered =>
      rcases running.connect_cases database answer with
        ⟨records, address, _, _, opened⟩ | ⟨cause, address, _, refused⟩ | ⟨cause, _, _, refused⟩
      · rw [opened]
        exact nofun
      · rw [refused]
        exact nofun
      · rw [refused]
        exact nofun
  | _ => exact thrives.answered cause

/-- A thriving session that is not told to end goes on thriving. -/
theorem Next.thrives (next : running.Next board database behind between signal)
    (sound : running.IsSound board database) (ordered : board.IsSound) (stored : database.IsSound)
    (unclosed : running.session.closed = false) (kept : running.session.cancelled = false)
    (working : board.failure = none) (queries : database.failQuery = none)
    (opens : database.failSubscribe = none) (thrives : running.Thrives board database) :
    (behind.tell board between signal).1.Thrives (running.session.receive board signal).2
      (behind.tell board between signal).2 := by
  have calm := thrives.isCalm sound unclosed ordered working
  have going := next.goes_on sound thrives calm kept opens
  have passes := next.passes sound ordered stored
  have told : behind.tell board between signal =
      ({ behind with session := (running.session.receive board signal).1 }, between) := by
    rw [← next.session] at going ⊢
    exact tell_of_running going
  have plan := passes.plan
  have spares := passes.spares
  rw [told] at plan spares ⊢
  refine ⟨going, next.answered sound thrives queries, ?_, fun address box feed placed => ?_,
    fun late => ?_⟩
  · obtain ⟨table, found⟩ := thrives.stored
    obtain ⟨feeds, still⟩ := spares.tables _ table found
    rw [plan]
    exact ⟨_, still⟩
  · exact next.lasts sound thrives opens address box feed placed
  · have after := calm.receive signal
    cases phase : (running.session.receive board signal).1.phase with
    | following handle entries =>
        obtain ⟨_, _, listed⟩ := after.fits.mirrored handle entries phase
        rcases listed with withdrawn | found
        · exact absurd ((after.standing handle entries phase).symm.trans withdrawn)
            Bool.false_ne_true
        · exact ⟨_, found⟩
    | stopped owned =>
        rw [phase] at going
        exact absurd going.symm Bool.false_ne_true
    | _ =>
        dsimp only at late
        rw [phase] at late
        exact absurd late.symm Bool.false_ne_true

end Stepping

end Running

end LiveSearch
