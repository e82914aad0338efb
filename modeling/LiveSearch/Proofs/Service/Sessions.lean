import LiveSearch.Proofs.Query.Plan
import LiveSearch.Proofs.Session.Ownership
import LiveSearch.Proofs.Store.Sharing
import LiveSearch.Service.Basic

/-! # One session among others

A session of the service is sound when it owns its list and its changefeed serves it
(`LiveSearch.Running.IsSound`). What it is told next is known (`LiveSearch.Running.Next`). A step
keeps it sound and only writes its own list and reads its own feed (`LiveSearch.Running.Passes`,
`LiveSearch.Running.Next.passes`), so all other sessions stay sound too
(`LiveSearch.Running.IsSound.frame`).
-/

namespace LiveSearch

namespace Running

/-- A session that is open reads a feed that serves it. -/
def Reads (running : Running) (database : Database) : Prop :=
  match running.feed with
  | none => running.session.phase = .opening ∨ running.session.phase.isStopped = true
  | some address => database.Serves address running.plan running.session.phase

/-- A session fits its board and owns its list, unless it is closed; it runs the plan of its name
and reads what the store reports about this plan. -/
structure IsSound (running : Running) (board : Board) (database : Database) : Prop where
  fits : running.session.Fits board
  owns : running.session.closed = false → running.session.Owns board
  closed : running.session.closed = true → running.session.phase = .stopped none
  keyed : running.session.primaryKey = database.primaryKey
  planned : ∃ descriptor, Descriptor.ofName running.session.name = .ok descriptor ∧
    running.plan = descriptor.plan database.primaryKey
  rows : ∀ item ∈ running.rows, ∃ record, item = .ok record
  reads : running.Reads database
  stored : running.session.phase.handle?.isSome = true →
    ∃ table, database.tables[running.plan.table]? = some table

variable {running : Running} {board : Board} {database : Database}

/-- The selection of a sound session keeps the field that identifies a record. -/
theorem IsSound.plucks (sound : running.IsSound board database) (selection : Selection)
    (selected : Selection.ofPlan? running.plan = some selection) :
    selection.primaryKey = some database.primaryKey := by
  obtain ⟨descriptor, parsed, planned⟩ := sound.planned
  obtain ⟨other, same, plucks⟩ := Descriptor.selection_of_plan parsed database.primaryKey
  rw [planned, same] at selected
  exact Option.some.inj selected ▸ plucks

theorem IsSound.tends (sound : running.IsSound board database) : running.session.Tends board :=
  ⟨sound.fits, sound.owns, sound.closed⟩

/-- What happens to other lists and at other feeds keeps a session sound. -/
theorem IsSound.frame (sound : running.IsSound board database) {name : String} {written : Board}
    {after : Database} (writes : board.WritesOnly name written)
    (different : running.session.closed = false → name ≠ running.session.name)
    (keeps : ∀ address, running.feed = some address → Database.KeepsFeed address database after)
    (primaryKey : after.primaryKey = database.primaryKey)
    (tables : ∀ (name : String) (table : Table), database.tables[name]? = some table →
      ∃ feeds, after.tables[name]? = some ⟨table.rows, feeds⟩) :
    running.IsSound written after :=
  have tends := sound.tends.frame writes different
  { fits := tends.fits
    owns := tends.owns
    closed := tends.closed
    keyed := sound.keyed.trans primaryKey.symm
    planned := primaryKey ▸ sound.planned
    rows := sound.rows
    reads := by
      have reads := sound.reads
      unfold Reads at reads ⊢
      cases feed : running.feed with
      | none =>
          rw [feed] at reads
          exact reads
      | some address =>
          rw [feed] at reads
          exact reads.frame (keeps address feed)
    stored := fun held =>
      have ⟨_, found⟩ := sound.stored held
      have ⟨_, still⟩ := tables _ _ found
      ⟨_, still⟩ }

/-- Deletions of lists keep a session sound. -/
theorem IsSound.withdraw (sound : running.IsSound board database) {after : Board}
    (withdraws : board.Withdraws after) : running.IsSound after database :=
  have tends := sound.tends.withdraw withdraws
  { sound with
    fits := tends.fits
    owns := tends.owns }

/-- A session that is told to end stays sound until it does. -/
theorem IsSound.cancel (sound : running.IsSound board database) :
    IsSound { running with session := running.session.cancel } board database :=
  { sound with
    fits := sound.tends.cancel.fits }

/-- A session that is closed stays sound without a list. -/
theorem IsSound.close (sound : running.IsSound board database)
    (stopped : running.session.phase.isStopped = true) {after : Board} :
    IsSound { running with session := (running.session.finishClosing board).1 } after database :=
  have tends := running.session.tends_finishClosing board after
  { sound with
    fits := tends.fits
    owns := tends.owns
    closed := tends.closed
    reads := by
      have reads := sound.reads
      unfold Reads at reads ⊢
      cases feed : running.feed with
      | none => exact .inr rfl
      | some address =>
          rw [feed] at reads
          refine reads.imp fun events keys absorbs => ?_
          exact absurd (absorbs.running.symm.trans stopped) Bool.false_ne_true
    stored := fun held => absurd held Bool.false_ne_true }

/-- Whatever clients ask of the store, a session stays sound. -/
theorem IsSound.answer (sound : running.IsSound board database) (stored : database.IsSound)
    {fault : Bool} {after : Database}
    (answer : Database.Answer (Json.HasPlainKey database.primaryKey) database fault after) :
    running.IsSound board after :=
  { sound with
    keyed := sound.keyed.trans answer.primaryKey.symm
    planned := answer.primaryKey ▸ sound.planned
    reads := by
      have reads := sound.reads
      unfold Reads at reads ⊢
      cases feed : running.feed with
      | none =>
          rw [feed] at reads
          exact reads
      | some address =>
          rw [feed] at reads
          exact answer.serves stored reads
    stored := fun held =>
      have ⟨_, found⟩ := sound.stored held
      answer.tables found }

/-- What a session is told next, and the state of reading behind it. -/
inductive Next (running : Running) (board : Board) (database : Database) :
    Running → Database → Signal → Prop
  | asked (opening : running.session.phase = .opening)
      (kept : running.session.cancelled = false) :
      Next running board database { running with answer := some (database.query running.plan).2 }
        (database.query running.plan).1 .queried
  | connected (answer : Except ServiceError (List Json))
      (opening : running.session.phase = .opening) (answered : running.answer = some answer) :
      Next running board database (running.connect database answer).1
        (running.connect database answer).2.1 (running.connect database answer).2.2
  | cancelled (told : running.session.cancelled = true)
      (going : running.session.phase.isStopped = false) :
      Next running board database running database .cancelled
  | row (item : SnapshotItem) (rest : List SnapshotItem) (keys : KeySet)
      (collecting : running.session.phase = .collecting keys) (rows : running.rows = item :: rest) :
      Next running board database { running with rows := rest } database (.row item)
  | rowsEnd (keys : KeySet) (collecting : running.session.phase = .collecting keys) :
      Next running board database running database .rowsEnd
  | event (address : Nat) (item : FeedItem) (reads : running.session.phase.readsFeed = true)
      (going : running.session.phase.isStopped = false) (feed : running.feed = some address)
      (found : (database.feedRoom.read address).1 = .item item) :
      Next running board database running (database.afterRead address) (.event item)
  | feedEnd (address : Nat) (reads : running.session.phase.readsFeed = true)
      (going : running.session.phase.isStopped = false) (feed : running.feed = some address)
      (found : (database.feedRoom.read address).1 = .finish) :
      Next running board database running database .feedEnd
  | listDeleted (handle : Handle) (entries : List String)
      (following : running.session.phase = .following handle entries)
      (withdrawn : board.isWithdrawn handle = true) :
      Next running board database running database .listDeleted

variable {behind : Running} {after : Database} {signal : Signal}

/-- What a session finds at its feed comes from its feed. -/
private theorem next_of_feed (reads : running.session.phase.readsFeed = true)
    (going : running.session.phase.isStopped = false)
    (pending : (match running.findEvent database with
      | .nothing => none
      | .item item => some (Signal.event item)
      | .finish => some .feedEnd) = some signal) :
    running.Next board database (running.consume database signal).1
      (running.consume database signal).2 signal := by
  cases feed : running.feed with
  | none =>
      simp only [findEvent, feed] at pending
      exact nomatch pending
  | some address =>
      simp only [findEvent, feed] at pending
      cases found : (database.feedRoom.read address).1 with
      | nothing =>
          rw [found] at pending
          exact nomatch pending
      | item item =>
          rw [found] at pending
          obtain rfl := Option.some.inj pending
          simp only [consume, feed]
          exact .event address item reads going feed found
      | finish =>
          rw [found] at pending
          obtain rfl := Option.some.inj pending
          exact .feedEnd address reads going feed found

/-- A step begins with one of these signals. -/
theorem next_of_nextSignal
    (told : running.nextSignal board database = some (behind, after, signal)) :
    running.Next board database behind after signal := by
  have pending (told : (running.session.pendingSignal board running.rows
      (running.findEvent database)).map (fun signal =>
        ((running.consume database signal).1, (running.consume database signal).2, signal)) =
          some (behind, after, signal)) :
      running.Next board database behind after signal := by
    obtain ⟨other, pending, same⟩ := Option.map_eq_some_iff.mp told
    simp only [Prod.mk.injEq] at same
    obtain ⟨rfl, rfl, rfl⟩ := same
    unfold Session.pendingSignal at pending
    dsimp only at pending
    cases going : running.session.phase.isStopped with
    | true =>
        rw [going, if_pos rfl] at pending
        exact nomatch pending
    | false =>
        rw [going, if_neg Bool.false_ne_true] at pending
        cases cancelled : running.session.cancelled with
        | true =>
            rw [cancelled, if_pos rfl] at pending
            obtain rfl := Option.some.inj pending
            exact .cancelled cancelled going
        | false =>
            rw [cancelled, if_neg Bool.false_ne_true] at pending
            cases phase : running.session.phase with
            | opening =>
                rw [phase] at pending
                exact nomatch pending
            | stopped owned =>
                rw [phase] at going
                exact absurd going.symm Bool.false_ne_true
            | collecting keys =>
                rw [phase] at pending
                cases rows : running.rows with
                | nil =>
                    rw [rows] at pending
                    obtain rfl := Option.some.inj pending
                    exact .rowsEnd keys phase
                | cons item rest =>
                    rw [rows] at pending
                    obtain rfl := Option.some.inj pending
                    simp only [consume, rows, List.drop_succ_cons, List.drop_zero]
                    exact .row item rest keys phase rows
            | merging keys =>
                rw [phase] at pending
                exact next_of_feed (by rw [phase]; rfl) going pending
            | following handle entries =>
                rw [phase] at pending
                cases withdrawn : board.isWithdrawn handle with
                | true =>
                    simp only [withdrawn, ↓reduceIte] at pending
                    obtain rfl := Option.some.inj pending
                    exact .listDeleted handle entries phase withdrawn
                | false =>
                    simp only [withdrawn, Bool.false_eq_true, ↓reduceIte] at pending
                    exact next_of_feed (by rw [phase]; rfl) going pending
  unfold nextSignal at told
  split at told
  · rename_i answer opening answered
    have same := Option.some.inj told
    have connected : running.Next board database _ _ _ := .connected answer opening answered
    rw [same] at connected
    exact connected
  · rename_i opening _ kept
    have same := Option.some.inj told
    have asked : running.Next board database _ _ _ := .asked opening kept
    change running.Next board database (running.ask database).1 (running.ask database).2.1
      (running.ask database).2.2 at asked
    rw [same] at asked
    exact asked
  · exact pending told

section Connecting

variable (running database) in
/-- A session opens its feed, or it is refused and keeps none. -/
theorem connect_cases (answer : Except ServiceError (List Json)) :
    (∃ records address, answer = .ok records ∧
      (database.subscribe running.plan).2 = .ok address ∧
      running.connect database answer =
        ({ running with answer := none, rows := records.map .ok, feed := some address },
          (database.subscribe running.plan).1, .opened)) ∨
    (∃ cause address, (database.subscribe running.plan).2 = .ok address ∧
      running.connect database answer = ({ running with answer := none },
        (database.subscribe running.plan).1.release address, .refused cause)) ∨
    ∃ cause failure, (database.subscribe running.plan).2 = .error failure ∧
      running.connect database answer =
        ({ running with answer := none }, (database.subscribe running.plan).1, .refused cause) := by
  cases answer with
  | ok records =>
      cases feed : (database.subscribe running.plan).2 with
      | ok address =>
          refine .inl ⟨records, address, rfl, rfl, ?_⟩
          simp only [connect, feed]
      | error cause =>
          refine .inr (.inr ⟨cause, cause, rfl, ?_⟩)
          simp only [connect, feed]
  | error cause =>
      cases feed : (database.subscribe running.plan).2 with
      | ok address =>
          refine .inr (.inl ⟨cause, address, rfl, ?_⟩)
          simp only [connect, feed]
      | error other =>
          refine .inr (.inr ⟨cause, other, rfl, ?_⟩)
          simp only [connect, feed]

/-- A feed that a session opens is new and serves it, whatever it has read before. -/
theorem fresh_of_subscribed (sound : running.IsSound board database) {address : Nat}
    (granted : (database.subscribe running.plan).2 = .ok address) (gathered : KeySet) :
    database.feedRoom.next ≤ address ∧
      (database.subscribe running.plan).1.Serves address running.plan (.collecting gathered) ∧
      ∀ box, (database.subscribe running.plan).1.feedRoom.boxes[address]? = some box →
        box.ended = false := by
  obtain ⟨same, serves, lasting⟩ := Database.subscribe_serves granted sound.plucks gathered
  exact ⟨same ▸ Nat.le_refl _, serves, lasting⟩

end Connecting

/-- Reading does not change the session itself. -/
theorem Next.session {between : Database}
    (next : running.Next board database behind between signal) :
    behind.session = running.session := by
  cases next with
  | connected answer opening answered =>
      rcases running.connect_cases database answer with
        ⟨records, address, _, _, opened⟩ | ⟨cause, address, _, refused⟩ | ⟨cause, _, _, refused⟩
      · rw [opened]
      · rw [refused]
      · rw [refused]
  | _ => rfl

/-- A session that has ended is told nothing. -/
theorem Next.going {between : Database}
    (next : running.Next board database behind between signal) :
    running.session.phase.isStopped = false := by
  cases next with
  | asked opening kept =>
      rw [opening]
      rfl
  | connected answer opening answered =>
      rw [opening]
      rfl
  | cancelled told going => exact going
  | row item rest keys collecting rows =>
      rw [collecting]
      rfl
  | rowsEnd keys collecting =>
      rw [collecting]
      rfl
  | event address item reads going feed found => exact going
  | feedEnd address reads going feed found => exact going
  | listDeleted handle entries following withdrawn =>
      rw [following]
      rfl

/-- What a step makes of a session and of what it shares with others. -/
structure Passes (before : Running) (board : Board) (database : Database) (after : Running)
    (later : Board) (final : Database) : Prop where
  sound : after.IsSound later final
  writes : board.WritesOnly before.session.name later
  stored : final.IsSound
  spares : Database.Spares before.feed database final
  name : after.session.name = before.session.name
  cancelled : after.session.cancelled = before.session.cancelled
  closed : after.session.closed = before.session.closed
  plan : after.plan = before.plan
  feed : ∀ address, after.feed = some address →
    before.feed = some address ∨ database.feedRoom.next ≤ address

section Telling

variable (running board database signal)

/-- The session when it has been told a signal; if it has ended it gives up what it was reading. -/
def tell : Running × Database :=
  if (running.session.receive board signal).1.phase.isStopped then
    { running with session := (running.session.receive board signal).1 }.release database
  else ({ running with session := (running.session.receive board signal).1 }, database)

variable {running board database signal}

theorem tell_of_running (going : (running.session.receive board signal).1.phase.isStopped = false) :
    running.tell board database signal =
      ({ running with session := (running.session.receive board signal).1 }, database) := by
  rw [tell, going, if_neg Bool.false_ne_true]

theorem tell_of_stopped
    (stopped : (running.session.receive board signal).1.phase.isStopped = true) :
    running.tell board database signal =
      (⟨(running.session.receive board signal).1, running.plan, running.answer, [], none⟩,
        (running.feed.map database.release).getD database) := by
  rw [tell, stopped, if_pos rfl]
  obtain ⟨session, plan, answer, rows, feed⟩ := running
  cases feed <;> rfl

theorem session_tell : (running.tell board database signal).1.session =
    (running.session.receive board signal).1 := by
  cases going : (running.session.receive board signal).1.phase.isStopped with
  | true => rw [tell_of_stopped going]
  | false => rw [tell_of_running going]

/-- What a session is when it has been told its next signal. -/
theorem Next.session_tell {between : Database}
    (next : running.Next board database behind between signal) :
    (behind.tell board between signal).1.session = (running.session.receive board signal).1 := by
  rw [Running.session_tell, next.session]

end Telling

section Stepping

variable {between : Database}

/-- Reading changes nothing but what is read. -/
private theorem Next.keeps (next : running.Next board database behind between signal)
    (sound : running.IsSound board database) (stored : database.IsSound) :
    behind.session = running.session ∧ behind.plan = running.plan ∧
      (∀ item ∈ behind.rows, ∃ record, item = .ok record) ∧ between.IsSound ∧
      Database.Spares running.feed database between ∧
      ∀ address, behind.feed = some address →
        running.feed = some address ∨ database.feedRoom.next ≤ address := by
  cases next with
  | asked opening kept =>
      exact ⟨rfl, rfl, sound.rows, Database.query_isSound stored,
        (Database.query_spares running.plan).others, fun _ => .inl⟩
  | connected answer opening answered =>
      have shared : (database.subscribe running.plan).1.IsSound :=
        Database.subscribe_isSound stored
      have spares : Database.Spares none database _ := Database.subscribe_spares running.plan
      rcases running.connect_cases database answer with
        ⟨records, address, _, granted, opened⟩ | ⟨cause, address, granted, refused⟩ |
          ⟨cause, _, _, refused⟩
      · rw [opened]
        refine ⟨rfl, rfl, fun item member => ?_, shared, spares.others, fun other same => ?_⟩
        · obtain ⟨record, _, rfl⟩ := List.mem_map.mp member
          exact ⟨record, rfl⟩
        · obtain ⟨fresh, _⟩ := fresh_of_subscribed sound granted .empty
          exact .inr (Option.some.inj same ▸ fresh)
      · rw [refused]
        refine ⟨rfl, rfl, sound.rows, Database.release_isSound address shared, ?_, fun _ => .inl⟩
        obtain ⟨fresh, _⟩ := fresh_of_subscribed sound granted .empty
        exact spares.others.release fun other known _ =>
          Nat.ne_of_gt (Nat.lt_of_lt_of_le known fresh)
      · rw [refused]
        exact ⟨rfl, rfl, sound.rows, shared, spares.others, fun _ => .inl⟩
  | row item rest keys collecting rows =>
      refine ⟨rfl, rfl, fun other member => ?_, stored, .refl _ _, fun _ => .inl⟩
      exact sound.rows other (rows ▸ List.mem_cons_of_mem _ member)
  | event address item reads going feed found =>
      refine ⟨rfl, rfl, sound.rows, Database.afterRead_isSound address stored, ?_, fun _ => .inl⟩
      rw [feed]
      exact Database.afterRead_spares address
  | _ => exact ⟨rfl, rfl, sound.rows, stored, .refl _ _, fun _ => .inl⟩

/-- A session that reads a feed is served by it. -/
theorem IsSound.serves (sound : running.IsSound board database)
    (opened : running.session.phase ≠ .opening) (going : running.session.phase.isStopped = false) :
    ∃ address, running.feed = some address ∧
      database.Serves address running.plan running.session.phase := by
  have reads := sound.reads
  unfold Reads at reads
  cases feed : running.feed with
  | none =>
      rw [feed] at reads
      rcases reads with opening | stopped
      · exact absurd opening opened
      · exact absurd (going.symm.trans stopped) Bool.false_ne_true
  | some address =>
      rw [feed] at reads
      exact ⟨address, rfl, reads⟩

/-- A session that goes on is served by its feed. -/
private theorem Next.reads (next : running.Next board database behind between signal)
    (sound : running.IsSound board database)
    (going : (running.session.receive board signal).1.phase.isStopped = false) :
    Reads { behind with session := (running.session.receive board signal).1 } between := by
  have stays {address : Nat} (feed : running.feed = some address)
      (serves : between.Serves address running.plan
        (running.session.receive board signal).1.phase) :
      Reads { running with session := (running.session.receive board signal).1 } between := by
    unfold Reads
    simp only [feed]
    exact serves
  cases next with
  | asked opening kept =>
      have reads := sound.reads
      have same : (running.session.receive board .queried).1 = running.session := by
        simp only [Session.receive, opening]
      unfold Reads at reads ⊢
      rw [same]
      cases feed : running.feed with
      | none => exact .inl opening
      | some address =>
          rw [feed] at reads
          exact reads.frame (database.query_keepsFeed running.plan address)
  | connected answer opening answered =>
      rcases running.connect_cases database answer with
        ⟨records, address, _, granted, opened⟩ | ⟨cause, address, granted, refused⟩ |
          ⟨cause, _, _, refused⟩
      · rw [opened]
        obtain ⟨_, serves, _⟩ := fresh_of_subscribed sound granted .empty
        simp only [Reads, Session.receive, opening, Session.goOn]
        exact serves
      · rw [refused] at going
        simp only [Session.receive, opening] at going
        exact absurd going.symm Bool.false_ne_true
      · rw [refused] at going
        simp only [Session.receive, opening] at going
        exact absurd going.symm Bool.false_ne_true
  | cancelled told awake =>
      exact absurd (going.symm.trans (running.session.isStopped_cancelled board)) Bool.false_ne_true
  | row item rest keys collecting rows =>
      obtain ⟨record, rfl⟩ := sound.rows item (rows ▸ List.mem_cons_self)
      obtain ⟨address, feed, serves⟩ := sound.serves
        (fun opening => by cases collecting.symm.trans opening) (by rw [collecting]; rfl)
      refine stays feed (serves.imp fun events keys absorbs => ?_)
      rw [← sound.keyed] at absorbs ⊢
      exact Session.absorbsTo_row collecting absorbs record
  | rowsEnd keys collecting =>
      obtain ⟨address, feed, serves⟩ := sound.serves
        (fun opening => by cases collecting.symm.trans opening) (by rw [collecting]; rfl)
      refine stays feed (serves.imp fun events keys absorbs => ?_)
      rw [← sound.keyed] at absorbs ⊢
      exact Session.absorbsTo_rowsEnd collecting absorbs
  | event address item reads awake feed found =>
      obtain ⟨other, same, serves⟩ := sound.serves (Phase.ne_opening_of_readsFeed reads) awake
      obtain rfl := Option.some.inj (feed.symm.trans same)
      refine stays feed (serves.afterRead found fun event events keys same absorbs => ?_)
      subst same
      rw [← sound.keyed] at absorbs ⊢
      rcases Session.absorbsTo_event sound.fits reads absorbs with stopped | onward
      · exact absurd (going.symm.trans stopped) Bool.false_ne_true
      · exact onward
  | feedEnd address reads awake feed found =>
      rcases Phase.cases_of_readsFeed reads awake with ⟨keys, phase⟩ | ⟨handle, entries, phase⟩
      · simp only [Session.receive, phase, Session.receiveMerging] at going
        exact absurd going.symm Bool.false_ne_true
      · simp only [Session.receive, phase, Session.receiveFollowing] at going
        exact absurd going.symm Bool.false_ne_true
  | listDeleted handle entries following withdrawn =>
      simp only [Session.receive, following, Session.receiveFollowing] at going
      exact absurd going.symm Bool.false_ne_true

/-- A list is published by a session that reads its feed. -/
private theorem IsSound.stores (sound : running.IsSound board database)
    (held : (running.session.receive board signal).1.phase.handle?.isSome = true) :
    ∃ table, database.tables[running.plan.table]? = some table := by
  cases before : running.session.phase.handle? with
  | some handle => exact sound.stored (by rw [before]; rfl)
  | none =>
      -- Only the publication of a list brings a handle.
      have outcome := running.session.receive_outcome board signal
      have early (handle : Handle) (entries : List String)
          (following : running.session.phase = .following handle entries) : False := by
        rw [following] at before
        exact nomatch before
      have merging : ∃ keys, running.session.phase = .merging keys := by
        generalize (running.session.receive board signal).1 = session at outcome held
        generalize (running.session.receive board signal).2 = written at outcome
        cases outcome with
        | unchanged =>
            rw [before] at held
            exact absurd held Bool.false_ne_true
        | gathered phase _ still _ _ =>
            have none : phase.handle?.isSome = true := held
            rw [Phase.handle?_of_isEarly still] at none
            exact absurd none Bool.false_ne_true
        | abandoned state _ => exact absurd held Bool.false_ne_true
        | published keys merging => exact ⟨keys, merging⟩
        | listed handle entries record following => exact (early handle entries following).elim
        | unlisted handle entries record following => exact (early handle entries following).elim
        | left handle entries state following => exact (early handle entries following).elim
        | detached handle entries following => exact absurd held Bool.false_ne_true
      obtain ⟨keys, merging⟩ := merging
      obtain ⟨_, _, table, _, found, _⟩ := sound.serves (by rw [merging]; exact nofun)
        (by rw [merging]; rfl)
      exact ⟨table, found⟩

/-- A session that gives its list up has heard that the list has been deleted. -/
theorem Next.withdrawn_of_stopped {between : Database}
    (next : running.Next board database behind between signal) {handle : Handle}
    {entries : List String} (following : running.session.phase = .following handle entries)
    (settled : handle.pending = false)
    (stopped : (running.session.receive board signal).1.phase = .stopped none) :
    board.isWithdrawn handle = true := by
  have told := Session.listDeleted_of_stopped following settled stopped
  cases next with
  | connected answer opening _ => cases following.symm.trans opening
  | listDeleted other others follows withdrawn =>
      obtain ⟨rfl, _⟩ := Phase.following.inj (following.symm.trans follows)
      exact withdrawn
  | _ => cases told

/-- A session that tends its list does so when it has been told a signal. -/
theorem Next.tends (next : running.Next board database behind between signal)
    (ordered : board.IsSound) (tends : running.session.Tends board) :
    (running.session.receive board signal).1.Tends (running.session.receive board signal).2 := by
  have outcome := running.session.receive_outcome board signal
  obtain ⟨_, _, _, closed⟩ := outcome.keeps
  refine ⟨outcome.fits ordered tends.fits, fun unclosed => ?_, fun shut => ?_⟩
  · refine outcome.owns ordered tends.fits (tends.owns (closed.symm.trans unclosed)) ?_
    exact fun handle entries following =>
      next.withdrawn_of_stopped following (tends.fits.settled handle entries following)
  · have before := tends.closed (closed.symm.trans shut)
    rw [(outcome.of_stopped before).1]
    exact before

/-- A session that has been told a signal passes if it can read on in the store behind the step. -/
private theorem Next.passes_of_reads (next : running.Next board database behind between signal)
    (sound : running.IsSound board database) (ordered : board.IsSound) {after : Running}
    {final : Database} (session : after.session = (running.session.receive board signal).1)
    (plan : after.plan = running.plan) (rows : ∀ item ∈ after.rows, ∃ record, item = .ok record)
    (reads : after.Reads final) (stored : final.IsSound)
    (spares : Database.Spares running.feed database final)
    (feed : ∀ address, after.feed = some address →
      running.feed = some address ∨ database.feedRoom.next ≤ address) :
    running.Passes board database after (running.session.receive board signal).2 final := by
  obtain ⟨_, _, left, feed⟩ := after
  obtain rfl := session
  obtain rfl := plan
  have outcome := running.session.receive_outcome board signal
  obtain ⟨name, primaryKey, cancelled, closed⟩ := outcome.keeps
  have tends := next.tends ordered sound.tends
  exact {
    sound := {
      fits := tends.fits
      owns := tends.owns
      closed := tends.closed
      keyed := primaryKey.trans (sound.keyed.trans spares.primaryKey.symm)
      planned := by
        rw [spares.primaryKey]
        change ∃ descriptor, Descriptor.ofName
          (running.session.receive board signal).1.name = _ ∧ running.plan = _
        rw [name]
        exact sound.planned
      rows := rows
      reads := reads
      stored := by
        intro held
        obtain ⟨table, found⟩ := sound.stores held
        obtain ⟨others, still⟩ := spares.tables _ table found
        exact ⟨_, still⟩ }
    writes := outcome.writesOnly sound.fits
    stored := stored
    spares := spares
    name := name
    cancelled := cancelled
    closed := closed
    plan := rfl
    feed := feed }

/-- A step keeps a session sound and concerns no other. -/
theorem Next.passes (next : running.Next board database behind between signal)
    (sound : running.IsSound board database) (ordered : board.IsSound) (stored : database.IsSound) :
    running.Passes board database (behind.tell board between signal).1
      (running.session.receive board signal).2 (behind.tell board between signal).2 := by
  obtain ⟨session, plan, rows, readable, spares, feeds⟩ := next.keeps sound stored
  cases going : (running.session.receive board signal).1.phase.isStopped with
  | false =>
      have reads := next.reads sound going
      rw [← session] at going
      rw [tell_of_running going, session]
      exact next.passes_of_reads sound ordered rfl plan rows reads readable spares feeds
  | true =>
      have stopped := going
      rw [← session] at going
      rw [tell_of_stopped going, session]
      have shared : Database.Spares running.feed database
          ((behind.feed.map between.release).getD between) := by
        cases feed : behind.feed with
        | none => exact spares
        | some address =>
            refine spares.release fun other known different same => ?_
            rcases feeds address feed with own | fresh
            · exact different (same ▸ own)
            · exact Nat.not_lt.mpr fresh (same ▸ known)
      have released : ((behind.feed.map between.release).getD between).IsSound := by
        cases behind.feed with
        | none => exact readable
        | some address => exact Database.release_isSound address readable
      refine next.passes_of_reads sound ordered rfl plan ?_ (.inr stopped) released shared ?_
      · intro item member
        exact absurd member List.not_mem_nil
      · intro address none
        cases none

end Stepping

end Running

end LiveSearch
