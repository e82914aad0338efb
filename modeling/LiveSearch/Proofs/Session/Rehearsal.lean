import LiveSearch.Proofs.Session.Events
import LiveSearch.Session.Rehearsal

/-! # What a rehearsal comes to

A step of a rehearsal tells the session one signal and lets it act on its board
(`LiveSearch.Rehearsal.step_eq`). While the sources work, the signals that the session is still
going to be told are known (`LiveSearch.Rehearsal.script`), and so is what they will make of it
(`LiveSearch.Rehearsal.outcome`): a step does not change it, and an item that is put on the
changefeed comes last. So whenever the items arrive, a session that can only wait has become what
the whole script makes of it (`LiveSearch.Rehearsal.Runs.settled`), and every session comes to that
point (`LiveSearch.Rehearsal.settle_waits`).
-/

namespace LiveSearch

namespace Session

/-- Tell a session on its board a signal. -/
def tell (state : Session × Board) (signal : Signal) : Session × Board :=
  state.1.receive state.2 signal

/-- A worker that has ended does not listen. -/
theorem tell_stopped {session : Session} (board : Board) (stopped : session.phase.isStopped = true)
    (signals : List Signal) : signals.foldl tell (session, board) = (session, board) := by
  induction signals with
  | nil => rfl
  | cons signal rest ih => rw [List.foldl_cons, tell, receive_of_stopped board stopped, ih]

/-- A session that fits a sound board on which writes succeed, and whose list has not been
deleted. -/
structure IsCalm (session : Session) (board : Board) : Prop where
  fits : session.Fits board
  sound : board.IsSound
  working : board.failure = none
  standing : ∀ handle entries, session.phase = .following handle entries →
    board.isWithdrawn handle = false

namespace IsCalm

variable {session : Session} {board : Board}

/-- No signal disturbs the calm. -/
theorem receive (calm : session.IsCalm board) (signal : Signal) :
    (session.receive board signal).1.IsCalm (session.receive board signal).2 := by
  have outcome := session.receive_outcome board signal
  have written := outcome.writesOnly calm.fits
  refine ⟨outcome.fits calm.sound calm.fits, outcome.isSound calm.sound calm.fits,
    written.failure.trans calm.working, ?_⟩
  intro handle entries following
  rw [written.isWithdrawn]
  rcases outcome.following_cases calm.fits following with ⟨others, before⟩ | ⟨keys, _, same, final⟩
  · exact calm.standing handle others before
  · obtain ⟨owned, published, standing⟩ := session.publish_ready calm.sound calm.working keys
    rw [same, published] at following
    obtain ⟨rfl, _⟩ := Phase.following.inj following
    rw [← written.isWithdrawn, final]
    exact standing

/-- The list of a session that follows it holds the entries. -/
theorem entries (calm : session.IsCalm board) {handle : Handle} {entries : List String}
    (following : session.phase = .following handle entries) :
    board.entries? session.name = some entries ∧ entries.Nodup := by
  obtain ⟨_, nodup, listed⟩ := calm.fits.mirrored handle entries following
  refine ⟨?_, nodup⟩
  rcases listed with withdrawn | found
  · exact absurd ((calm.standing handle entries following).symm.trans withdrawn)
      Bool.false_ne_true
  · rw [Board.entries?, found, Option.map_some]

end IsCalm

end Session

namespace Rehearsal

variable {rehearsal behind next : Rehearsal}

/-- The rows that the query answers. -/
def answered (rehearsal : Rehearsal) : List SnapshotItem :=
  match rehearsal.answer with
  | .ok rows => rows
  | .error _ => []

/-- The signals that the session is still going to be told if its sources work. -/
def script (rehearsal : Rehearsal) : List Signal :=
  match rehearsal.session.phase with
  | .opening => .opened :: (rehearsal.answered.map .row ++
      .rowsEnd :: rehearsal.feed.items.map .event)
  | .collecting _ => rehearsal.rows.map .row ++ .rowsEnd :: rehearsal.feed.items.map .event
  | _ => rehearsal.feed.items.map .event

/-- What the script will make of the session and its board. -/
def outcome (rehearsal : Rehearsal) : Session × Board :=
  rehearsal.script.foldl Session.tell (rehearsal.session, rehearsal.board)

/-- The sources work, and nobody touches the list or cancels the session. -/
structure IsUndisturbed (rehearsal : Rehearsal) : Prop where
  calm : rehearsal.session.IsCalm rehearsal.board
  kept : rehearsal.session.cancelled = false
  answers : rehearsal.answer = .ok rehearsal.answered
  opens : rehearsal.refusal = none
  lasting : rehearsal.feed.ended = false
  released : rehearsal.released = true → rehearsal.session.phase.isStopped = true

/-- Reading a signal changes neither the session nor the board, and reports nothing. -/
theorem nextSignal_keeps {signal : Signal}
    (told : rehearsal.nextSignal = some (behind, signal)) :
    behind.session = rehearsal.session ∧ behind.board = rehearsal.board ∧
      behind.reports = rehearsal.reports := by
  unfold nextSignal at told
  split at told
  · have same : rehearsal.connect = (behind, signal) := Option.some.inj told
    unfold connect at same
    split at same
    all_goals
      obtain ⟨rfl, _⟩ := Prod.mk.inj same
      exact ⟨rfl, rfl, rfl⟩
  · obtain ⟨pending, _, same⟩ := Option.map_eq_some_iff.mp told
    obtain ⟨rfl, _⟩ := Prod.mk.inj same
    unfold consume
    split <;> exact ⟨rfl, rfl, rfl⟩

/-- A step tells the session its next signal. -/
theorem step_eq (stepped : rehearsal.step? = some next) : ∃ behind signal,
    rehearsal.nextSignal = some (behind, signal) ∧ next = behind.deliver signal ∧
      (next.session, next.board) =
        Session.tell (rehearsal.session, rehearsal.board) signal := by
  obtain ⟨⟨behind, signal⟩, told, same⟩ := Option.map_eq_some_iff.mp stepped
  obtain ⟨session, board, _⟩ := nextSignal_keeps told
  refine ⟨behind, signal, told, same.symm, ?_⟩
  rw [← same, ← session, ← board]
  rfl

namespace IsUndisturbed

/-- The session has been told a signal, and what it read has been consumed. -/
private theorem deliver (undisturbed : rehearsal.IsUndisturbed) {signal : Signal}
    (session : behind.session = rehearsal.session) (board : behind.board = rehearsal.board)
    (answer : behind.answer = rehearsal.answer) (refusal : behind.refusal = rehearsal.refusal)
    (ended : behind.feed.ended = rehearsal.feed.ended)
    (released : behind.released = rehearsal.released) :
    (behind.deliver signal).IsUndisturbed := by
  have outcome := rehearsal.session.receive_outcome rehearsal.board signal
  have same : (behind.deliver signal).answered = rehearsal.answered := by
    have kept : (behind.deliver signal).answer = rehearsal.answer := answer
    rw [answered, kept, answered]
  refine ⟨?_, ?_, ?_, refusal.trans undisturbed.opens, ended.trans undisturbed.lasting, ?_⟩
  · change (behind.session.receive behind.board signal).1.IsCalm
      (behind.session.receive behind.board signal).2
    rw [session, board]
    exact undisturbed.calm.receive signal
  · change (behind.session.receive behind.board signal).1.cancelled = false
    rw [session, board]
    exact outcome.keeps.2.2.1.trans undisturbed.kept
  · rw [same]
    exact answer.trans undisturbed.answers
  · change (behind.released || (behind.session.receive behind.board signal).1.phase.isStopped &&
      behind.opened) = true → (behind.session.receive behind.board signal).1.phase.isStopped = true
    rw [session, board, released, Bool.or_eq_true, Bool.and_eq_true]
    rintro (earlier | ⟨now, _⟩)
    · have stopped := undisturbed.released earlier
      have kept := Session.tell_stopped rehearsal.board stopped [signal]
      have same : rehearsal.session.receive rehearsal.board signal =
        (rehearsal.session, rehearsal.board) := kept
      rw [same]
      exact stopped
    · exact now

/-- A worker that reads its changefeed waits for the next item. -/
private theorem nextSignal_of_reads (undisturbed : rehearsal.IsUndisturbed)
    (reads : rehearsal.session.phase.readsFeed = true)
    (running : rehearsal.session.phase.isStopped = false) :
    rehearsal.nextSignal = match rehearsal.feed.items with
      | [] => none
      | item :: rest => some ({ rehearsal with feed := ⟨rest, false⟩ }, .event item) := by
  have kept := undisturbed.kept
  have lasting := undisturbed.lasting
  have pending : rehearsal.session.pendingSignal rehearsal.board rehearsal.rows
      rehearsal.feed.read.1 = match rehearsal.feed.items with
        | [] => none
        | item :: _ => some (.event item) := by
    rcases Phase.cases_of_readsFeed reads running with
      ⟨keys, phase⟩ | ⟨handle, entries, phase⟩
    · cases items : rehearsal.feed.items <;>
        simp only [Session.pendingSignal, phase, kept, Phase.isStopped, Box.read, items, lasting,
          Bool.false_eq_true, ↓reduceIte]
    · have standing := undisturbed.calm.standing handle entries phase
      cases items : rehearsal.feed.items <;>
        simp only [Session.pendingSignal, phase, kept, Phase.isStopped, Box.read, items, lasting,
          standing, Bool.false_eq_true, ↓reduceIte]
  have waits : rehearsal.nextSignal = (rehearsal.session.pendingSignal rehearsal.board
      rehearsal.rows rehearsal.feed.read.1).map
        fun signal => (rehearsal.consume signal, signal) := by
    unfold nextSignal
    split
    · rename_i phase _
      exact absurd phase (Phase.ne_opening_of_readsFeed reads)
    · rfl
  rw [waits, pending]
  cases items : rehearsal.feed.items with
  | nil => rfl
  | cons item rest =>
      simp only [Option.map_some, consume, Box.read, items, lasting]

/-- The script of a worker that reads its changefeed. -/
private theorem script_of_reads {rehearsal : Rehearsal}
    (reads : rehearsal.session.phase.readsFeed = true) :
    rehearsal.script = rehearsal.feed.items.map .event := by
  unfold script
  split
  · rename_i phase
    rw [phase] at reads
    exact absurd reads Bool.false_ne_true
  · rename_i phase
    rw [phase] at reads
    exact absurd reads Bool.false_ne_true
  · rfl

/-- Reading an item of the changefeed takes it off the script. -/
private theorem read_step (undisturbed : rehearsal.IsUndisturbed)
    (reads : rehearsal.session.phase.readsFeed = true)
    (running : rehearsal.session.phase.isStopped = false) {signal : Signal}
    (told : rehearsal.nextSignal = some (behind, signal)) :
    (behind.deliver signal).IsUndisturbed ∧
      rehearsal.script = signal :: (behind.deliver signal).script := by
  have next := undisturbed.nextSignal_of_reads reads running
  cases items : rehearsal.feed.items with
  | nil =>
      rw [items] at next
      exact nomatch next.symm.trans told
  | cons item rest =>
      rw [items] at next
      obtain ⟨rfl, rfl⟩ := Prod.mk.inj (Option.some.inj (next.symm.trans told))
      have still :=
        (rehearsal.session.receive_outcome rehearsal.board (.event item)).readsFeed reads
      refine ⟨undisturbed.deliver rfl rfl rfl rfl undisturbed.lasting.symm rfl, ?_⟩
      rw [script_of_reads reads, script_of_reads still, items]
      rfl

/-- A step takes the first signal off the script. -/
theorem step (undisturbed : rehearsal.IsUndisturbed) (stepped : rehearsal.step? = some next) :
    next.IsUndisturbed ∧ ∃ signal rest, rehearsal.script = signal :: rest ∧
      (next.session, next.board) = Session.tell (rehearsal.session, rehearsal.board) signal ∧
      (next.script = rest ∨ next.session.phase.isStopped = true) := by
  obtain ⟨behind, signal, told, rfl, same⟩ := step_eq stepped
  have kept := undisturbed.kept
  cases phase : rehearsal.session.phase with
  | opening =>
      have connected : rehearsal.nextSignal =
          some ({ rehearsal with opened := true, rows := rehearsal.answered }, .opened) := by
        simp only [nextSignal, phase, kept, connect, undisturbed.opens]
        rw [undisturbed.answers]
        rfl
      obtain ⟨rfl, rfl⟩ := Prod.mk.inj (Option.some.inj (connected.symm.trans told))
      have after : (rehearsal.session.receive rehearsal.board .opened).1.phase =
          .collecting .empty := by
        simp only [Session.receive, phase, Session.goOn]
      refine ⟨undisturbed.deliver rfl rfl rfl rfl rfl rfl, .opened, rehearsal.answered.map .row ++
        .rowsEnd :: rehearsal.feed.items.map .event, ?_, same, .inl ?_⟩
      · simp only [script, phase]
      · simp only [script, Rehearsal.deliver, after]
  | collecting keys =>
      cases rows : rehearsal.rows with
      | nil =>
          have told' : rehearsal.nextSignal = some (rehearsal, .rowsEnd) := by
            simp only [nextSignal, Session.pendingSignal, phase, kept, rows, Phase.isStopped,
              consume, Bool.false_eq_true, ↓reduceIte, Option.map_some]
          obtain ⟨rfl, rfl⟩ := Prod.mk.inj (Option.some.inj (told'.symm.trans told))
          have after : (rehearsal.session.receive rehearsal.board .rowsEnd).1.phase =
              .merging keys := by
            simp only [Session.receive, phase, Session.goOn]
          refine ⟨undisturbed.deliver rfl rfl rfl rfl rfl rfl, .rowsEnd,
            rehearsal.feed.items.map .event, ?_, same, .inl ?_⟩
          · simp only [script, phase, rows, List.map_nil, List.nil_append]
          · simp only [script, Rehearsal.deliver, after]
      | cons item rest =>
          have told' : rehearsal.nextSignal = some ({ rehearsal with rows := rest },
              .row item) := by
            simp only [nextSignal, Session.pendingSignal, phase, kept, rows, Phase.isStopped,
              consume, Bool.false_eq_true, ↓reduceIte, Option.map_some, List.drop_succ_cons,
              List.drop_zero]
          obtain ⟨rfl, rfl⟩ := Prod.mk.inj (Option.some.inj (told'.symm.trans told))
          refine ⟨undisturbed.deliver rfl rfl rfl rfl rfl rfl, .row item, rest.map .row ++
            .rowsEnd :: rehearsal.feed.items.map .event, ?_, same, ?_⟩
          · simp only [script, phase, rows, List.map_cons, List.cons_append]
          · cases item with
            | ok record =>
                have after :
                    (rehearsal.session.receive rehearsal.board (.row (.ok record))).1.phase =
                      .collecting (rehearsal.session.addKey keys record) := by
                  simp only [Session.receive, phase, Session.goOn]
                left
                simp only [script, Rehearsal.deliver, after]
            | error cause =>
                have after : (rehearsal.session.receive rehearsal.board
                    (.row (.error cause))).1.phase = .stopped none := by
                  simp only [Session.receive, phase, Session.failInitially, Session.fail]
                right
                simp only [Rehearsal.deliver, after, Phase.isStopped]
  | merging keys =>
      obtain ⟨after, script⟩ := undisturbed.read_step (by rw [phase]; rfl) (by rw [phase]; rfl) told
      exact ⟨after, signal, _, script, same, .inl rfl⟩
  | following handle entries =>
      obtain ⟨after, script⟩ := undisturbed.read_step (by rw [phase]; rfl) (by rw [phase]; rfl) told
      exact ⟨after, signal, _, script, same, .inl rfl⟩
  | stopped owned =>
      simp only [nextSignal, Session.pendingSignal, phase, Phase.isStopped, ↓reduceIte,
        Option.map_none, reduceCtorEq] at told

/-- A step does not change the outcome. -/
theorem step_outcome (undisturbed : rehearsal.IsUndisturbed)
    (stepped : rehearsal.step? = some next) : next.outcome = rehearsal.outcome := by
  obtain ⟨_, signal, rest, script, told, after⟩ := undisturbed.step stepped
  rw [outcome, outcome, script, List.foldl_cons, ← told]
  rcases after with same | stopped
  · rw [same]
  · rw [Session.tell_stopped _ stopped, Session.tell_stopped _ stopped]

/-- An item that is put on the changefeed is told last. -/
theorem push (undisturbed : rehearsal.IsUndisturbed) (item : FeedItem) :
    (rehearsal.push item).1.IsUndisturbed ∧
      (rehearsal.push item).1.outcome = Session.tell rehearsal.outcome (.event item) := by
  cases released : rehearsal.released with
  | true =>
      have stopped := undisturbed.released released
      have unsent : (rehearsal.push item).1 = rehearsal := by
        simp only [Rehearsal.push, released, Bool.true_or, ↓reduceIte]
      have unheard := Session.tell_stopped rehearsal.board stopped [.event item]
      rw [unsent, outcome, Session.tell_stopped _ stopped]
      exact ⟨undisturbed, unheard.symm⟩
  | false =>
      have sent : (rehearsal.push item).1 =
          { rehearsal with
            feed := { rehearsal.feed with items := rehearsal.feed.items ++ [item] } } := by
        simp only [Rehearsal.push, released, undisturbed.lasting, Bool.or_self, Bool.false_eq_true,
          ↓reduceIte]
      have script : (rehearsal.push item).1.script = rehearsal.script ++ [.event item] := by
        rw [sent]
        cases phase : rehearsal.session.phase <;>
          simp only [Rehearsal.script, Rehearsal.answered, phase, List.map_append, List.map_cons,
            List.map_nil, List.append_assoc, List.cons_append]
      refine ⟨?_, ?_⟩
      · rw [sent]
        exact ⟨undisturbed.calm, undisturbed.kept, undisturbed.answers, undisturbed.opens,
          undisturbed.lasting, undisturbed.released⟩
      · rw [outcome, script, List.foldl_append, sent]
        rfl

/-- A session that can only wait has become what its script makes of it. -/
theorem outcome_of_waiting (undisturbed : rehearsal.IsUndisturbed)
    (waits : rehearsal.step? = none) :
    rehearsal.outcome = (rehearsal.session, rehearsal.board) := by
  have kept := undisturbed.kept
  have untold : rehearsal.nextSignal = none := Option.map_eq_none_iff.mp waits
  cases running : rehearsal.session.phase.isStopped with
  | true => exact Session.tell_stopped _ running _
  | false =>
      cases reads : rehearsal.session.phase.readsFeed with
      | true =>
          have next := undisturbed.nextSignal_of_reads reads running
          cases items : rehearsal.feed.items with
          | nil =>
              rw [outcome, script_of_reads reads, items]
              rfl
          | cons item rest =>
              rw [items] at next
              exact nomatch next.symm.trans untold
      | false =>
          exfalso
          cases phase : rehearsal.session.phase with
          | opening =>
              simp only [nextSignal, phase, kept, reduceCtorEq] at untold
          | collecting keys =>
              cases rows : rehearsal.rows <;>
                simp only [nextSignal, Session.pendingSignal, phase, kept, rows, Phase.isStopped,
                  Bool.false_eq_true, ↓reduceIte, Option.map_some, reduceCtorEq] at untold
          | _ =>
              rw [phase] at reads
              exact absurd reads.symm Bool.false_ne_true

end IsUndisturbed

/-- Some steps of a rehearsal, while items are put on the changefeed. -/
inductive Runs (first : Rehearsal) : List FeedItem → Rehearsal → Prop
  | start : Runs first [] first
  | step {items : List FeedItem} {rehearsal next : Rehearsal} (earlier : Runs first items rehearsal)
      (stepped : rehearsal.step? = some next) : Runs first items next
  | push {items : List FeedItem} {rehearsal : Rehearsal} (earlier : Runs first items rehearsal)
      (item : FeedItem) : Runs first (items ++ [item]) (rehearsal.push item).1

/-- The outcome of a rehearsal depends on what is put on the changefeed, not on when. -/
theorem Runs.outcome {first : Rehearsal} {items : List FeedItem} (undisturbed : first.IsUndisturbed)
    (runs : first.Runs items rehearsal) :
    rehearsal.IsUndisturbed ∧
      rehearsal.outcome = (items.map .event).foldl Session.tell first.outcome := by
  induction runs with
  | start => exact ⟨undisturbed, rfl⟩
  | step earlier stepped ih =>
      exact ⟨(ih.1.step stepped).1, (ih.1.step_outcome stepped).trans ih.2⟩
  | push earlier item ih =>
      refine ⟨(ih.1.push item).1, ?_⟩
      rw [(ih.1.push item).2, ih.2, List.map_append, List.foldl_append]
      rfl

/-- A session that can only wait has become what everything on the changefeed makes of it. -/
theorem Runs.settled {first : Rehearsal} {items : List FeedItem} (undisturbed : first.IsUndisturbed)
    (runs : first.Runs items rehearsal) (waits : rehearsal.step? = none) :
    (rehearsal.session, rehearsal.board) =
      (items.map .event).foldl Session.tell first.outcome := by
  obtain ⟨still, outcome⟩ := runs.outcome undisturbed
  exact (still.outcome_of_waiting waits).symm.trans outcome

/-- A worker that has ended takes no step. -/
theorem step_of_stopped (stopped : rehearsal.session.phase.isStopped = true) :
    rehearsal.step? = none := by
  cases phase : rehearsal.session.phase with
  | stopped owned =>
      simp only [step?, nextSignal, Session.pendingSignal, phase, Phase.isStopped, ↓reduceIte,
        Option.map_none]
  | _ =>
      rw [phase] at stopped
      exact absurd stopped Bool.false_ne_true

/-- The next step of a worker that has been cancelled is its end. -/
theorem step_of_cancelled (cancelled : rehearsal.session.cancelled = true)
    (running : rehearsal.session.phase.isStopped = false) :
    rehearsal.step? = some (rehearsal.deliver .cancelled) := by
  have pending : rehearsal.session.pendingSignal rehearsal.board rehearsal.rows
      rehearsal.feed.read.1 = some .cancelled := by
    simp only [Session.pendingSignal, running, cancelled, Bool.false_eq_true, ↓reduceIte]
  have told : rehearsal.nextSignal = some (rehearsal, .cancelled) := by
    unfold nextSignal
    split
    · rename_i uncancelled
      exact absurd (uncancelled.symm.trans cancelled) Bool.false_ne_true
    · rw [pending]
      rfl
  rw [step?, told, Option.map_some]

/-- The worker of a session that has been cancelled ends with its next step. -/
theorem stopped_of_cancelled (cancelled : rehearsal.session.cancelled = true) :
    (rehearsal.step?.getD rehearsal).session.phase.isStopped = true := by
  cases running : rehearsal.session.phase.isStopped with
  | true => rw [step_of_stopped running, Option.getD_none, running]
  | false =>
      rw [step_of_cancelled cancelled running, Option.getD_some]
      exact rehearsal.session.isStopped_cancelled rehearsal.board

theorem advance_of_waiting (waits : rehearsal.step? = none) (fuel : Nat) :
    advance fuel rehearsal = rehearsal := by
  cases fuel with
  | zero => rfl
  | succ fuel => rw [advance, waits]

/-- As many steps as there are signals to be told are enough. -/
private theorem advance_waits (fuel : Nat) (rehearsal : Rehearsal)
    (undisturbed : rehearsal.IsUndisturbed) (enough : rehearsal.script.length ≤ fuel) :
    (advance fuel rehearsal).step? = none := by
  induction fuel generalizing rehearsal with
  | zero =>
      cases stepped : rehearsal.step? with
      | none => exact stepped
      | some next =>
          obtain ⟨_, signal, rest, script, _⟩ := undisturbed.step stepped
          rw [script] at enough
          exact absurd enough (Nat.not_succ_le_zero _)
  | succ fuel ih =>
      cases stepped : rehearsal.step? with
      | none =>
          rw [advance_of_waiting stepped]
          exact stepped
      | some next =>
          obtain ⟨still, signal, rest, script, _, after⟩ := undisturbed.step stepped
          rw [advance, stepped]
          rcases after with same | stopped
          · refine ih next still ?_
            rw [script, List.length_cons] at enough
            rw [same]
            exact Nat.le_of_succ_le_succ enough
          · have waits := step_of_stopped stopped
            change (advance fuel next).step? = none
            rw [advance_of_waiting waits]
            exact waits

/-- The steps of an advance are steps. -/
private theorem runs_advance (fuel : Nat) {first : Rehearsal} {items : List FeedItem}
    (runs : first.Runs items rehearsal) : first.Runs items (advance fuel rehearsal) := by
  induction fuel generalizing rehearsal with
  | zero => exact runs
  | succ fuel ih =>
      unfold advance
      cases stepped : rehearsal.step? with
      | none => exact runs
      | some next => exact ih (runs.step stepped)

theorem runs_settle (rehearsal : Rehearsal) : rehearsal.Runs [] rehearsal.settle :=
  runs_advance _ .start

/-- A new session on a sound board whose sources work. -/
theorem start_isUndisturbed {board : Board} (sound : board.IsSound) (working : board.failure = none)
    (name primaryKey : String) (rows : List SnapshotItem) (items : List FeedItem) :
    (start (Session.start name primaryKey) board (.ok rows) none items).IsUndisturbed where
  calm := ⟨.of_none trivial rfl, sound, working, fun _ _ following => nomatch following⟩
  kept := rfl
  answers := rfl
  opens := rfl
  lasting := rfl
  released released := absurd released Bool.false_ne_true

/-- A session whose sources work comes to wait. -/
theorem settle_waits {board : Board} (sound : board.IsSound) (working : board.failure = none)
    (name primaryKey : String) (rows : List SnapshotItem) (items : List FeedItem) :
    (start (Session.start name primaryKey) board (.ok rows) none items).settle.step? = none := by
  refine advance_waits _ _ (start_isUndisturbed sound working name primaryKey rows items) ?_
  simp only [start, script, Session.start, answered, rowCount, List.length_cons, List.length_append,
    List.length_map]
  omega

end Rehearsal

end LiveSearch
