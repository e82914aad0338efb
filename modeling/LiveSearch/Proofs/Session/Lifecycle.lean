import LiveSearch.Proofs.Session.Rehearsal

/-! # The life of a session

A session is started, told signals, and asked to close; meanwhile its database and its list may do
whatever they like. All these interleave freely (`LiveSearch.Session.Life.run`), and the states
that the session goes through are noted. They make up one of six ways from the start to an end
(`LiveSearch.Session.IsLifecycle`), and the whole of what a life obeys is
`LiveSearch.Session.Life.IsOrderly`, which every run keeps
(`LiveSearch.Session.Life.run_isOrderly`). The steps of a rehearsal and its closing are acts of such
a life (`LiveSearch.Rehearsal.step_life`, `LiveSearch.Rehearsal.close_life`).
-/

namespace LiveSearch

namespace Session

/-- The states that a session can have gone through, oldest first. -/
inductive IsLifecycle : List SessionState → Prop
  | started : IsLifecycle [.bootstrapping]
  | published : IsLifecycle [.bootstrapping, .ready]
  | refused (cause : ServiceError) :
      IsLifecycle [.bootstrapping, .failed (.initialRetrieval cause)]
  | broken (cause : ServiceError) :
      IsLifecycle [.bootstrapping, .ready, .failed (.changeNotification cause)]
  | givenUp : IsLifecycle [.bootstrapping, .closed]
  | closed : IsLifecycle [.bootstrapping, .ready, .closed]

/-- A lifecycle that has not come to its end can end with the closing of the session. -/
theorem IsLifecycle.close {states : List SessionState} {state : SessionState}
    (lifecycle : IsLifecycle states) (current : states.getLast? = some state)
    (running : state.isTerminal = false) : IsLifecycle (states ++ [.closed]) := by
  cases lifecycle with
  | started => exact .givenUp
  | published => exact .closed
  | _ =>
      obtain rfl := Option.some.inj current
      exact absurd running.symm Bool.false_ne_true

section Parts

variable {session : Session} (board : Board)

/-- Only a session that follows its list reports, when the list has been deleted. -/
theorem following_of_detaches {signal : Signal} (detaches : session.detaches signal = true) :
    ∃ handle entries, session.phase = .following handle entries ∧ signal = .listDeleted := by
  unfold Session.detaches at detaches
  split at detaches
  · exact ⟨_, _, ‹_›, rfl⟩
  · exact absurd detaches Bool.false_ne_true

/-- The end of a closing leaves a terminal state as it is, and makes any other one `closed`. -/
theorem finishClosing_state : (session.finishClosing board).1.state =
    if session.state.isTerminal then session.state else .closed := by
  unfold finishClosing
  cases session.state with
  | _ => rfl

/-- A session that has been closed is not changed by the end of another closing. -/
theorem finishClosing_of_closed (phase : session.phase = .stopped none)
    (terminal : session.state.isTerminal = true) (closed : session.closed = true) :
    session.finishClosing board = (session, board) := by
  obtain ⟨name, primaryKey, _, state, cancelled, _⟩ := session
  obtain rfl := phase
  obtain rfl := closed
  cases state with
  | failed error => rfl
  | closed => rfl
  | _ => exact absurd terminal Bool.false_ne_true

/-- Publishing makes a session ready exactly if its list could be set. -/
theorem publish_state_ready (keys : KeySet) :
    (session.publish board keys).1.state = .ready ↔
      ((board.handleFor session.name).1.setEntries (board.handleFor session.name).2
        keys.toList).2.2 = .ok () := by
  unfold publish
  dsimp only
  split
  · rename_i refused
    rw [refused]
    exact iff_of_false nofun nofun
  · rename_i set
    rw [set]
    exact iff_of_true rfl rfl

end Parts

/-- A session in its surroundings, the states that it has gone through, oldest first, and how often
it has reported that it is detached. -/
structure Life where
  session : Session
  board : Board
  states : List SessionState
  reports : Nat

namespace Life

/-- Something that happens to a session or around it. -/
inductive Act
  /-- The worker is told something. -/
  | tell (signal : Signal)
  /-- The closing of the session begins. -/
  | cancel
  /-- The closing of the session comes to its end if the worker has ended. -/
  | finish
  /-- Somebody else changes the lists, or whether writing them succeeds. -/
  | elsewhere (board : Board)

/-- A session that has just been started. -/
def start (name primaryKey : String) (board : Board) : Life :=
  ⟨.start name primaryKey, board, [.bootstrapping], 0⟩

/-- Go on with what has become of the session and its board; a new state is noted. -/
def goOn (life : Life) (outcome : Session × Board) : Life :=
  { life with
    session := outcome.1
    board := outcome.2
    states := if outcome.1.state = life.session.state then life.states
      else life.states ++ [outcome.1.state] }

/-- The life after an act. -/
def after (life : Life) : Act → Life
  | .tell signal =>
    { life.goOn (life.session.receive life.board signal) with
      reports := life.reports + if life.session.detaches signal then 1 else 0 }
  | .cancel => life.goOn (life.session.cancel, life.board)
  | .finish =>
    if life.session.cancelled && life.session.phase.isStopped then
      life.goOn (life.session.finishClosing life.board)
    else life
  | .elsewhere board => { life with board }

/-- The life after several acts. -/
def run (life : Life) (acts : List Act) : Life := acts.foldl after life

/-- What a life obeys at every moment. -/
structure IsOrderly (life : Life) : Prop where
  lifecycle : IsLifecycle life.states
  current : life.states.getLast? = some life.session.state
  /-- What the states have been stays. -/
  onward : ∀ act, life.states <+: (life.after act).states
  /-- A terminal state is the last one, and the worker acts no more. -/
  terminal : life.session.state.isTerminal = true →
    (∀ act, (life.after act).states = life.states) ∧ ∀ signal, life.after (.tell signal) = life
  /-- The session becomes ready exactly when its feed is ready and its list could be set. -/
  ready : ∀ act, (life.after act).states = life.states ++ [.ready] ↔
    ∃ keys, act = .tell (.event (.ok .ready)) ∧ life.session.phase = .merging keys ∧
      ((life.board.handleFor life.session.name).1.setEntries
        (life.board.handleFor life.session.name).2 keys.toList).2.2 = .ok ()
  reports : life.reports ≤ 1
  /-- The session reports exactly when its worker goes from being ready to being closed. -/
  reported : ∀ act, (life.after act).reports ≠ life.reports ↔
    (∃ signal, act = .tell signal) ∧ life.session.state = .ready ∧
      (life.after act).session.state = .closed
  /-- A closing that comes to its end keeps a failure; otherwise the session is closed. -/
  closing : ∀ act, life.session.closed = false → (life.after act).session.closed = true →
    (life.after act).session.state =
      match life.session.state with
      | .failed error => .failed error
      | _ => .closed
  /-- A session that has been closed is at its end, and nothing that happens to it changes anything:
  neither another closing nor an item of the feed, which does not reach the list either. -/
  closed : life.session.closed = true → life.session.state.isTerminal = true ∧
    ∀ act, life.after act = life ∨ ∃ board, act = .elsewhere board
  /-- At every moment the session can be closed. -/
  closable : (life.run [.cancel, .tell .cancelled, .finish]).session.closed = true

/-- What the phase of a session says about the states that it has gone through. -/
structure IsSound (life : Life) : Prop where
  lifecycle : IsLifecycle life.states
  current : life.states.getLast? = some life.session.state
  early : life.session.phase.isEarly = true → life.states = [.bootstrapping]
  following : ∀ handle entries, life.session.phase = .following handle entries →
    life.states = [.bootstrapping, .ready]
  reports : life.reports = 0 ∨ life.reports = 1 ∧ life.session.phase.isStopped = true ∧
    life.states = [.bootstrapping, .ready, .closed]
  closed : life.session.closed = true → life.session.cancelled = true ∧
    life.session.phase = .stopped none ∧ life.session.state.isTerminal = true

section Sound

variable {life : Life} {after : Session} {written : Board}

theorem states_goOn_same (same : after.state = life.session.state) :
    (life.goOn (after, written)).states = life.states := by
  rw [goOn, if_pos same]

theorem states_goOn_new (new : after.state ≠ life.session.state) :
    (life.goOn (after, written)).states = life.states ++ [after.state] := by
  rw [goOn, if_neg new]

theorem prefix_goOn (outcome : Session × Board) : life.states <+: (life.goOn outcome).states := by
  by_cases same : outcome.1.state = life.session.state
  · rw [states_goOn_same same]
  · rw [states_goOn_new same]
    exact List.prefix_append _ _

theorem goOn_self : life.goOn (life.session, life.board) = life := by
  unfold goOn
  simp only [↓reduceIte]

theorem start_isSound (name primaryKey : String) (board : Board) :
    (start name primaryKey board).IsSound where
  lifecycle := .started
  current := rfl
  early := fun _ => rfl
  following := fun _ _ same => nomatch same
  reports := .inl rfl
  closed := fun closed => absurd closed Bool.false_ne_true

namespace IsSound

/-- A worker that gathers keys has nothing to show. -/
theorem state_of_early (sound : life.IsSound) (early : life.session.phase.isEarly = true) :
    life.session.state = .bootstrapping := by
  have current := sound.current
  rw [sound.early early] at current
  exact (Option.some.inj current).symm

/-- A worker that follows its list is ready. -/
theorem state_of_following (sound : life.IsSound) {handle : Handle} {entries : List String}
    (following : life.session.phase = .following handle entries) :
    life.session.state = .ready := by
  have current := sound.current
  rw [sound.following handle entries following] at current
  exact (Option.some.inj current).symm

/-- A worker at the end of its states has ended. -/
theorem stopped_of_terminal (sound : life.IsSound)
    (terminal : life.session.state.isTerminal = true) :
    life.session.phase.isStopped = true := by
  cases phase : life.session.phase with
  | stopped owned => rfl
  | following handle entries =>
      rw [sound.state_of_following phase] at terminal
      exact absurd terminal Bool.false_ne_true
  | _ =>
      rw [sound.state_of_early (by rw [phase]; rfl)] at terminal
      exact absurd terminal Bool.false_ne_true

/-- While the worker is at work, nothing has been reported and the session has not been closed. -/
theorem quiet (sound : life.IsSound) (running : life.session.phase.isStopped = false) :
    life.reports = 0 ∧ life.session.closed = false := by
  constructor
  · rcases sound.reports with none | ⟨_, stopped, _⟩
    · exact none
    · exact absurd (running.symm.trans stopped) Bool.false_ne_true
  · apply Bool.eq_false_iff.mpr
    intro closed
    obtain ⟨_, phase, _⟩ := sound.closed closed
    rw [phase] at running
    exact absurd running.symm Bool.false_ne_true

/-- The worker goes on in another phase. -/
theorem goOn (sound : life.IsSound) (running : life.session.phase.isStopped = false)
    {phase : Phase} (early : phase.isEarly = true → life.states = [.bootstrapping])
    (following : ∀ handle entries, phase = .following handle entries →
      life.states = [.bootstrapping, .ready]) :
    (life.goOn (life.session.goOn phase, written)).IsSound := by
  obtain ⟨none, unclosed⟩ := sound.quiet running
  have same : (life.goOn (life.session.goOn phase, written)).states = life.states :=
    states_goOn_same rfl
  exact
    { lifecycle := same.symm ▸ sound.lifecycle
      current := same.symm ▸ sound.current
      early := fun held => same.trans (early held)
      following := fun handle entries held => same.trans (following handle entries held)
      reports := .inl none
      closed := fun closed => absurd (unclosed.symm.trans closed) Bool.false_ne_true }

/-- The worker ends, in the state it is in or in one that can come next. -/
theorem ended (sound : life.IsSound) (running : life.session.phase.isStopped = false)
    (owned : Option Handle) {state : SessionState}
    (next : state = life.session.state ∨ IsLifecycle (life.states ++ [state])) :
    (life.goOn (life.session.ended owned state, written)).IsSound := by
  obtain ⟨none, unclosed⟩ := sound.quiet running
  obtain ⟨lifecycle, current⟩ :
      IsLifecycle (life.goOn (life.session.ended owned state, written)).states ∧
        (life.goOn (life.session.ended owned state, written)).states.getLast? = some state := by
    by_cases same : state = life.session.state
    · rw [states_goOn_same same, same]
      exact ⟨sound.lifecycle, sound.current⟩
    · rw [states_goOn_new same]
      exact ⟨next.resolve_left same, List.getLast?_concat⟩
  exact
    { lifecycle
      current
      early := fun early => absurd early Bool.false_ne_true
      following := fun _ _ following => nomatch following
      reports := .inl none
      closed := fun closed => absurd (unclosed.symm.trans closed) Bool.false_ne_true }

/-- The worker has published its list. -/
theorem published (sound : life.IsSound) (early : life.session.phase.isEarly = true)
    (running : life.session.phase.isStopped = false) (handle : Handle) (entries : List String) :
    (life.goOn (life.session.ready handle entries, written)).IsSound := by
  obtain ⟨none, unclosed⟩ := sound.quiet running
  have states : (life.goOn (life.session.ready handle entries, written)).states =
      [.bootstrapping, .ready] := by
    have new : (life.session.ready handle entries).state ≠ life.session.state := by
      rw [sound.state_of_early early]
      change SessionState.ready ≠ SessionState.bootstrapping
      decide
    rw [states_goOn_new new, sound.early early]
    rfl
  exact
    { lifecycle := states.symm ▸ .published
      current := states.symm ▸ rfl
      early := fun early => absurd early Bool.false_ne_true
      following := fun _ _ _ => states
      reports := .inl none
      closed := fun closed => absurd (unclosed.symm.trans closed) Bool.false_ne_true }

/-- The worker has passed a record on to its list, or failed to. -/
theorem turn (sound : life.IsSound) {handle : Handle} {entries : List String}
    (following : life.session.phase = .following handle entries)
    (turn : life.session.Turn after) : (life.goOn (after, written)).IsSound := by
  have running : life.session.phase.isStopped = false := by
    rw [following]
    rfl
  cases turn with
  | following owned others =>
      apply sound.goOn running
      · intro early
        exact absurd early Bool.false_ne_true
      · intro _ _ _
        exact sound.following handle entries following
  | broken owned cause =>
      apply sound.ended running
      right
      rw [sound.following handle entries following]
      exact .broken cause

/-- Whatever becomes of the session on a signal, its phase still says what its states are. -/
theorem outcome (sound : life.IsSound) {signal : Signal}
    (outcome : life.session.Outcome life.board signal after written) :
    (life.goOn (after, written)).IsSound := by
  cases outcome with
  | unchanged =>
      rw [goOn_self]
      exact sound
  | gathered phase early still exact onward =>
      apply sound.goOn (Phase.isStopped_of_isEarly early)
      · intro _
        exact sound.early early
      · intro handle entries following
        rw [following] at still
        exact absurd still Bool.false_ne_true
  | abandoned state early reason =>
      apply sound.ended (Phase.isStopped_of_isEarly early)
      rcases reason with same | ⟨cause, rfl⟩
      · exact .inl same
      · right
        rw [sound.early early]
        exact .refused cause
  | published keys merging told =>
      have early : life.session.phase.isEarly = true := by
        rw [merging]
        rfl
      have running := Phase.isStopped_of_isEarly early
      rcases publish_turn life.board keys with ⟨handle, cause, same⟩ | ⟨handle, same⟩
      · rw [same]
        apply sound.ended running
        right
        rw [sound.early early]
        exact .refused cause
      · rw [same]
        exact sound.published early running handle keys.toList
  | listed handle entries record following =>
      exact sound.turn following (listRecord_turn life.board following record)
  | unlisted handle entries record following =>
      exact sound.turn following (unlistRecord_turn life.board following record)
  | left handle entries state following reason =>
      have running : life.session.phase.isStopped = false := by
        rw [following]
        rfl
      apply sound.ended running
      rcases reason with same | ⟨cause, rfl⟩
      · exact .inl same
      · right
        rw [sound.following handle entries following]
        exact .broken cause
  | detached handle entries following told =>
      have running : life.session.phase.isStopped = false := by
        rw [following]
        rfl
      apply sound.ended running
      right
      rw [sound.following handle entries following]
      exact .closed

end IsSound

/-- A worker that has ended does not listen. -/
theorem after_tell_of_stopped (stopped : life.session.phase.isStopped = true) (signal : Signal) :
    life.after (.tell signal) = life := by
  have silent : life.session.detaches signal = false := by
    cases detaches : life.session.detaches signal with
    | false => rfl
    | true =>
        obtain ⟨_, _, following, _⟩ := following_of_detaches detaches
        rw [following] at stopped
        exact absurd stopped Bool.false_ne_true
  simp only [after, receive_of_stopped life.board stopped, goOn_self, silent, Bool.false_eq_true,
    ↓reduceIte, Nat.add_zero]

theorem after_finish (cancelled : life.session.cancelled = true)
    (stopped : life.session.phase.isStopped = true) :
    life.after .finish = life.goOn (life.session.finishClosing life.board) := by
  simp only [after, cancelled, stopped, Bool.and_true, ↓reduceIte]

variable (life) in
/-- The end of a closing waits until the session has been cancelled and its worker has ended. -/
theorem finish_cases : life.after .finish = life ∨
    life.session.cancelled = true ∧ life.session.phase.isStopped = true ∧
      life.after .finish = life.goOn (life.session.finishClosing life.board) := by
  by_cases due : (life.session.cancelled && life.session.phase.isStopped) = true
  · obtain ⟨cancelled, stopped⟩ := Bool.and_eq_true_iff.mp due
    exact .inr ⟨cancelled, stopped, after_finish cancelled stopped⟩
  · left
    simp only [after, due, Bool.false_eq_true, ↓reduceIte]

variable (life) in
theorem states_finishClosing :
    (life.goOn (life.session.finishClosing life.board)).states =
      if life.session.state.isTerminal then life.states else life.states ++ [.closed] := by
  have state := life.session.finishClosing_state life.board
  cases terminal : life.session.state.isTerminal with
  | true =>
      rw [terminal, if_pos rfl] at state
      rw [if_pos rfl]
      exact states_goOn_same state
  | false =>
      rw [terminal, if_neg Bool.false_ne_true] at state
      have new : (life.session.finishClosing life.board).1.state ≠ life.session.state := by
        rw [state]
        intro same
        rw [← same] at terminal
        exact absurd terminal.symm Bool.false_ne_true
      rw [if_neg Bool.false_ne_true, ← state]
      exact states_goOn_new new

variable (life) in
/-- The end of a closing shows a state that is terminal already, or `closed`. -/
theorem states_finish : (life.after .finish).states = life.states ∨
    life.session.state.isTerminal = false ∧
      (life.after .finish).states = life.states ++ [.closed] := by
  rcases life.finish_cases with same | ⟨_, _, finished⟩
  · exact .inl (by rw [same])
  · rw [finished, states_finishClosing]
    cases life.session.state.isTerminal with
    | true => exact .inl (if_pos rfl)
    | false => exact .inr ⟨rfl, if_neg Bool.false_ne_true⟩

/-- The closing of a session that has been cancelled and whose worker has ended is the only act that
makes it closed. -/
theorem finish_of_closed {act : Act} (unclosed : life.session.closed = false)
    (closed : (life.after act).session.closed = true) :
    act = .finish ∧ life.session.cancelled = true ∧ life.session.phase.isStopped = true := by
  cases act with
  | tell signal =>
      obtain ⟨_, _, _, kept⟩ := (receive_outcome life.session life.board signal).keeps
      exact absurd (unclosed.symm.trans (kept.symm.trans closed)) Bool.false_ne_true
  | cancel => exact absurd (unclosed.symm.trans closed) Bool.false_ne_true
  | elsewhere board => exact absurd (unclosed.symm.trans closed) Bool.false_ne_true
  | finish =>
      rcases life.finish_cases with same | ⟨cancelled, stopped, _⟩
      · rw [same] at closed
        exact absurd (unclosed.symm.trans closed) Bool.false_ne_true
      · exact ⟨rfl, cancelled, stopped⟩

namespace IsSound

/-- Telling the worker something keeps the phase and the states in step. -/
theorem tell (sound : life.IsSound) (signal : Signal) : (life.after (.tell signal)).IsSound := by
  by_cases stopped : life.session.phase.isStopped = true
  · rw [after_tell_of_stopped stopped]
    exact sound
  · obtain ⟨unreported, _⟩ := sound.quiet (Bool.eq_false_iff.mpr stopped)
    have moved := sound.outcome (receive_outcome life.session life.board signal)
    cases detaches : life.session.detaches signal with
    | false =>
        have reports : (life.after (.tell signal)).reports = 0 := by
          simp only [after, unreported, detaches, Bool.false_eq_true, ↓reduceIte]
        exact { moved with reports := .inl reports }
    | true =>
        obtain ⟨handle, entries, following, rfl⟩ := following_of_detaches detaches
        have reports : (life.after (.tell .listDeleted)).reports = 1 := by
          simp only [after, unreported, detaches, ↓reduceIte]
        have received : life.session.receive life.board .listDeleted =
            (life.session.ended none .closed, life.board) := by
          simp only [receive, following, receiveFollowing]
          rfl
        have states : (life.after (.tell .listDeleted)).states =
            [.bootstrapping, .ready, .closed] := by
          have new : (life.session.ended none .closed).state ≠ life.session.state := by
            rw [sound.state_of_following following]
            change SessionState.closed ≠ SessionState.ready
            decide
          change (life.goOn (life.session.receive life.board .listDeleted)).states = _
          rw [received, states_goOn_new new, sound.following handle entries following]
          rfl
        have ended : (life.after (.tell .listDeleted)).session.phase.isStopped = true := by
          change (life.session.receive life.board .listDeleted).1.phase.isStopped = true
          rw [received]
          rfl
        exact { moved with reports := .inr ⟨reports, ended, states⟩ }

/-- The closing of the session comes to its end. -/
theorem finish (sound : life.IsSound) (cancelled : life.session.cancelled = true) :
    (life.goOn (life.session.finishClosing life.board)).IsSound := by
  have state := life.session.finishClosing_state life.board
  have states := life.states_finishClosing
  cases terminal : life.session.state.isTerminal with
  | true =>
      rw [terminal, if_pos rfl] at state states
      exact
        { lifecycle := states.symm ▸ sound.lifecycle
          current := (congrArg _ states).trans (sound.current.trans (congrArg some state.symm))
          early := fun early => absurd early Bool.false_ne_true
          following := fun _ _ following => nomatch following
          reports := sound.reports.imp_right fun ⟨one, _, ways⟩ => ⟨one, rfl, states.trans ways⟩
          closed := fun _ => ⟨cancelled, rfl, (congrArg _ state).trans terminal⟩ }
  | false =>
      rw [terminal, if_neg Bool.false_ne_true] at state states
      have unreported : life.reports = 0 := by
        rcases sound.reports with none | ⟨_, _, ways⟩
        · exact none
        · have current := sound.current
          rw [ways] at current
          rw [← Option.some.inj current] at terminal
          exact absurd terminal.symm Bool.false_ne_true
      exact
        { lifecycle := states.symm ▸ sound.lifecycle.close sound.current terminal
          current := by
            rw [states, List.getLast?_concat]
            exact congrArg some state.symm
          early := fun early => absurd early Bool.false_ne_true
          following := fun _ _ following => nomatch following
          reports := .inl unreported
          closed := fun _ => ⟨cancelled, rfl, congrArg SessionState.isTerminal state⟩ }

/-- Every act keeps the phase and the states in step. -/
theorem step (sound : life.IsSound) (act : Act) : (life.after act).IsSound := by
  cases act with
  | tell signal => exact sound.tell signal
  | cancel =>
      have states : (life.goOn (life.session.cancel, life.board)).states = life.states :=
        states_goOn_same rfl
      exact
        { lifecycle := states.symm ▸ sound.lifecycle
          current := states.symm ▸ sound.current
          early := fun early => states.trans (sound.early early)
          following := fun handle entries following =>
            states.trans (sound.following handle entries following)
          reports := sound.reports.imp_right fun ⟨one, stopped, ways⟩ =>
            ⟨one, stopped, states.trans ways⟩
          closed := fun closed => ⟨rfl, (sound.closed closed).2⟩ }
  | elsewhere board => exact { sound with }
  | finish =>
      rcases life.finish_cases with same | ⟨cancelled, _, finished⟩
      · rw [same]
        exact sound
      · rw [finished]
        exact sound.finish cancelled

theorem run (sound : life.IsSound) (acts : List Act) : (life.run acts).IsSound := by
  induction acts generalizing life with
  | nil => exact sound
  | cons act rest ih => exact ih (sound.step act)

/-- What the states have been stays. -/
theorem prefix_after (act : Act) : life.states <+: (life.after act).states := by
  cases act with
  | tell signal => exact prefix_goOn _
  | cancel => exact prefix_goOn (life.session.cancel, life.board)
  | elsewhere board => exact List.prefix_refl _
  | finish =>
      rcases life.states_finish with same | ⟨_, closed⟩
      · rw [same]
      · rw [closed]
        exact List.prefix_append _ _

/-- No state comes after a terminal one. -/
theorem states_of_terminal (sound : life.IsSound)
    (terminal : life.session.state.isTerminal = true) (act : Act) :
    (life.after act).states = life.states := by
  cases act with
  | tell signal => rw [after_tell_of_stopped (sound.stopped_of_terminal terminal)]
  | cancel =>
      rw [after]
      exact states_goOn_same rfl
  | elsewhere board => rfl
  | finish =>
      rcases life.states_finish with same | ⟨running, _⟩
      · exact same
      · exact absurd (running.symm.trans terminal) Bool.false_ne_true

/-- A session becomes ready on being told that its feed is ready, if its list could be set. -/
theorem tell_ready (sound : life.IsSound) (signal : Signal) :
    (life.after (.tell signal)).states = life.states ++ [.ready] ↔
      ∃ keys, signal = .event (.ok .ready) ∧ life.session.phase = .merging keys ∧
        ((life.board.handleFor life.session.name).1.setEntries
          (life.board.handleFor life.session.name).2 keys.toList).2.2 = .ok () := by
  change (life.goOn (life.session.receive life.board signal)).states = _ ↔ _
  constructor
  · intro entered
    by_cases same : (life.session.receive life.board signal).1.state = life.session.state
    · rw [states_goOn_same same] at entered
      exact absurd entered (by simp)
    · rw [states_goOn_new same] at entered
      have ready := List.singleton_inj.mp (List.append_cancel_left entered)
      rcases (receive_outcome life.session life.board signal).state_cases with
        still | ⟨error, failed⟩ | ⟨keys, merging, told, published⟩ | ⟨_, closed⟩
      · exact absurd still same
      · exact nomatch failed.symm.trans ready
      · rw [published] at ready
        exact ⟨keys, told, merging, (publish_state_ready life.board keys).mp ready⟩
      · exact nomatch closed.symm.trans ready
  · rintro ⟨keys, rfl, merging, set⟩
    have ready := (publish_state_ready life.board keys).mpr set
    have received : life.session.receive life.board (.event (.ok .ready)) =
        life.session.publish life.board keys := by
      simp only [receive, merging, receiveMerging]
    have new : (life.session.publish life.board keys).1.state ≠ life.session.state := by
      rw [ready, sound.state_of_early (by rw [merging]; rfl)]
      decide
    rw [received, states_goOn_new new, ready]

/-- A session becomes ready when its feed is ready and its list could be set, and only then. -/
theorem ready (sound : life.IsSound) (act : Act) :
    (life.after act).states = life.states ++ [.ready] ↔
      ∃ keys, act = .tell (.event (.ok .ready)) ∧ life.session.phase = .merging keys ∧
        ((life.board.handleFor life.session.name).1.setEntries
          (life.board.handleFor life.session.name).2 keys.toList).2.2 = .ok () := by
  have longer (state : SessionState) : life.states ≠ life.states ++ [state] := by
    simp
  cases act with
  | tell signal =>
      rw [sound.tell_ready signal]
      simp only [Act.tell.injEq]
  | cancel =>
      have same : (life.after .cancel).states = life.states := states_goOn_same rfl
      rw [same]
      exact iff_of_false (longer .ready) fun ⟨_, told, _⟩ => nomatch told
  | elsewhere board => exact iff_of_false (longer .ready) fun ⟨_, told, _⟩ => nomatch told
  | finish =>
      refine iff_of_false (fun entered => ?_) fun ⟨_, told, _⟩ => nomatch told
      rcases life.states_finish with same | ⟨_, closed⟩
      · exact longer .ready (same.symm.trans entered)
      · rw [closed] at entered
        exact nomatch List.singleton_inj.mp (List.append_cancel_left entered)

/-- A session reports when its worker goes from being ready to being closed, and only then. -/
theorem reported (sound : life.IsSound) (act : Act) :
    (life.after act).reports ≠ life.reports ↔
      (∃ signal, act = .tell signal) ∧ life.session.state = .ready ∧
        (life.after act).session.state = .closed := by
  constructor
  · intro more
    cases act with
    | tell signal =>
        cases detaches : life.session.detaches signal with
        | false =>
            refine absurd ?_ more
            simp only [after, detaches, Bool.false_eq_true, ↓reduceIte, Nat.add_zero]
        | true =>
            obtain ⟨handle, entries, following, rfl⟩ := following_of_detaches detaches
            refine ⟨⟨_, rfl⟩, sound.state_of_following following, ?_⟩
            change (life.session.receive life.board .listDeleted).1.state = .closed
            simp only [receive, following, receiveFollowing]
    | cancel => exact absurd rfl more
    | elsewhere board => exact absurd rfl more
    | finish =>
        rcases life.finish_cases with same | ⟨_, _, finished⟩
        · exact absurd (by rw [same]) more
        · exact absurd (by rw [finished]; rfl) more
  · rintro ⟨⟨signal, rfl⟩, ready, closed⟩
    rcases (receive_outcome life.session life.board signal).state_cases with
      still | ⟨error, failed⟩ | ⟨keys, merging, _, _⟩ | ⟨detaches, _⟩
    · cases (closed.symm.trans still).trans ready
    · cases closed.symm.trans failed
    · have early := sound.state_of_early (by rw [merging]; rfl)
      cases early.symm.trans ready
    · simp [after, detaches]

/-- Nothing that happens to a session that has been closed changes anything. -/
theorem after_of_closed (sound : life.IsSound) (closed : life.session.closed = true) (act : Act) :
    life.after act = life ∨ ∃ board, act = .elsewhere board := by
  obtain ⟨cancelled, phase, terminal⟩ := sound.closed closed
  have stopped := sound.stopped_of_terminal terminal
  cases act with
  | tell signal => exact .inl (after_tell_of_stopped stopped signal)
  | elsewhere board => exact .inr ⟨board, rfl⟩
  | cancel =>
      left
      have same : life.session.cancel = life.session := by
        rw [cancel, ← cancelled]
      rw [after, same, goOn_self]
  | finish =>
      left
      rw [after_finish cancelled stopped, finishClosing_of_closed life.board phase terminal closed,
        goOn_self]

/-- A life in which phase and states are in step is orderly. -/
theorem isOrderly (sound : life.IsSound) : life.IsOrderly where
  lifecycle := sound.lifecycle
  current := sound.current
  onward := prefix_after
  terminal := fun terminal => ⟨sound.states_of_terminal terminal,
    after_tell_of_stopped (sound.stopped_of_terminal terminal)⟩
  ready := sound.ready
  reports := by
    rcases sound.reports with none | ⟨one, _, _⟩
    · exact none ▸ Nat.zero_le 1
    · exact one.le
  reported := sound.reported
  closing := by
    intro act unclosed closed
    obtain ⟨rfl, cancelled, stopped⟩ := finish_of_closed unclosed closed
    rw [after_finish cancelled stopped]
    rfl
  closed := fun closed => ⟨(sound.closed closed).2.2, sound.after_of_closed closed⟩
  closable := by
    have cancelled : (life.run [.cancel, .tell .cancelled]).session.cancelled = true :=
      (receive_outcome life.session.cancel life.board .cancelled).keeps.2.2.1
    have stopped : (life.run [.cancel, .tell .cancelled]).session.phase.isStopped = true :=
      life.session.cancel.isStopped_cancelled life.board
    change ((life.run [.cancel, .tell .cancelled]).after .finish).session.closed = true
    rw [after_finish cancelled stopped]
    rfl

end IsSound

end Sound

/-- **The lifecycle of a session.** However the signals of the worker, attempts to close the session
and whatever others do to the lists interleave, the life of a session is orderly. -/
theorem run_isOrderly (name primaryKey : String) (board : Board) (acts : List Act) :
    ((start name primaryKey board).run acts).IsOrderly :=
  ((start_isSound name primaryKey board).run acts).isOrderly

/-- A search whose list is set, is closed while it still holds it, and is told more afterwards. -/
example :
    let acts : List Act := [.tell .opened, .tell .rowsEnd, .tell (.event (.ok .ready)), .cancel,
      .tell .cancelled, .finish, .tell (.event (.error (.feed "late"))), .cancel, .finish]
    let life := (start "books?" "id" (.empty 10)).run acts
    life.states = [.bootstrapping, .ready, .closed] ∧ life.reports = 0 ∧
      life.board.journal = [.set "books?" [], .delete "books?"] := by
  decide

/-- The life of the session of a rehearsal. -/
structure Shows (life : Life) (rehearsal : Rehearsal) : Prop where
  session : life.session = rehearsal.session
  board : life.board = rehearsal.board
  reports : life.reports = rehearsal.reports

end Life

end Session

namespace Rehearsal

open Session

variable {rehearsal next : Rehearsal} {life : Life}

private theorem deliver_life (shown : life.Shows rehearsal) (signal : Signal) :
    (life.after (.tell signal)).Shows (rehearsal.deliver signal) := by
  obtain ⟨session, board, reports⟩ := shown
  constructor
  · change (life.session.receive life.board signal).1 = _
    rw [session, board]
    rfl
  · change (life.session.receive life.board signal).2 = _
    rw [session, board]
    rfl
  · change life.reports + _ = _
    rw [session, reports]
    rfl

/-- A step of a rehearsal tells its session something. -/
theorem step_life (shown : life.Shows rehearsal) (stepped : rehearsal.step? = some next) :
    ∃ signal, (life.after (.tell signal)).Shows next := by
  obtain ⟨behind, signal, told, rfl, _⟩ := step_eq stepped
  obtain ⟨session, board, reports⟩ := nextSignal_keeps told
  refine ⟨signal, deliver_life ⟨?_, ?_, ?_⟩ signal⟩
  · exact shown.session.trans session.symm
  · exact shown.board.trans board.symm
  · exact shown.reports.trans reports.symm

/-- To close a rehearsal is to cancel its session, to let the worker end, and to finish. -/
theorem close_life (shown : life.Shows rehearsal) :
    (life.run [.cancel, .tell .cancelled, .finish]).Shows rehearsal.close := by
  have cancelled : (life.after .cancel).Shows rehearsal.cancel :=
    ⟨congrArg Session.cancel shown.session, shown.board, shown.reports⟩
  have ended : ((life.after .cancel).after (.tell .cancelled)).Shows
      (rehearsal.cancel.step?.getD rehearsal.cancel) := by
    cases running : rehearsal.cancel.session.phase.isStopped with
    | true =>
        rw [Life.after_tell_of_stopped (cancelled.session.symm ▸ running),
          step_of_stopped running]
        exact cancelled
    | false =>
        rw [step_of_cancelled rfl running]
        exact deliver_life cancelled .cancelled
  have asked : ((life.after .cancel).after (.tell .cancelled)).session.cancelled = true :=
    (receive_outcome (life.after .cancel).session (life.after .cancel).board .cancelled).keeps.2.2.1
  have stopped : ((life.after .cancel).after (.tell .cancelled)).session.phase.isStopped = true :=
    (life.after .cancel).session.isStopped_cancelled (life.after .cancel).board
  change (((life.after .cancel).after (.tell .cancelled)).after .finish).Shows rehearsal.close
  rw [Life.after_finish asked stopped]
  obtain ⟨session, board, reports⟩ := ended
  have finished : (((life.after .cancel).after (.tell .cancelled)).session.finishClosing
      ((life.after .cancel).after (.tell .cancelled)).board) =
      (rehearsal.close.session, rehearsal.close.board) := by
    rw [session, board]
    rfl
  rw [finished]
  exact ⟨rfl, rfl, reports⟩

/-- Closing a rehearsal again changes nothing. -/
theorem close_close : rehearsal.close.close = rehearsal.close := by
  have asked : rehearsal.close.session.cancelled = true := by
    change (rehearsal.cancel.step?.getD rehearsal.cancel).session.cancelled = true
    cases running : rehearsal.cancel.session.phase.isStopped with
    | true =>
        rw [step_of_stopped running]
        rfl
    | false =>
        rw [step_of_cancelled rfl running]
        exact (receive_outcome rehearsal.cancel.session rehearsal.board .cancelled).keeps.2.2.1
  have terminal : rehearsal.close.session.state.isTerminal = true := by
    have state := (rehearsal.cancel.step?.getD rehearsal.cancel).session.finishClosing_state
      (rehearsal.cancel.step?.getD rehearsal.cancel).board
    change rehearsal.close.session.state = _ at state
    rw [state]
    split
    · assumption
    · rfl
  have cancelled : rehearsal.close.cancel = rehearsal.close := by
    have same : rehearsal.close.session.cancel = rehearsal.close.session := by
      rw [Session.cancel, ← asked]
    rw [Rehearsal.cancel, same]
  have idle : rehearsal.close.step? = none := step_of_stopped rfl
  have finished := finishClosing_of_closed rehearsal.close.board rfl terminal rfl
  generalize rehearsal.close = shut at *
  rw [close, cancelled, idle, Option.getD_none, finished]

end Rehearsal

end LiveSearch
