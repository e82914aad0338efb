import LiveSearch.Proofs.Session.Company

/-! # Sessions that have lost their list

When somebody deletes the list that a session has published, the session may hear of it late: a
change, a failure of its feed or its closing can come first, and another client may have created a
list of the same name again. None of this matters as long as nobody acts while the session is at the
board. From the deletion on the session holds at most a handle that has been withdrawn
(`LiveSearch.Session.HasLost`), its own acts change nothing of the board, and the board and the
handles of the other clients are what these clients alone have made of them
(`LiveSearch.Session.Company.clients_run_of_lost`).
-/

namespace LiveSearch

namespace Session

/-- The session publishes no list any more, and the list that it holds a handle for has been
deleted. -/
structure HasLost (session : Session) (board : Board) : Prop where
  late : session.phase.isEarly = false
  withdrawn : ∀ handle, session.phase.handle? = some handle → board.isWithdrawn handle = true

namespace HasLost

variable {session after : Session} {board written : Board} {handle : Handle} {signal : Signal}

/-- A session that has ended without a handle has no list. -/
private theorem of_none (phase : session.phase = .stopped none) : session.HasLost board where
  late := by
    rw [phase]
    rfl
  withdrawn _ held := by
    rw [phase] at held
    exact nomatch held

/-- A session that has ended with its handle has still lost its list. -/
private theorem of_some (gone : board.isWithdrawn handle = true) (state : SessionState) :
    (session.ended (some handle) state).HasLost board where
  late := rfl
  withdrawn _ held := Option.some.inj held ▸ gone

private theorem following {entries : List String} (lost : session.HasLost board)
    (following : session.phase = .following handle entries) : board.isWithdrawn handle = true := by
  apply lost.withdrawn
  rw [following]
  rfl

/-- The key of a record that comes into the selection is not listed. -/
private theorem listRecord (lost : session.HasLost board) (gone : board.isWithdrawn handle = true)
    (entries : List String) (record : Json) :
    (session.listRecord board handle entries record).1.HasLost board ∧
      (session.listRecord board handle entries record).2 = board := by
  unfold Session.listRecord
  cases keyOf? session.primaryKey record with
  | none => exact ⟨lost, rfl⟩
  | some key =>
      obtain ⟨cause, refused⟩ := Handle.write_of_withdrawn gone (· ++ [key])
        (.add handle.name key)
      dsimp only [Handle.addEntry]
      split
      · exact ⟨lost, rfl⟩
      · rw [refused]
        exact ⟨of_some gone _, rfl⟩

/-- The key of a record that leaves the selection is not taken off the list. -/
private theorem unlistRecord (lost : session.HasLost board) (gone : board.isWithdrawn handle = true)
    (entries : List String) (record : Json) :
    (session.unlistRecord board handle entries record).1.HasLost board ∧
      (session.unlistRecord board handle entries record).2 = board := by
  unfold Session.unlistRecord
  cases keyOf? session.primaryKey record with
  | none => exact ⟨lost, rfl⟩
  | some key =>
      obtain ⟨cause, refused⟩ := Handle.write_of_withdrawn gone (·.erase key)
        (.remove handle.name key)
      dsimp only [Handle.removeEntry]
      split
      · exact ⟨lost, rfl⟩
      · rw [refused]
        exact ⟨of_some gone _, rfl⟩

/-- Whatever such a session is told, it leaves the board as it is. -/
theorem outcome (lost : session.HasLost board)
    (outcome : session.Outcome board signal after written) :
    after.HasLost board ∧ written = board := by
  cases outcome with
  | unchanged => exact ⟨lost, rfl⟩
  | gathered phase early => exact absurd (lost.late.symm.trans early) Bool.false_ne_true
  | abandoned state early => exact absurd (lost.late.symm.trans early) Bool.false_ne_true
  | published keys merging =>
      have late := lost.late
      rw [merging] at late
      exact absurd late.symm Bool.false_ne_true
  | listed handle entries record following =>
      exact lost.listRecord (lost.following following) entries record
  | unlisted handle entries record following =>
      exact lost.unlistRecord (lost.following following) entries record
  | left handle entries state following => exact ⟨of_some (lost.following following) state, rfl⟩
  | detached handle entries following => exact ⟨of_none rfl, rfl⟩

/-- The closing of such a session leaves the board as it is. -/
theorem finishClosing (lost : session.HasLost board) :
    (session.finishClosing board).1.HasLost board ∧ (session.finishClosing board).2 = board := by
  refine ⟨of_none rfl, ?_⟩
  unfold Session.finishClosing
  dsimp only
  split
  · rename_i handle stopped
    rw [if_pos]
    apply lost.withdrawn
    rw [stopped]
    rfl
  · rfl

end HasLost

namespace Company

variable {company : Company}

/-- A session that has become ready, and whose list does not exist, has lost its list. -/
theorem IsSound.hasLost (sound : company.IsSound) (published : .ready ∈ company.life.states)
    (absent : company.life.board.lists[company.life.session.name]? = none) :
    company.life.session.HasLost company.life.board where
  late := by
    refine Bool.eq_false_iff.mpr fun early => ?_
    rw [sound.life.early early] at published
    exact nomatch List.mem_singleton.mp published
  withdrawn handle held := by
    -- The handle is not pending, for a session that was refused its list has never been ready.
    have settled : handle.pending = false := Bool.eq_false_iff.mpr fun pending => by
      obtain ⟨cause, failed⟩ := sound.shares.settled handle held pending
      exact sound.unready failed published
    rcases sound.shares.standing held settled with gone | ⟨list, found, _⟩
    · exact gone
    · exact nomatch absent.symm.trans found

/-- An act leaves a session without its list, and only what another client does changes the board
and the handles. -/
theorem after_of_lost (lost : company.life.session.HasLost company.life.board) (act : Act) :
    (company.after act).life.session.HasLost (company.after act).life.board ∧
      (company.after act).clients = company.clients.run act.client?.toList := by
  cases act with
  | tell signal =>
      obtain ⟨still, same⟩ := lost.outcome (receive_outcome _ _ signal)
      change HasLost _ (company.life.session.receive company.life.board signal).2 ∧
        Clients.mk (company.life.session.receive company.life.board signal).2 _ = _
      rw [same]
      exact ⟨still, rfl⟩
  | cancel => exact ⟨⟨lost.late, lost.withdrawn⟩, rfl⟩
  | finish =>
      change HasLost (company.life.after .finish).session (company.life.after .finish).board ∧
        Clients.mk (company.life.after .finish).board _ = _
      rcases company.life.finish_cases with same | ⟨_, _, finished⟩
      · rw [same]
        exact ⟨lost, rfl⟩
      · obtain ⟨still, same⟩ := lost.finishClosing
        rw [finished]
        change HasLost _ (company.life.session.finishClosing company.life.board).2 ∧
          Clients.mk (company.life.session.finishClosing company.life.board).2 _ = _
        rw [same]
        exact ⟨still, rfl⟩
  | client act =>
      exact ⟨⟨lost.late, fun handle held =>
        company.clients.withdrawn_after act (lost.withdrawn handle held)⟩, rfl⟩

/-- A session that has lost its list leaves the board to the other clients. -/
theorem run_of_lost (lost : company.life.session.HasLost company.life.board) (acts : List Act) :
    (company.run acts).life.session.HasLost (company.run acts).life.board ∧
      (company.run acts).clients = company.clients.run (acts.filterMap Act.client?) := by
  induction acts generalizing company with
  | nil => exact ⟨lost, rfl⟩
  | cons act rest ih =>
      obtain ⟨still, same⟩ := after_of_lost lost act
      obtain ⟨last, others⟩ := ih still
      refine ⟨last, others.trans ?_⟩
      rw [same, ← Clients.run_append]
      congr 1
      cases own : act.client? with
      | none =>
          rw [List.filterMap_cons_none own]
          rfl
      | some act =>
          rw [List.filterMap_cons_some own]
          rfl

/-- When the list of a session is gone that had become ready, the other clients alone decide from
then on what becomes of the board and of their handles, and a handle that the session still has is
of no use. -/
theorem clients_run_of_lost (name primaryKey : String) (capacity : Nat) (earlier later : List Act)
    (published : .ready ∈ ((start name primaryKey capacity).run earlier).life.states)
    (absent : ((start name primaryKey capacity).run earlier).life.board.lists[name]? = none) :
    ((start name primaryKey capacity).run (earlier ++ later)).clients =
        ((start name primaryKey capacity).run earlier).clients.run
          (later.filterMap Act.client?) ∧
      ∀ handle, ((start name primaryKey capacity).run
          (earlier ++ later)).life.session.phase.handle? = some handle →
        handle.IsInert ((start name primaryKey capacity).run (earlier ++ later)).life.board := by
  have sound := (start_isSound name primaryKey capacity).run earlier
  have named : ((start name primaryKey capacity).run earlier).life.session.name = name :=
    name_run _ earlier
  obtain ⟨lost, same⟩ := run_of_lost (sound.hasLost published (by rw [named]; exact absent)) later
  rw [run_append]
  exact ⟨same, fun handle held =>
    ((sound.run later).shares.fits held).isInert (lost.withdrawn handle held)⟩

-- The list is deleted and created again, and the session, which has not heard of it yet, is told
-- that its feed has failed and is closed.
example : ((start "x" "id" 10).run [.tell .opened, .tell .rowsEnd, .tell (.event (.ok .ready)),
    .client (.deleteList "x"), .client (.take "x"), .client (.edit 0 (.set ["a"])),
    .tell (.event (.error (.feed "lost"))), .cancel, .finish]).life.board.entries? "x" =
    some ["a"] := rfl

end Company

end Session

end LiveSearch
