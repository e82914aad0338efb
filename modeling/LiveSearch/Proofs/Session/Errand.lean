import LiveSearch.Proofs.Board.Clients
import LiveSearch.Proofs.Session.Fit

/-! # What a session does at its board, lock by lock

Between two waits a session may use its board several times. To publish, it asks for a handle; to
write, it looks whether writes fail at present, looks whether its list has been deleted, and writes
the list; to delete the list when it is closed, it looks twice, takes the list away, and signals
this. Each of these uses is protected by a lock of its own, so that others can act between any two
of them. `LiveSearch.Errand.step` is one use. Where nobody interferes, all uses together come to
what the session does at a signal (`LiveSearch.Session.complete_attend`) or at its closing
(`LiveSearch.Session.complete_attendClosing`).
-/

namespace LiveSearch

/-- What a session has to do next at its board. -/
inductive Errand
  /-- Ask for a handle, to publish these entries through it. -/
  | take (entries : List String)
  /-- Look whether writes fail at present. -/
  | consult (handle : Handle) (edit : Handle.Edit)
  /-- Look whether the list has been deleted. -/
  | look (handle : Handle) (edit : Handle.Edit)
  /-- Write the list. -/
  | commit (handle : Handle) (edit : Handle.Edit)
  /-- Look whether there is still a list to delete. -/
  | inspect (handle : Handle)
  /-- Give up what a pending handle has reserved; with any other handle look once more. -/
  | verify (handle : Handle)
  /-- Take the list away. -/
  | unlist (name : String)
  /-- Signal that the list has been taken away. -/
  | signal (name : String) (incarnation : Nat)

/-- A session at its board, with what it has still to do there. -/
structure Visit where
  session : Session
  board : Board
  errand : Option Errand

namespace Session

/-- The entries that a session takes its list to hold. -/
def listed (session : Session) : List String :=
  match session.phase with
  | .following _ entries => entries
  | _ => []

/-- The session when a write has ended. -/
def conclude (session : Session) (handle : Handle) :
    Handle.Edit → Except ServiceError Unit → Session
  | .set _, .error cause => session.fail (.initialRetrieval cause) (some handle)
  | .set entries, .ok _ => { session with phase := .following handle entries, state := .ready }
  | _, .error cause => session.fail (.changeNotification cause) (some handle)
  | edit, .ok _ => session.goOn (.following handle (edit.apply session.listed))

/-- The session when its closing has ended. -/
def shut (session : Session) : Session :=
  let state := match session.state with
    | .failed error => .failed error
    | _ => .closed
  { session with phase := .stopped none, state, closed := true }

/-- What a session has to do at its board when it has been told a signal. -/
def attend (session : Session) (board : Board) (signal : Signal) : Visit :=
  match session.phase, signal with
  | .merging keys, .event (.ok .ready) => ⟨session, board, some (.take keys.toList)⟩
  | .following handle entries, .event (.ok (.change none (some record))) =>
    match keyOf? session.primaryKey record with
    | none => ⟨session, board, none⟩
    | some key =>
      if entries.contains key then ⟨session, board, none⟩
      else ⟨session, board, some (.consult handle (.add key))⟩
  | .following handle entries, .event (.ok (.change (some record) none)) =>
    match keyOf? session.primaryKey record with
    | none => ⟨session, board, none⟩
    | some key =>
      if entries.contains key then ⟨session, board, some (.consult handle (.remove key))⟩
      else ⟨session, board, none⟩
  | _, _ => ⟨(session.receive board signal).1, board, none⟩

/-- What a session has to do at its board when its worker has ended and it is closed. -/
def attendClosing (session : Session) (board : Board) : Visit :=
  match session.phase with
  | .stopped (some handle) => ⟨session, board, some (.inspect handle)⟩
  | _ => ⟨session.shut, board, none⟩

end Session

/-- One use of the board. -/
def Errand.step (session : Session) (board : Board) : Errand → Visit
  | take entries =>
    let (handle, board) := board.handleFor session.name
    ⟨session, board, some (.consult handle (.set entries))⟩
  | consult handle edit =>
    match board.failure with
    | some failure => ⟨session.conclude handle edit (.error failure), board, none⟩
    | none => ⟨session, board, some (.look handle edit)⟩
  | look handle edit =>
    if board.isWithdrawn handle then
      ⟨session.conclude handle edit (.error handle.gone), board, none⟩
    else ⟨session, board, some (.commit handle edit)⟩
  | commit handle edit =>
    let (handle, board, result) := handle.commit board edit.apply (edit.write handle.name)
    ⟨session.conclude handle edit result, board, none⟩
  | inspect handle =>
    if board.isWithdrawn handle then ⟨session.shut, board, none⟩
    else ⟨session, board, some (.verify handle)⟩
  | verify handle =>
    if handle.pending then ⟨session.shut, (handle.giveUp board).2, none⟩
    else if board.isWithdrawn handle then ⟨session.shut, board, none⟩
    else ⟨session, board, some (.unlist handle.name)⟩
  | unlist name =>
    match board.lists[name]? with
    | none => ⟨session.shut, board, none⟩
    | some list => ⟨session, board.unlist name, some (.signal name list.incarnation)⟩
  | signal name incarnation => ⟨session.shut, board.signal name incarnation, none⟩

namespace Visit

/-- The visit after one more use of the board. -/
def step (visit : Visit) : Visit :=
  match visit.errand with
  | none => visit
  | some errand => errand.step visit.session visit.board

/-- The visit after several uses of the board, with nobody else in between. -/
def complete (visit : Visit) : Nat → Visit
  | 0 => visit
  | uses + 1 => visit.step.complete uses

@[simp] theorem complete_of_none (session : Session) (board : Board) (uses : Nat) :
    complete ⟨session, board, none⟩ uses = ⟨session, board, none⟩ := by
  induction uses with
  | zero => rfl
  | succ uses ih => exact ih

end Visit

namespace Session

variable {session : Session} {board : Board}

/-- Three uses of the board make a write. -/
private theorem complete_consult (handle : Handle) (edit : Handle.Edit) (uses : Nat) :
    Visit.complete ⟨session, board, some (.consult handle edit)⟩ (uses + 3) =
      ⟨session.conclude (handle.perform board edit).1 edit (handle.perform board edit).2.2,
        (handle.perform board edit).2.1, none⟩ := by
  rw [handle.perform_eq]
  cases failing : board.failure with
  | some failure =>
      simp only [Visit.complete, Visit.step, Errand.step, Handle.write, failing,
        Visit.complete_of_none]
  | none =>
      cases gone : board.isWithdrawn handle with
      | true =>
          simp only [Visit.complete, Visit.step, Errand.step, Handle.write, failing, gone,
            ↓reduceIte, Visit.complete_of_none]
      | false =>
          simp only [Visit.complete, Visit.step, Errand.step, Handle.write, failing, gone,
            Bool.false_eq_true, ↓reduceIte, Visit.complete_of_none]

/-- Four uses of the board, the first of which gives a handle out, publish the list. -/
private theorem complete_take (keys : KeySet) :
    Visit.complete ⟨session, board, some (.take keys.toList)⟩ 4 =
      ⟨(session.publish board keys).1, (session.publish board keys).2, none⟩ := by
  change Visit.complete ⟨session, (board.handleFor session.name).2,
    some (.consult (board.handleFor session.name).1 (.set keys.toList))⟩ 3 = _
  rw [complete_consult _ _ 0]
  simp only [publish, Handle.perform]
  generalize Handle.setEntries _ _ _ = outcome
  obtain ⟨handle, written, result⟩ := outcome
  cases result <;> rfl

section Following

variable {handle : Handle} {entries : List String}
  (following : session.phase = .following handle entries) (record : Json)

include following

/-- What is done for a record that came into the selection. -/
private theorem complete_added :
    (session.attend board (.event (.ok (.change none (some record))))).complete 4 =
      ⟨(session.listRecord board handle entries record).1,
        (session.listRecord board handle entries record).2, none⟩ := by
  simp only [attend, following, listRecord]
  cases keyed : keyOf? session.primaryKey record with
  | none => rfl
  | some key =>
      cases present : entries.contains key with
      | true => simp only [present, ↓reduceIte, Visit.complete_of_none]
      | false =>
          simp only [present, Bool.false_eq_true, ↓reduceIte]
          rw [complete_consult _ _ 1, Handle.perform]
          generalize Handle.addEntry _ _ _ = outcome
          obtain ⟨handle, written, result⟩ := outcome
          cases result <;> simp only [conclude, listed, following, Handle.Edit.apply]

/-- What is done for a record that left the selection. -/
private theorem complete_removed :
    (session.attend board (.event (.ok (.change (some record) none)))).complete 4 =
      ⟨(session.unlistRecord board handle entries record).1,
        (session.unlistRecord board handle entries record).2, none⟩ := by
  simp only [attend, following, unlistRecord]
  cases keyed : keyOf? session.primaryKey record with
  | none => rfl
  | some key =>
      cases present : entries.contains key with
      | true =>
          simp only [present, Bool.not_true, Bool.false_eq_true, ↓reduceIte]
          rw [complete_consult _ _ 1, Handle.perform]
          generalize Handle.removeEntry _ _ _ = outcome
          obtain ⟨handle, written, result⟩ := outcome
          cases result <;> simp only [conclude, listed, following, Handle.Edit.apply]
      | false =>
          simp only [present, Bool.not_false, Bool.false_eq_true, ↓reduceIte,
            Visit.complete_of_none]

end Following

variable (session board) in
/-- A session uses its board when it publishes its list and when records come into the selection or
leave it. At all other signals the board stays as it is, and the session gets no handle. -/
private theorem signal_cases (signal : Signal) :
    (∃ keys, session.phase = .merging keys ∧ signal = .event (.ok .ready)) ∨
    (∃ handle entries record, session.phase = .following handle entries ∧
      signal = .event (.ok (.change none (some record)))) ∨
    (∃ handle entries record, session.phase = .following handle entries ∧
      signal = .event (.ok (.change (some record) none))) ∨
    (session.attend board signal = ⟨(session.receive board signal).1, board, none⟩ ∧
      (session.receive board signal).2 = board ∧
      ∀ handle, (session.receive board signal).1.phase.handle? = some handle →
        session.phase.handle? = some handle) := by
  by_cases publishes : ∃ keys, session.phase = .merging keys ∧ signal = .event (.ok .ready)
  · exact .inl publishes
  by_cases adds : ∃ handle entries record, session.phase = .following handle entries ∧
      signal = .event (.ok (.change none (some record)))
  · exact .inr (.inl adds)
  by_cases removes : ∃ handle entries record, session.phase = .following handle entries ∧
      signal = .event (.ok (.change (some record) none))
  · exact .inr (.inr (.inl removes))
  refine .inr (.inr (.inr ⟨?_, ?_⟩))
  · unfold attend
    split
    · rename_i keys merging
      exact absurd ⟨keys, merging, rfl⟩ publishes
    · rename_i handle entries record following
      exact absurd ⟨handle, entries, record, following, rfl⟩ adds
    · rename_i handle entries record following
      exact absurd ⟨handle, entries, record, following, rfl⟩ removes
    · rfl
  · have outcome := session.receive_outcome board signal
    generalize (session.receive board signal).1 = after,
      (session.receive board signal).2 = written at outcome ⊢
    cases outcome with
    | unchanged => exact ⟨rfl, fun _ => id⟩
    | gathered phase early still =>
        exact ⟨rfl, fun handle held => nomatch (Phase.handle?_of_isEarly still).symm.trans held⟩
    | abandoned state early => exact ⟨rfl, fun _ held => nomatch held⟩
    | published keys merging told => exact absurd ⟨keys, merging, told⟩ publishes
    | listed handle entries record following told =>
        exact absurd ⟨handle, entries, record, following, told⟩ adds
    | unlisted handle entries record following told =>
        exact absurd ⟨handle, entries, record, following, told⟩ removes
    | left handle entries state following =>
        refine ⟨rfl, fun other held => ?_⟩
        rw [following]
        exact held
    | detached handle entries following => exact ⟨rfl, fun _ held => nomatch held⟩

variable (session board) in
/-- At a signal a session begins to publish or to write, or it has nothing to do at its board. -/
theorem attend_cases (signal : Signal) :
    (∃ entries, session.attend board signal = ⟨session, board, some (.take entries)⟩) ∨
    (∃ handle edit, session.phase.handle? = some handle ∧
      session.attend board signal = ⟨session, board, some (.consult handle edit)⟩) ∨
    ∃ after : Session, session.attend board signal = ⟨after, board, none⟩ ∧
      after.name = session.name ∧
      ∀ handle, after.phase.handle? = some handle → session.phase.handle? = some handle := by
  have idle (same : session.attend board signal = ⟨session, board, none⟩) :
      ∃ after : Session, session.attend board signal = ⟨after, board, none⟩ ∧
        after.name = session.name ∧
        ∀ handle, after.phase.handle? = some handle → session.phase.handle? = some handle :=
    ⟨session, same, rfl, fun _ => id⟩
  rcases session.signal_cases board signal with
    ⟨keys, merging, rfl⟩ | ⟨handle, entries, record, following, rfl⟩ |
      ⟨handle, entries, record, following, rfl⟩ | ⟨same, _, held⟩
  · left
    exact ⟨keys.toList, by simp only [attend, merging]⟩
  · right
    cases keyed : keyOf? session.primaryKey record with
    | none => exact .inr (idle (by simp only [attend, following, keyed]))
    | some key =>
        cases present : entries.contains key with
        | true => exact .inr (idle (by simp only [attend, following, keyed, present, ↓reduceIte]))
        | false =>
            exact .inl ⟨handle, .add key, by rw [following]; rfl, by
              simp only [attend, following, keyed, present, Bool.false_eq_true, ↓reduceIte]⟩
  · right
    cases keyed : keyOf? session.primaryKey record with
    | none => exact .inr (idle (by simp only [attend, following, keyed]))
    | some key =>
        cases present : entries.contains key with
        | true =>
            exact .inl ⟨handle, .remove key, by rw [following]; rfl, by
              simp only [attend, following, keyed, present, ↓reduceIte]⟩
        | false =>
            exact .inr (idle (by
              simp only [attend, following, keyed, present, Bool.false_eq_true, ↓reduceIte]))
  · exact .inr (.inr ⟨_, same, (session.receive_outcome board signal).keeps.1, held⟩)

/-- What the session does at a signal is what it does at its board, use by use, if nobody
interferes. -/
theorem complete_attend (session : Session) (board : Board) (signal : Signal) :
    (session.attend board signal).complete 4 =
      ⟨(session.receive board signal).1, (session.receive board signal).2, none⟩ := by
  rcases session.signal_cases board signal with
    ⟨keys, merging, rfl⟩ | ⟨handle, entries, record, following, rfl⟩ |
      ⟨handle, entries, record, following, rfl⟩ | ⟨same, kept, _⟩
  · simp only [attend, merging, complete_take, receive, receiveMerging]
  · rw [complete_added following]
    simp only [receive, following, receiveFollowing]
  · rw [complete_removed following]
    simp only [receive, following, receiveFollowing]
  · rw [same, kept, Visit.complete_of_none]

/-- The end of the closing is what the session does at its board, use by use, if nobody
interferes. -/
theorem complete_attendClosing (session : Session) (board : Board) :
    (session.attendClosing board).complete 4 =
      ⟨(session.finishClosing board).1, (session.finishClosing board).2, none⟩ := by
  have ended : (session.finishClosing board).1 = session.shut := rfl
  rw [ended]
  unfold attendClosing
  split
  · rename_i handle stopped
    have left : (session.finishClosing board).2 =
        if board.isWithdrawn handle then board else (handle.delete board).2 := by
      simp only [finishClosing, stopped]
    rw [left]
    cases gone : board.isWithdrawn handle with
    | true => simp only [Visit.complete, Visit.step, Errand.step, gone, ↓reduceIte]
    | false =>
        cases pending : handle.pending with
        | true =>
            simp only [Visit.complete, Visit.step, Errand.step, gone, Bool.false_eq_true,
              ↓reduceIte, pending, Handle.delete]
        | false =>
            cases found : board.lists[handle.name]? with
            | none =>
                simp only [Visit.complete, Visit.step, Errand.step, gone, Bool.false_eq_true,
                  ↓reduceIte, pending, Handle.delete, Board.deleteList, found]
            | some list =>
                simp only [Visit.complete, Visit.step, Errand.step, gone, Bool.false_eq_true,
                  ↓reduceIte, pending, Handle.delete, Board.deleteList, found]
  · rename_i other
    have left : (session.finishClosing board).2 = board := by
      unfold finishClosing
      dsimp only
      split
      · exact absurd ‹_› (other _)
      · rfl
    rw [left, Visit.complete_of_none]

end Session

end LiveSearch
