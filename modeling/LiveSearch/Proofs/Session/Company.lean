import LiveSearch.Proofs.Board.Clients
import LiveSearch.Proofs.Session.Lifecycle

/-! # A session among other clients

A session shares its board with clients that may write any list, the list of the session included.
Acts of the session and of the clients interleave freely (`LiveSearch.Session.Company.run`): an act
of a client is one call, an act of the session what its worker does from one wait to the next, or a
part of its closing. Whatever happens, the handle that the session holds is one of the handles that
the board has given out, and unless the session has failed to publish its list it is not pending
(`LiveSearch.Session.Shares`, `LiveSearch.Session.Company.IsSound`).
-/

namespace LiveSearch

namespace Session

/-- The handle of a session has been given out by the board beside the handles of others. It is for
the list of the session, and pending only while the session has failed to publish the list. -/
structure Shares (session : Session) (board : Board) (others : List Handle) : Prop where
  issued : board.Issued (session.phase.handle?.toList ++ others)
  named : ∀ handle, session.phase.handle? = some handle → handle.name = session.name
  following : ∀ handle entries, session.phase = .following handle entries → handle.pending = false
  settled : ∀ handle, session.phase.handle? = some handle → handle.pending = true →
    ∃ cause, session.state = .failed (.initialRetrieval cause)

namespace Shares

variable {session : Session} {board : Board} {others : List Handle}

/-- The handle of the session fits the board. -/
theorem fits (shares : session.Shares board others) {handle : Handle}
    (held : session.phase.handle? = some handle) : handle.Fits board :=
  shares.issued.fit handle (List.mem_append_left _ (Option.mem_toList.mpr held))

/-- A handle that is not pending has been withdrawn, or is the handle of the list of the session. -/
theorem standing (shares : session.Shares board others) {handle : Handle}
    (held : session.phase.handle? = some handle) (settled : handle.pending = false) :
    board.isWithdrawn handle = true ∨ ∃ list : PublishedList,
      board.lists[session.name]? = some list ∧ list.incarnation = handle.incarnation := by
  rw [← shares.named handle held]
  exact (shares.fits held).standing settled

/-- The handles of others do not depend on the session. -/
theorem rest (shares : session.Shares board others) : board.Issued others :=
  shares.issued.sublist (List.sublist_append_right _ _)

/-- A session without a handle shares the board. -/
theorem of_none (issued : board.Issued others) (none : session.phase.handle? = .none) :
    session.Shares board others where
  issued := by
    rw [none]
    exact issued
  named _ held := nomatch none.symm.trans held
  following handle entries following := by
    rw [following] at none
    exact nomatch none
  settled _ held := nomatch none.symm.trans held

/-- A session whose handle is not pending shares the board. -/
theorem of_settled {handle : Handle} (issued : board.Issued (handle :: others))
    (held : session.phase.handle? = some handle) (named : handle.name = session.name)
    (settled : handle.pending = false) : session.Shares board others where
  issued := by
    rw [held]
    exact issued
  named _ other := Option.some.inj (held.symm.trans other) ▸ named
  following other entries following := by
    rw [following] at held
    exact Option.some.inj held ▸ settled
  settled _ other pending := by
    obtain rfl := Option.some.inj (held.symm.trans other)
    exact absurd (settled.symm.trans pending) Bool.false_ne_true

/-- A session that has been refused the publication of its list keeps the handle that it has asked
for. -/
private theorem of_refused (issued : board.Issued others) (cause : ServiceError) :
    (session.ended (some (board.handleFor session.name).1)
      (.failed (.initialRetrieval cause))).Shares (board.handleFor session.name).2 others where
  issued := issued.take session.name
  named _ held := Option.some.inj held ▸ board.name_handleFor session.name
  following _ _ following := nomatch following
  settled _ _ _ := ⟨cause, rfl⟩

variable {signal : Signal} {after : Session} {written : Board}

/-- A session that is told something goes on sharing the board. -/
theorem outcome (shares : session.Shares board others)
    (outcome : session.Outcome board signal after written) : after.Shares written others := by
  cases outcome.effect shares.following with
  | unchanged => exact shares
  | gathered phase early still exact =>
      exact .of_none shares.rest (Phase.handle?_of_isEarly still)
  | abandoned state early => exact .of_none shares.rest rfl
  | published keys merging =>
      rcases session.publish_cases board keys with
        ⟨cause, _, refused⟩ | ⟨list, found, adopted⟩ | ⟨absent, created⟩
      · rw [refused]
        exact .of_refused shares.rest cause
      · have taken := shares.rest.take session.name
        rw [board.handleFor_of_found found] at taken
        rw [adopted]
        have issued : board.Issued (⟨session.name, list.incarnation, false⟩ :: others) := taken
        exact .of_settled (issued.rewritten (fun _ => keys.toList) (.set session.name keys.toList)
          found) rfl rfl rfl
      · have taken := shares.rest.take session.name
        rw [board.handleFor_of_absent absent] at taken
        rw [created]
        have issued : board.reserve.Issued
            (⟨session.name, board.nextIncarnation, true⟩ :: others) := taken
        exact .of_settled (issued.created (fun _ => keys.toList) (.set session.name keys.toList)
          absent rfl) rfl rfl rfl
  | edited handle entries edit write list following edits found =>
      have held : session.phase.handle? = some handle := by
        rw [following]
        rfl
      have issued := shares.issued
      rw [held] at issued
      exact .of_settled (issued.rewritten edit write found) rfl (shares.named handle held)
        (shares.following handle entries following)
  | left handle entries state following =>
      have held : session.phase.handle? = some handle := by
        rw [following]
        rfl
      have issued := shares.issued
      rw [held] at issued
      exact .of_settled issued rfl (shares.named handle held)
        (shares.following handle entries following)
  | detached handle entries following => exact .of_none shares.rest rfl

/-- A session that is closed goes on sharing the board. -/
theorem finishClosing (shares : session.Shares board others) :
    (session.finishClosing board).1.Shares (session.finishClosing board).2 others := by
  refine .of_none ?_ rfl
  unfold Session.finishClosing
  dsimp only
  split
  · rename_i handle stopped
    split
    · exact shares.rest
    · have issued := shares.issued
      rw [stopped] at issued
      exact issued.delete.sublist (List.sublist_cons_self _ _)
  · exact shares.rest

end Shares

/-- The life of a session, and the handles of the other clients of its board. -/
structure Company where
  life : Life
  handles : List Handle

namespace Company

/-- Something that the session or another client does. -/
inductive Act
  /-- The worker of the session is told something. -/
  | tell (signal : Signal)
  /-- The closing of the session begins. -/
  | cancel
  /-- The closing of the session comes to its end if the worker has ended. -/
  | finish
  | client (act : Clients.Act)

namespace Act

/-- What another client does. -/
def client? : Act → Option Clients.Act
  | client act => some act
  | _ => none

/-- The session does it itself. -/
def IsOwn (act : Act) : Prop := act.client? = none

end Act

/-- The board and the handles of the other clients. -/
def clients (company : Company) : Clients := ⟨company.life.board, company.handles⟩

/-- A session that has just been started, on a board without lists and handles. -/
def start (name primaryKey : String) (capacity : Nat) : Company :=
  ⟨.start name primaryKey (.empty capacity), []⟩

/-- The company after an act. -/
def after (company : Company) : Act → Company
  | .tell signal => { company with life := company.life.after (.tell signal) }
  | .cancel => { company with life := company.life.after .cancel }
  | .finish => { company with life := company.life.after .finish }
  | .client act =>
    ⟨company.life.after (.elsewhere (company.clients.after act).board),
      (company.clients.after act).handles⟩

/-- The company after several acts. -/
def run (company : Company) (acts : List Act) : Company := acts.foldl after company

theorem run_append (company : Company) (first second : List Act) :
    company.run (first ++ second) = (company.run first).run second :=
  List.foldl_append

/-- The states of the session are in step with its phase, and it shares the board. -/
structure IsSound (company : Company) : Prop where
  life : company.life.IsSound
  shares : company.life.session.Shares company.life.board company.handles

variable {company : Company}

theorem start_isSound (name primaryKey : String) (capacity : Nat) :
    (start name primaryKey capacity).IsSound where
  life := Life.start_isSound name primaryKey (.empty capacity)
  shares := .of_none (Clients.issued_start capacity) rfl

namespace IsSound

theorem step (sound : company.IsSound) (act : Act) : (company.after act).IsSound := by
  cases act with
  | tell signal =>
      exact ⟨sound.life.step (.tell signal), sound.shares.outcome (receive_outcome _ _ signal)⟩
  | cancel =>
      refine ⟨sound.life.step .cancel, ?_⟩
      exact ⟨sound.shares.issued, sound.shares.named, sound.shares.following,
        sound.shares.settled⟩
  | finish =>
      refine ⟨sound.life.step .finish, ?_⟩
      change (company.life.after .finish).session.Shares (company.life.after .finish).board _
      rcases company.life.finish_cases with same | ⟨_, _, finished⟩
      · rw [same]
        exact sound.shares
      · rw [finished]
        exact sound.shares.finishClosing
  | client act =>
      have issued : company.clients.board.Issued
          (company.life.session.phase.handle?.toList ++ company.clients.handles) :=
        sound.shares.issued
      exact ⟨sound.life.step (.elsewhere _), Clients.issued_after _ issued act,
        sound.shares.named, sound.shares.following, sound.shares.settled⟩

/-- A session that has failed before it had a list has never been ready. -/
theorem unready (sound : company.IsSound) {cause : ServiceError}
    (failed : company.life.session.state = .failed (.initialRetrieval cause)) :
    .ready ∉ company.life.states := by
  have current := sound.life.current
  have lifecycle := sound.life.lifecycle
  rw [failed] at current
  generalize company.life.states = states at current lifecycle
  cases lifecycle with
  | refused cause => exact fun ready => by simp at ready
  | _ => exact nomatch Option.some.inj current

theorem run (sound : company.IsSound) (acts : List Act) : (company.run acts).IsSound := by
  induction acts generalizing company with
  | nil => exact sound
  | cons act rest ih => exact ih (sound.step act)

end IsSound

/-- The states that the session has gone through stay. -/
theorem states_after (company : Company) (act : Act) :
    company.life.states <+: (company.after act).life.states := by
  cases act with
  | tell signal => exact Life.IsSound.prefix_after (.tell signal)
  | cancel => exact Life.IsSound.prefix_after .cancel
  | finish => exact Life.IsSound.prefix_after .finish
  | client act => exact Life.IsSound.prefix_after (.elsewhere _)

theorem states_run (company : Company) (acts : List Act) :
    company.life.states <+: (company.run acts).life.states := by
  induction acts generalizing company with
  | nil => exact List.prefix_refl _
  | cons act rest ih => exact (company.states_after act).trans (ih (company.after act))

/-- A session keeps its name. -/
theorem name_run (company : Company) (acts : List Act) :
    (company.run acts).life.session.name = company.life.session.name := by
  induction acts generalizing company with
  | nil => rfl
  | cons act rest ih =>
      refine (ih (company.after act)).trans ?_
      cases act with
      | tell signal => exact (receive_outcome _ _ signal).keeps.1
      | cancel => rfl
      | client act => rfl
      | finish =>
          change (company.life.after .finish).session.name = _
          rcases company.life.finish_cases with same | ⟨_, _, finished⟩
          · rw [same]
          · rw [finished]
            rfl

end Company

end Session

end LiveSearch
