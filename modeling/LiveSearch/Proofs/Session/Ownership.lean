import LiveSearch.Proofs.Session.Fit

/-! # Whose list it is

A session that alone writes the list of its name owns it: as long as the list exists it is the one
that the session has published (`LiveSearch.Session.Owns`), and so every signal keeps it
(`LiveSearch.Session.Outcome.owns`). It tends its list (`LiveSearch.Session.Tends`) until it has
been closed, and then the list is gone (`LiveSearch.Session.Tends.lists_finishClosing`).
-/

namespace LiveSearch

namespace Session

/-- The list of the session, if it exists, has been published by the session, and holds no entry
twice. -/
def Owns (session : Session) (board : Board) : Prop :=
  ∀ list : PublishedList, board.lists[session.name]? = some list →
    list.entries.Nodup ∧ ∃ handle, session.phase.handle? = some handle ∧
      handle.pending = false ∧ handle.incarnation = list.incarnation

variable {session : Session} {board : Board}

theorem Owns.of_absent (absent : board.lists[session.name]? = none) : session.Owns board :=
  fun _ found => nomatch absent.symm.trans found

/-- Before publication the list does not exist. -/
theorem Owns.absent (owns : session.Owns board) (none : session.phase.handle? = .none) :
    board.lists[session.name]? = .none := by
  cases found : board.lists[session.name]? with
  | none => rfl
  | some list =>
      obtain ⟨_, handle, held, _⟩ := owns list found
      exact nomatch none.symm.trans held

/-- A list whose incarnation has been withdrawn does not exist. -/
theorem Owns.absent_of_withdrawn (owns : session.Owns board) (sound : board.IsSound)
    {handle : Handle} (held : session.phase.handle? = some handle)
    (withdrawn : board.isWithdrawn handle = true) : board.lists[session.name]? = none := by
  cases found : board.lists[session.name]? with
  | none => rfl
  | some list =>
      obtain ⟨_, owner, owned, _, same⟩ := owns list found
      obtain rfl := Option.some.inj (held.symm.trans owned)
      rw [Board.isWithdrawn, same, (sound.listed session.name list found).2] at withdrawn
      exact absurd withdrawn Bool.false_ne_true

/-- What happens to lists of other names does not matter. -/
theorem Owns.frame (owns : session.Owns board) {after : Board}
    (same : after.lists[session.name]? = board.lists[session.name]?) : session.Owns after :=
  fun list found => owns list (same.symm.trans found)

theorem Owns.withdraw (owns : session.Owns board) {after : Board}
    (withdraws : board.Withdraws after) : session.Owns after :=
  fun list found => owns list (withdraws.lists session.name list found)

/-- A session that follows a list owns it if it is the list of the handle. -/
private theorem Owns.following (sound : board.IsSound) (fits : session.Fits board) {handle : Handle}
    {entries : List String} (following : session.phase = .following handle entries)
    (same : ∀ list : PublishedList, board.lists[session.name]? = some list →
      list.incarnation = handle.incarnation) : session.Owns board := by
  intro list found
  obtain ⟨settled, nodup, listed⟩ := fits.mirrored handle entries following
  refine ⟨?_, handle, by rw [following]; rfl, settled, (same list found).symm⟩
  rcases listed with withdrawn | present
  · rw [Board.isWithdrawn, ← same list found, (sound.listed session.name list found).2] at withdrawn
    exact absurd withdrawn Bool.false_ne_true
  · rw [Option.some.inj (found.symm.trans present)]
    exact nodup

variable {signal : Signal} {after : Session} {written : Board}

/-- Every signal leaves a session with its list, unless the list has been deleted. -/
theorem Outcome.owns (outcome : session.Outcome board signal after written) (sound : board.IsSound)
    (fits : session.Fits board) (owns : session.Owns board)
    (lost : ∀ handle entries, session.phase = .following handle entries →
      after.phase = .stopped none → board.isWithdrawn handle = true) : after.Owns written := by
  have soundAfter := outcome.isSound sound fits
  have fitsAfter := outcome.fits sound fits
  have absent (early : session.phase.isEarly = true) := owns.absent (Phase.handle?_of_isEarly early)
  -- A change of the list leaves it in the incarnation of the handle.
  have rewritten {handle : Handle} {entries others : List String} {list : PublishedList}
      {edit : List String → List String} {write : ListWrite}
      (following : session.phase = .following handle entries)
      (found : board.lists[handle.name]? = some list)
      (goOn : after = session.goOn (.following handle others))
      (same : written = handle.rewritten board edit write list) : after.Owns written := by
    have held : session.phase.handle? = some handle := by
      rw [following]
      rfl
    have named := fits.named handle held
    have follows : after.phase = .following handle others := by
      rw [goOn]
      rfl
    refine Owns.following soundAfter fitsAfter follows fun other present => ?_
    rw [same, goOn] at present
    change (handle.rewritten board edit write list).lists[session.name]? = some other at present
    rw [Handle.lists_rewritten, if_pos named] at present
    rw [named] at found
    obtain ⟨_, owner, owned, _, incarnation⟩ := owns list found
    obtain rfl := Option.some.inj (held.symm.trans owned)
    rw [incarnation, ← Option.some.inj present]
  cases outcome.effect fits.settled with
  | unchanged => exact owns
  | gathered phase early still exact => exact .of_absent (absent early)
  | abandoned state early => exact .of_absent (absent early)
  | published keys merging =>
      have none := absent (by rw [merging]; rfl)
      rcases session.publish_cases board keys with
        ⟨cause, _, refused⟩ | ⟨list, found, _⟩ | ⟨_, created⟩
      · rw [refused]
        refine .of_absent ?_
        rw [Board.lists_handleFor]
        exact none
      · exact nomatch none.symm.trans found
      · rw [created] at soundAfter fitsAfter ⊢
        refine Owns.following soundAfter fitsAfter rfl fun other present => ?_
        change (Handle.created ⟨session.name, board.nextIncarnation, true⟩ board.reserve _ _).lists[
          session.name]? = some other at present
        rw [Handle.lists_created, if_pos rfl] at present
        rw [← Option.some.inj present]
  | edited handle entries edit write list following _ found =>
      exact rewritten following found rfl rfl
  | left handle entries state following =>
      intro list found
      obtain ⟨nodup, owner, owned, rest⟩ := owns list found
      rw [following] at owned
      exact ⟨nodup, owner, owned, rest⟩
  | detached handle entries following =>
      refine .of_absent (owns.absent_of_withdrawn sound ?_ (lost handle entries following rfl))
      rw [following]
      rfl

/-- A session gives its list up only when it is told that the list has been deleted. -/
theorem listDeleted_of_stopped {handle : Handle} {entries : List String}
    (following : session.phase = .following handle entries) (settled : handle.pending = false)
    {signal : Signal} (stopped : (session.receive board signal).1.phase = .stopped none) :
    signal = .listDeleted := by
  have unchanged : (session, board).1.phase ≠ .stopped none := fun now =>
    nomatch following.symm.trans now
  cases signal with
  | listDeleted => rfl
  | event item =>
      simp only [receive, following] at stopped
      cases item with
      | error cause => exact nomatch stopped
      | ok event =>
          cases event with
          | initial => exact absurd stopped unchanged
          | ready => exact absurd stopped unchanged
          | change old new =>
              cases old with
              | none =>
                  cases new with
                  | none => exact absurd stopped unchanged
                  | some record =>
                      change (session.listRecord board handle entries record).1.phase = _ at stopped
                      rcases session.listRecord_cases board settled record with
                        ⟨same, _⟩ | ⟨cause, _, refused⟩ | ⟨key, list, _, _, _, listed⟩
                      · rw [same] at stopped
                        exact absurd stopped unchanged
                      · rw [refused] at stopped
                        exact nomatch stopped
                      · rw [listed] at stopped
                        exact nomatch stopped
              | some left =>
                  cases new with
                  | some right => exact absurd stopped unchanged
                  | none =>
                      change (session.unlistRecord board handle entries left).1.phase = _ at stopped
                      rcases session.unlistRecord_cases board settled left with
                        ⟨same, _⟩ | ⟨cause, _, refused⟩ | ⟨key, list, _, _, _, unlisted⟩
                      · rw [same] at stopped
                        exact absurd stopped unchanged
                      · rw [refused] at stopped
                        exact nomatch stopped
                      · rw [unlisted] at stopped
                        exact nomatch stopped
  | cancelled =>
      simp only [receive, following] at stopped
      exact nomatch stopped
  | feedEnd =>
      simp only [receive, following] at stopped
      exact nomatch stopped
  | _ =>
      simp only [receive, following] at stopped
      exact absurd stopped unchanged

/-- A session that reports that it is detached has ended. -/
theorem stopped_of_detaches {signal : Signal} (reported : session.detaches signal = true) :
    (session.receive board signal).1.phase = .stopped none := by
  unfold detaches at reported
  split at reported
  · rename_i handle entries following
    simp only [receive, following, receiveFollowing]
  · exact absurd reported Bool.false_ne_true

/-- A session that has published its list does not bring it back when it has been deleted. -/
theorem Outcome.stays_absent (outcome : session.Outcome board signal after written)
    (fits : session.Fits board) (late : session.phase.isEarly = false)
    (absent : board.lists[session.name]? = none) :
    after.phase.isEarly = false ∧ written.lists[session.name]? = none := by
  have published {handle : Handle} {entries : List String} {list : PublishedList}
      (following : session.phase = .following handle entries)
      (found : board.lists[handle.name]? = some list) : False := by
    rw [fits.named handle (by rw [following]; rfl)] at found
    exact nomatch absent.symm.trans found
  cases outcome.effect fits.settled with
  | unchanged => exact ⟨late, absent⟩
  | gathered phase early still exact =>
      exact absurd (late.symm.trans early) Bool.false_ne_true
  | abandoned state early => exact absurd (late.symm.trans early) Bool.false_ne_true
  | published keys merging =>
      rw [merging] at late
      exact absurd late.symm Bool.false_ne_true
  | edited handle entries edit write list following _ found =>
      exact (published following found).elim
  | left handle entries state following => exact ⟨rfl, absent⟩
  | detached handle entries following => exact ⟨rfl, absent⟩

section Closing

/-- Closing a session changes nothing on the board, or withdraws the incarnation that the session
has reserved, or deletes its list. -/
private theorem finishClosing_cases (fits : session.Fits board) :
    ((session.finishClosing board).2 = board ∧
        ∀ handle, session.phase = .stopped (some handle) → board.isWithdrawn handle = true) ∨
      (∃ handle, session.phase = .stopped (some handle) ∧ handle.pending = true ∧
        (session.finishClosing board).2 =
          { board with withdrawn := board.withdrawn.insert handle.incarnation }) ∨
      (session.finishClosing board).2 = (board.deleteList session.name).1 := by
  cases phase : session.phase with
  | stopped owned =>
      cases owned with
      | none =>
          refine .inl ⟨?_, fun _ now => nomatch now⟩
          simp only [finishClosing, phase]
      | some handle =>
          have named := fits.named handle (by rw [phase]; rfl)
          cases gone : board.isWithdrawn handle with
          | true =>
              refine .inl ⟨?_, fun other now => ?_⟩
              · simp only [finishClosing, phase, gone, ↓reduceIte]
              · obtain rfl := Option.some.inj (Phase.stopped.inj now)
                exact gone
          | false =>
              cases pending : handle.pending with
              | true =>
                  refine .inr (.inl ⟨handle, rfl, pending, ?_⟩)
                  simp only [finishClosing, phase, gone, Bool.false_eq_true, ↓reduceIte,
                    Handle.delete, pending, Handle.giveUp]
              | false =>
                  refine .inr (.inr ?_)
                  simp only [finishClosing, phase, gone, Bool.false_eq_true, ↓reduceIte,
                    Handle.delete, pending, named]
  | _ =>
      refine .inl ⟨?_, fun _ now => nomatch now⟩
      simp only [finishClosing, phase]

theorem finishClosing_withdraws (fits : session.Fits board) :
    board.Withdraws (session.finishClosing board).2 := by
  rcases finishClosing_cases fits with ⟨same, _⟩ | ⟨handle, _, _, same⟩ | same
  · rw [same]
    exact .of_same rfl rfl rfl
  · rw [same]
    refine ⟨fun _ _ found => .inl found, fun _ _ found => found, fun incarnation gone => ?_, rfl⟩
    rw [Std.TreeSet.contains_insert, gone, Bool.or_true]
  · rw [same]
    exact board.deleteList_withdraws session.name

theorem finishClosing_isSound (sound : board.IsSound) (fits : session.Fits board) :
    (session.finishClosing board).2.IsSound := by
  rcases finishClosing_cases fits with ⟨same, _⟩ | ⟨handle, stopped, pending, same⟩ | same
  · rw [same]
    exact sound
  · have held : session.phase.handle? = some handle := by
      rw [stopped]
      rfl
    rw [same]
    refine ⟨fun name list found => ⟨(sound.listed name list found).1, ?_⟩,
      fun incarnation gone => ?_, sound.apart⟩
    · rw [Std.TreeSet.contains_insert, (sound.listed name list found).2, Bool.or_false,
        beq_eq_false_iff_ne, ne_eq, Std.LawfulEqCmp.compare_eq_iff_eq]
      exact (fits.reserved handle held pending name list found).symm
    · rw [Std.TreeSet.contains_insert, Bool.or_eq_true, beq_iff_eq,
        Std.LawfulEqCmp.compare_eq_iff_eq] at gone
      rcases gone with rfl | earlier
      · exact fits.known handle held
      · exact sound.withdrawn incarnation earlier
  · rw [same]
    exact sound.deleteList session.name

/-- Nobody hears of the closing of a session but observers. -/
theorem hearing_finishClosing (session : Session) (board : Board) :
    (session.finishClosing board).2.listeners = board.listeners ∧
      (session.finishClosing board).2.noticeRoom = board.noticeRoom ∧
      (session.finishClosing board).2.failure = board.failure := by
  unfold finishClosing
  dsimp only
  split
  · split
    · exact ⟨rfl, rfl, rfl⟩
    · rename_i handle _ standing
      simp only [Handle.delete, standing, Bool.false_eq_true, ↓reduceIte]
      split
      · exact ⟨rfl, rfl, rfl⟩
      · exact ⟨board.listeners_deleteList _, board.noticeRoom_deleteList _,
          board.failure_deleteList _⟩
  · exact ⟨rfl, rfl, rfl⟩

/-- When a session has been closed its list is gone, and no other list has been touched. -/
theorem lists_finishClosing (sound : board.IsSound) (fits : session.Fits board)
    (owns : session.Owns board) (stopped : session.phase.isStopped = true) (name : String) :
    (session.finishClosing board).2.lists[name]? =
      if session.name = name then none else board.lists[name]? := by
  have kept (absent : board.lists[session.name]? = none) :
      board.lists[name]? = if session.name = name then none else board.lists[name]? := by
    split
    · rename_i same
      exact same ▸ absent
    · rfl
  rcases finishClosing_cases fits with ⟨same, withdrawn⟩ | ⟨handle, phase, pending, same⟩ | same
  · rw [same]
    refine kept ?_
    cases phase : session.phase with
    | stopped owned =>
        cases owned with
        | none => exact owns.absent (by rw [phase]; rfl)
        | some handle =>
            exact owns.absent_of_withdrawn sound (by rw [phase]; rfl) (withdrawn handle phase)
    | _ =>
        rw [phase] at stopped
        exact absurd stopped Bool.false_ne_true
  · rw [same]
    refine kept ?_
    cases found : board.lists[session.name]? with
    | none => rfl
    | some list =>
        obtain ⟨_, owner, owned, settled, _⟩ := owns list found
        rw [phase] at owned
        obtain rfl := Option.some.inj owned
        rw [pending] at settled
        exact absurd settled.symm Bool.false_ne_true
  · rw [same, Board.lists_deleteList]

end Closing

section Tending

/-- The handle of a session fits the board. Until it is closed the session owns its list, and when
it is closed it has none. -/
structure Tends (session : Session) (board : Board) : Prop where
  fits : session.Fits board
  owns : session.closed = false → session.Owns board
  closed : session.closed = true → session.phase = .stopped none

/-- What is written to lists of other names does not matter. -/
theorem Tends.frame (tends : session.Tends board) {name : String} {after : Board}
    (written : board.WritesOnly name after)
    (different : session.closed = false → name ≠ session.name) : session.Tends after where
  fits := by
    cases closed : session.closed with
    | false => exact tends.fits.frame written (different closed)
    | true =>
        refine .of_none ?_ ?_ <;> rw [tends.closed closed]
        · trivial
        · rfl
  owns closed := (tends.owns closed).frame (written.lists _ (different closed))
  closed := tends.closed

theorem Tends.withdraw (tends : session.Tends board) {after : Board}
    (withdraws : board.Withdraws after) : session.Tends after where
  fits := tends.fits.withdraw withdraws
  owns closed := (tends.owns closed).withdraw withdraws
  closed := tends.closed

/-- A session that is told to end keeps its list until it does. -/
theorem Tends.cancel (tends : session.Tends board) : session.cancel.Tends board where
  fits := ⟨tends.fits.exact, tends.fits.named, tends.fits.known, tends.fits.reserved,
    tends.fits.standing, tends.fits.mirrored⟩
  owns := tends.owns
  closed := tends.closed

/-- A session that has been closed has no list. -/
theorem tends_finishClosing (session : Session) (board after : Board) :
    (session.finishClosing board).1.Tends after where
  fits := .of_none trivial rfl
  owns closed := absurd closed.symm Bool.false_ne_true
  closed _ := rfl

/-- Closing a session takes its list from the board and no other one; a session that has been closed
before has none. -/
theorem Tends.lists_finishClosing (tends : session.Tends board) (sound : board.IsSound)
    (stopped : session.phase.isStopped = true) {name : String} {list : PublishedList}
    (found : (session.finishClosing board).2.lists[name]? = some list) :
    board.lists[name]? = some list ∧ (name = session.name → session.closed = true) := by
  cases closed : session.closed with
  | true =>
      simp only [finishClosing, tends.closed closed] at found
      exact ⟨found, fun _ => rfl⟩
  | false =>
      rw [Session.lists_finishClosing sound tends.fits (tends.owns closed) stopped] at found
      split at found
      · exact nomatch found
      · rename_i different
        exact ⟨found, fun same => absurd same.symm different⟩

end Tending

end Session

end LiveSearch
