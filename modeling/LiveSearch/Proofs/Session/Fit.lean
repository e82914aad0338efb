import LiveSearch.Proofs.Session.Outcome

/-! # How a session and its board fit together

The handle that a session holds was handed out for its name; unless it is pending, its incarnation
has been withdrawn or is that of the list, and a session that follows its list takes the list to
hold what it holds (`LiveSearch.Session.Fits`). Every signal keeps it so
(`LiveSearch.Session.Outcome.fits`), and what other sessions write does not disturb it
(`LiveSearch.Session.Fits.frame`).
-/

namespace LiveSearch

namespace Phase

/-- The handle that a worker holds or has left behind. -/
def handle? : Phase → Option Handle
  | following handle _ => some handle
  | stopped owned => owned
  | _ => none

/-- A phase before publication has no handle. -/
theorem handle?_of_isEarly {phase : Phase} (early : phase.isEarly = true) :
    phase.handle? = none := by
  cases phase with
  | following handle entries => exact absurd early Bool.false_ne_true
  | stopped owned => exact absurd early Bool.false_ne_true
  | _ => rfl

end Phase

namespace Session

/-- The handle of a session fits the board. -/
structure Fits (session : Session) (board : Board) : Prop where
  exact : session.phase.IsExact
  named : ∀ handle, session.phase.handle? = some handle → handle.name = session.name
  known : ∀ handle, session.phase.handle? = some handle →
    handle.incarnation < board.nextIncarnation
  reserved : ∀ handle, session.phase.handle? = some handle → handle.pending = true →
    ∀ (name : String) (list : PublishedList), board.lists[name]? = some list →
      list.incarnation ≠ handle.incarnation
  standing : ∀ handle, session.phase.handle? = some handle → handle.pending = false →
    board.isWithdrawn handle = true ∨ ∃ list : PublishedList,
      board.lists[session.name]? = some list ∧ list.incarnation = handle.incarnation
  mirrored : ∀ handle entries, session.phase = .following handle entries →
    handle.pending = false ∧ entries.Nodup ∧
      (board.isWithdrawn handle = true ∨
        board.lists[session.name]? = some ⟨entries, handle.incarnation⟩)

variable {session : Session} {board : Board}

/-- A list that a session follows has been created. -/
theorem Fits.settled (fits : session.Fits board) (handle : Handle) (entries : List String)
    (following : session.phase = .following handle entries) : handle.pending = false :=
  (fits.mirrored handle entries following).1

/-- A session without a handle fits every board. -/
theorem Fits.of_none (exact : session.phase.IsExact) (none : session.phase.handle? = .none) :
    session.Fits board where
  exact := exact
  named _ held := nomatch none.symm.trans held
  known _ held := nomatch none.symm.trans held
  reserved _ held := nomatch none.symm.trans held
  standing _ held := nomatch none.symm.trans held
  mirrored handle entries following := by
    rw [following] at none
    exact nomatch none

/-- A session that leaves its list behind keeps its handle. -/
theorem Fits.leave (fits : session.Fits board) {handle : Handle} {entries : List String}
    (following : session.phase = .following handle entries) (state : SessionState) :
    (session.ended (some handle) state).Fits board := by
  have held : session.phase.handle? = some handle := by
    rw [following]
    rfl
  have same (other : Handle)
      (kept : (session.ended (some handle) state).phase.handle? = some other) :
      session.phase.handle? = some other := held.trans kept
  exact {
    exact := trivial
    named := fun other kept => fits.named other (same other kept)
    known := fun other kept => fits.known other (same other kept)
    reserved := fun other kept => fits.reserved other (same other kept)
    standing := fun other kept => fits.standing other (same other kept)
    mirrored := fun _ _ now => nomatch now }

/-- What others write to lists of other names does not disturb a session. -/
theorem Fits.frame (fits : session.Fits board) {name : String} {after : Board}
    (written : board.WritesOnly name after) (different : name ≠ session.name) :
    session.Fits after where
  exact := fits.exact
  named := fits.named
  known handle held := Nat.lt_of_lt_of_le (fits.known handle held) written.nextIncarnation
  reserved handle held pending other list found same := by
    obtain ⟨earlier, present, equal⟩ :=
      written.incarnations other list found (same ▸ fits.known handle held)
    exact fits.reserved handle held pending other earlier present (equal.trans same)
  standing handle held settled := by
    rw [written.isWithdrawn, written.lists session.name different]
    exact fits.standing handle held settled
  mirrored handle entries following := by
    rw [written.isWithdrawn, written.lists session.name different]
    exact fits.mirrored handle entries following

/-- Every session knows of deletions. -/
theorem Fits.withdraw (fits : session.Fits board) {after : Board}
    (withdraws : board.Withdraws after) : session.Fits after where
  exact := fits.exact
  named := fits.named
  known handle held := withdraws.nextIncarnation ▸ fits.known handle held
  reserved handle held pending other list found :=
    fits.reserved handle held pending other list (withdraws.lists other list found)
  standing handle held settled := by
    rcases fits.standing handle held settled with withdrawn | ⟨list, found, same⟩
    · exact .inl (withdraws.withdrawn _ withdrawn)
    · rcases withdraws.kept session.name list found with still | withdrawn
      · exact .inr ⟨list, still, same⟩
      · rw [same] at withdrawn
        exact .inl withdrawn
  mirrored handle entries following := by
    obtain ⟨settled, nodup, listed⟩ := fits.mirrored handle entries following
    refine ⟨settled, nodup, ?_⟩
    rcases listed with withdrawn | found
    · exact .inl (withdraws.withdrawn _ withdrawn)
    · exact (withdraws.kept session.name _ found).symm

/-- One write changes the list as it changes the entries. -/
private theorem Fits.rewrite (fits : session.Fits board) {handle : Handle} {entries : List String}
    (following : session.phase = .following handle entries) (edit : List String → List String)
    (write : ListWrite) (nodup : (edit entries).Nodup) {list : PublishedList}
    (found : board.lists[handle.name]? = some list) :
    (session.goOn (.following handle (edit entries))).Fits
      (handle.rewritten board edit write list) := by
  have held : session.phase.handle? = some handle := by
    rw [following]
    rfl
  have named := fits.named handle held
  have written := Handle.rewritten_writesOnly edit write found
  obtain ⟨settled, _, listed⟩ := fits.mirrored handle entries following
  have after : board.isWithdrawn handle = true ∨
      (handle.rewritten board edit write list).lists[session.name]? =
        some ⟨edit entries, handle.incarnation⟩ := by
    rcases listed with withdrawn | present
    · exact .inl withdrawn
    · right
      rw [named, present] at found
      rw [Handle.lists_rewritten, if_pos named, ← Option.some.inj found]
  refine ⟨trivial, fun other kept => ?_, fun other kept => ?_, fun other kept pending => ?_,
    fun other kept _ => ?_, fun other others now => ?_⟩
  · exact Option.some.inj kept ▸ named
  · exact Nat.lt_of_lt_of_le (Option.some.inj kept ▸ fits.known handle held) written.nextIncarnation
  · rw [← Option.some.inj kept, settled] at pending
    exact absurd pending Bool.false_ne_true
  · rw [← Option.some.inj kept, written.isWithdrawn]
    rcases after with withdrawn | present
    · exact .inl withdrawn
    · exact .inr ⟨_, present, rfl⟩
  · obtain ⟨rfl, rfl⟩ := Phase.following.inj now
    rw [written.isWithdrawn]
    exact ⟨settled, nodup, after⟩

/-- A list that has just been published holds the gathered keys. -/
private theorem Fits.ready {handle : Handle} {entries : List String}
    (named : handle.name = session.name)
    (known : handle.incarnation < board.nextIncarnation) (settled : handle.pending = false)
    (nodup : entries.Nodup)
    (listed : board.lists[session.name]? = some ⟨entries, handle.incarnation⟩) :
    (session.ready handle entries).Fits board := by
  refine ⟨trivial, fun other kept => ?_, fun other kept => ?_, fun other kept pending => ?_,
    fun other kept _ => ?_, fun other others now => ?_⟩
  · exact Option.some.inj kept ▸ named
  · exact Option.some.inj kept ▸ known
  · rw [← Option.some.inj kept, settled] at pending
    exact absurd pending Bool.false_ne_true
  · rw [← Option.some.inj kept]
    exact .inr ⟨_, listed, rfl⟩
  · obtain ⟨rfl, rfl⟩ := Phase.following.inj now
    exact ⟨settled, nodup, .inr listed⟩

/-- When publishing is refused the session still has the handle that it asked for. -/
private theorem Fits.refused (sound : board.IsSound) (state : SessionState) :
    (session.ended (some (board.handleFor session.name).1) state).Fits
      (board.handleFor session.name).2 := by
  cases found : board.lists[session.name]? with
  | some list =>
      rw [board.handleFor_of_found found]
      refine ⟨trivial, fun other kept => ?_, fun other kept => ?_, fun other kept pending => ?_,
        fun other kept _ => ?_, fun _ _ now => by cases now⟩
      · exact Option.some.inj kept ▸ rfl
      · exact Option.some.inj kept ▸ (sound.listed session.name list found).1
      · rw [← Option.some.inj kept] at pending
        exact absurd pending Bool.false_ne_true
      · exact Option.some.inj kept ▸ .inr ⟨list, found, rfl⟩
  | none =>
      rw [board.handleFor_of_absent found]
      refine ⟨trivial, fun other kept => ?_, fun other kept => ?_,
        fun other kept _ name list found => ?_, fun other kept settled => ?_,
        fun _ _ now => by cases now⟩
      · exact Option.some.inj kept ▸ rfl
      · exact Option.some.inj kept ▸ Nat.lt_succ_self _
      · exact Option.some.inj kept ▸ Nat.ne_of_lt (sound.listed name list found).1
      · rw [← Option.some.inj kept] at settled
        exact absurd settled.symm Bool.false_ne_true

variable {signal : Signal} {after : Session} {written : Board}

/-- Every signal leaves a session fit for its board. -/
theorem Outcome.fits (outcome : session.Outcome board signal after written) (sound : board.IsSound)
    (fits : session.Fits board) : after.Fits written := by
  cases outcome.effect fits.settled with
  | unchanged => exact fits
  | gathered phase early still exact =>
      exact .of_none (exact fits.exact) (Phase.handle?_of_isEarly still)
  | abandoned state early => exact .of_none trivial rfl
  | published keys merging =>
      have exact : keys.IsExact := by
        have exact := fits.exact
        rw [merging] at exact
        exact exact
      rcases session.publish_cases board keys with
        ⟨cause, _, refused⟩ | ⟨list, found, adopted⟩ | ⟨absent, created⟩
      · rw [refused]
        exact .refused sound _
      · rw [adopted]
        refine .ready rfl ?_ rfl exact.nodup_toList ?_
        · exact Nat.lt_of_lt_of_le (sound.listed session.name list found).1
            (Handle.rewritten_writesOnly _ _ found).nextIncarnation
        · rw [Handle.lists_rewritten, if_pos rfl]
      · rw [created]
        refine .ready rfl ?_ rfl exact.nodup_toList ?_
        · unfold Handle.created
          rw [Board.nextIncarnation_record]
          exact Nat.lt_succ_self _
        · rw [Handle.lists_created, if_pos rfl]
  | edited handle entries edit write list following edits found =>
      obtain ⟨_, nodup, _⟩ := fits.mirrored handle entries following
      exact fits.rewrite following edit write (edits.nodup nodup) found
  | left handle entries state following => exact fits.leave following state
  | detached handle entries following => exact .of_none trivial rfl

/-- A session that follows a list after a signal has followed it before or has just published it. -/
theorem Outcome.following_cases (outcome : session.Outcome board signal after written)
    (fits : session.Fits board) {handle : Handle} {entries : List String}
    (following : after.phase = .following handle entries) :
    (∃ others, session.phase = .following handle others) ∨
      ∃ keys, session.phase = .merging keys ∧ after = (session.publish board keys).1 ∧
        written = (session.publish board keys).2 := by
  cases outcome.effect fits.settled with
  | unchanged => exact .inl ⟨entries, following⟩
  | gathered phase early still exact =>
      have same : phase = .following handle entries := following
      rw [same] at still
      exact absurd still Bool.false_ne_true
  | abandoned state early => exact nomatch following
  | published keys merging => exact .inr ⟨keys, merging, rfl, rfl⟩
  | edited owned others edit write list follows _ _ =>
      obtain ⟨rfl, _⟩ := Phase.following.inj following
      exact .inl ⟨others, follows⟩
  | left owned others state follows => exact nomatch following
  | detached owned others follows => exact nomatch following

/-- What a signal makes of the board: nothing, the handing out of an incarnation, a change of the
list of the session, or its creation. -/
theorem Outcome.written_cases (outcome : session.Outcome board signal after written)
    (fits : session.Fits board) :
    written = board ∨ written = (board.handleFor session.name).2 ∨
      (∃ (handle : Handle) (edit : List String → List String) (write : ListWrite)
        (list : PublishedList), handle.name = session.name ∧
          board.lists[handle.name]? = some list ∧
          written = handle.rewritten board edit write list) ∨
      ∃ (edit : List String → List String) (write : ListWrite), written =
        Handle.created ⟨session.name, board.nextIncarnation, true⟩ board.reserve edit write := by
  cases outcome.effect fits.settled with
  | published keys merging =>
      rcases session.publish_cases board keys with
        ⟨cause, _, refused⟩ | ⟨list, found, adopted⟩ | ⟨absent, created⟩
      · rw [refused]
        exact .inr (.inl rfl)
      · rw [adopted]
        exact .inr (.inr (.inl ⟨⟨session.name, list.incarnation, false⟩, fun _ => keys.toList,
          .set session.name keys.toList, list, rfl, found, rfl⟩))
      · rw [created]
        exact .inr (.inr (.inr ⟨fun _ => keys.toList, .set session.name keys.toList, rfl⟩))
  | edited handle entries edit write list following _ found =>
      have named : handle.name = session.name := fits.named handle (by rw [following]; rfl)
      exact .inr (.inr (.inl ⟨handle, edit, write, list, named, found, rfl⟩))
  | _ => exact .inl rfl

/-- A session writes no list but its own. -/
theorem Outcome.writesOnly (outcome : session.Outcome board signal after written)
    (fits : session.Fits board) : board.WritesOnly session.name written := by
  rcases outcome.written_cases fits with
    rfl | rfl | ⟨handle, edit, write, list, named, found, rfl⟩ | ⟨edit, write, rfl⟩
  · exact .refl _ written
  · exact board.handleFor_writesOnly session.name
  · rw [← named]
    exact handle.rewritten_writesOnly edit write found
  · have fresh : board.nextIncarnation ≤
        Handle.incarnation ⟨session.name, board.nextIncarnation, true⟩ := Nat.le_refl _
    exact Handle.created_writesOnly edit write fresh

/-- Every signal leaves the board sound. -/
theorem Outcome.isSound (outcome : session.Outcome board signal after written)
    (sound : board.IsSound) (fits : session.Fits board) : written.IsSound := by
  rcases outcome.written_cases fits with
    rfl | rfl | ⟨handle, edit, write, list, named, found, rfl⟩ | ⟨edit, write, rfl⟩
  · exact sound
  · exact sound.handleFor session.name
  · exact handle.rewritten_isSound sound edit write found
  · have known : Handle.incarnation ⟨session.name, board.nextIncarnation, true⟩ <
        board.reserve.nextIncarnation := Nat.lt_succ_self _
    refine Handle.created_isSound sound.reserve edit write known
      (sound.notWithdrawn (Nat.le_refl _)) fun name list found => ?_
    exact Nat.ne_of_lt (sound.listed name list found).1

end Session

end LiveSearch
