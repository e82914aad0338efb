import LiveSearch.Proofs.Session.Company

/-! # Sessions that are refused their list

A session that fails before it has a list writes nothing, with one exception. When its publication
is refused while a list of its name exists, it keeps a handle for this list, which somebody else has
made. If the list is still the same when the session is closed, the closing deletes it
(`LiveSearch.Session.Company.refused_deletes_others`). This is the only way in which such a session
changes a list (`LiveSearch.Session.Company.spares_of_refused_iff`).
-/

namespace LiveSearch

namespace Board

/-- Nothing has been written between two moments of a board. -/
structure Unwritten (before after : Board) : Prop where
  lists : after.lists = before.lists
  journal : after.journal = before.journal
  writeRoom : after.writeRoom = before.writeRoom

theorem Unwritten.refl (board : Board) : board.Unwritten board := ⟨rfl, rfl, rfl⟩

theorem handleFor_unwritten (board : Board) (name : String) :
    board.Unwritten (board.handleFor name).2 := by
  unfold handleFor
  split
  · exact .refl board
  · exact ⟨rfl, rfl, rfl⟩

end Board

namespace Session

section Parts

variable {session after : Session} {board written : Board} {signal : Signal} {handle : Handle}

/-- Only a session that publishes its list changes its state when its feed is ready. -/
theorem merging_of_receive_ready
    (changed : (session.receive board (.event (.ok .ready))).1.state ≠ session.state) :
    ∃ keys, session.phase = .merging keys ∧
      session.receive board (.event (.ok .ready)) = session.publish board keys := by
  cases phase : session.phase with
  | merging keys => exact ⟨keys, rfl, by simp only [receive, phase, receiveMerging]⟩
  | opening => simp only [receive, phase, ne_eq, not_true_eq_false] at changed
  | collecting keys => simp only [receive, phase, ne_eq, not_true_eq_false] at changed
  | following handle entries =>
      simp only [receive, phase, receiveFollowing, ne_eq, not_true_eq_false] at changed
  | stopped owned => simp only [receive, phase, ne_eq, not_true_eq_false] at changed

/-- A signal writes nothing to the board, unless the session publishes its list or has done so. -/
theorem Outcome.unwritten (outcome : session.Outcome board signal after written)
    (early : ∀ handle entries, session.phase ≠ .following handle entries)
    (unready : after.state ≠ .ready) : board.Unwritten written := by
  cases outcome with
  | published keys merging =>
      rcases session.publish_cases board keys with
        ⟨cause, _, refused⟩ | ⟨list, _, adopted⟩ | ⟨_, created⟩
      · rw [refused]
        exact board.handleFor_unwritten session.name
      · rw [adopted] at unready
        exact absurd rfl unready
      · rw [created] at unready
        exact absurd rfl unready
  | listed handle entries record following => exact absurd following (early handle entries)
  | unlisted handle entries record following => exact absurd following (early handle entries)
  | _ => exact .refl board

/-- A worker that ends with a handle, but has not followed a list, had the handle already or is
refused the publication of its list. -/
theorem Outcome.held_cases (outcome : session.Outcome board signal after written)
    (early : ∀ handle entries, session.phase ≠ .following handle entries)
    (stopped : after.phase = .stopped (some handle)) :
    (after = session ∧ written = board) ∨
    (signal = .event (.ok .ready) ∧ session.phase.isEarly = true ∧
      ∃ cause, after.state = .failed (.initialRetrieval cause)) := by
  cases outcome with
  | unchanged => exact .inl ⟨rfl, rfl⟩
  | gathered phase _ still =>
      rw [show phase = .stopped (some handle) from stopped] at still
      exact absurd still Bool.false_ne_true
  | abandoned state => exact nomatch stopped
  | published keys merging told =>
      right
      refine ⟨told, by rw [merging]; rfl, ?_⟩
      rcases publish_turn board keys with ⟨owned, cause, same⟩ | ⟨owned, same⟩
      · rw [same]
        exact ⟨cause, rfl⟩
      · rw [same] at stopped
        exact nomatch stopped
  | listed handle entries record following => exact absurd following (early handle entries)
  | unlisted handle entries record following => exact absurd following (early handle entries)
  | left handle entries state following => exact absurd following (early handle entries)
  | detached handle entries following => exact absurd following (early handle entries)

/-- The closing of a session writes nothing, unless the session holds a handle that is not pending
and stands. -/
theorem finishClosing_unwritten (spent : ∀ handle, session.phase = .stopped (some handle) →
      handle.pending = false → board.isWithdrawn handle = true) :
    board.Unwritten (session.finishClosing board).2 := by
  unfold finishClosing
  dsimp only
  split
  · rename_i handle stopped
    split
    · exact .refl board
    · rename_i standing
      rcases handle.delete_cases board with ⟨_, same⟩ | ⟨_, _, same⟩ | ⟨settled, _, _⟩
      · rw [same]
        exact ⟨rfl, rfl, rfl⟩
      · rw [same]
        exact .refl board
      · exact absurd (spent handle stopped settled) standing
  · exact .refl board

end Parts

namespace Company

/-- No act of the session itself writes to the board. -/
def Spares (company : Company) (acts : List Act) : Prop :=
  ∀ front act back, acts = front ++ act :: back → act.IsOwn →
    (company.run front).life.board.Unwritten (company.run (front ++ [act])).life.board

/-- After some acts the session is refused the publication of its list, and a list of its name
exists then and through the acts in between. -/
structure RefusedBeside (company : Company) (front between : List Act) : Prop where
  waiting : (company.run front).life.session.state = .bootstrapping
  refused : ∃ cause, (company.run (front ++ [.tell (.event (.ok .ready))])).life.session.state =
    .failed (.initialRetrieval cause)
  kept : ∀ earlier, earlier <+: between →
    (company.run (front ++ .tell (.event (.ok .ready)) :: earlier)).life.board.lists[
      company.life.session.name]? ≠ none

variable {company : Company} {act : Act} {handle : Handle}

theorem run_concat (company : Company) (acts : List Act) (act : Act) :
    company.run (acts ++ [act]) = (company.run acts).after act :=
  company.run_append acts [act]

theorem run_append_cons (company : Company) (front : List Act) (act : Act) (back : List Act) :
    company.run (front ++ act :: back) = (company.run (front ++ [act])).run back := by
  rw [← run_append, List.append_assoc, List.singleton_append]

/-- A session that has not been ready yet was not ready before. -/
theorem unready_of_after (unready : .ready ∉ (company.after act).life.states) :
    .ready ∉ company.life.states :=
  fun ready => unready ((company.states_after act).subset ready)

namespace IsSound

/-- A session that follows a list has been ready. -/
theorem not_following (sound : company.IsSound) (unready : .ready ∉ company.life.states)
    (handle : Handle) (entries : List String) :
    company.life.session.phase ≠ .following handle entries := fun following => by
  rw [sound.life.following handle entries following] at unready
  exact unready (List.mem_cons_of_mem _ (List.mem_singleton_self _))

/-- An act of a session that does not become ready writes nothing, unless it is the end of a closing
and the session holds a handle that is not pending and stands. -/
theorem unwritten (sound : company.IsSound) (own : act.IsOwn)
    (unready : .ready ∉ (company.after act).life.states)
    (spent : act = .finish → company.life.session.cancelled = true →
      ∀ handle, company.life.session.phase = .stopped (some handle) → handle.pending = false →
        company.life.board.isWithdrawn handle = true) :
    company.life.board.Unwritten (company.after act).life.board := by
  cases act with
  | tell signal =>
      refine (receive_outcome _ _ signal).unwritten
        (sound.not_following (unready_of_after unready)) fun ready => unready ?_
      have current := (sound.step (.tell signal)).life.current
      rw [show (company.after (.tell signal)).life.session.state = .ready from ready] at current
      exact List.mem_of_getLast? current
  | cancel => exact .refl _
  | finish =>
      change company.life.board.Unwritten (company.life.after .finish).board
      rcases company.life.finish_cases with same | ⟨cancelled, _, finished⟩
      · rw [same]
        exact .refl _
      · rw [finished]
        exact finishClosing_unwritten (spent rfl cancelled)
  | client act => exact nomatch own

/-- A session that has ended with a handle had it already, or has just been refused the publication
of its list, if it has never been ready. -/
theorem held_cases (sound : company.IsSound) (unready : .ready ∉ (company.after act).life.states)
    (stopped : (company.after act).life.session.phase = .stopped (some handle)) :
    (company.life.session.phase = .stopped (some handle) ∧
      (company.life.board.isWithdrawn handle = true →
        (company.after act).life.board.isWithdrawn handle = true)) ∨
    (act = .tell (.event (.ok .ready)) ∧ company.life.session.state = .bootstrapping ∧
      ∃ cause, (company.after act).life.session.state = .failed (.initialRetrieval cause)) := by
  cases act with
  | tell signal =>
      rcases (receive_outcome company.life.session company.life.board signal).held_cases
        (sound.not_following (unready_of_after unready)) stopped with
        ⟨same, unwritten⟩ | ⟨rfl, early, refused⟩
      · left
        refine ⟨same ▸ stopped, fun gone => ?_⟩
        change (company.life.session.receive company.life.board signal).2.isWithdrawn handle = true
        rw [unwritten]
        exact gone
      · exact .inr ⟨rfl, sound.life.state_of_early early, refused⟩
  | cancel => exact .inl ⟨stopped, id⟩
  | finish =>
      left
      change (company.life.after .finish).session.phase = _ at stopped
      change _ ∧ (_ → (company.life.after .finish).board.isWithdrawn handle = true)
      rcases company.life.finish_cases with same | ⟨_, _, finished⟩
      · rw [same] at stopped ⊢
        exact ⟨stopped, id⟩
      · rw [finished] at stopped
        exact nomatch stopped
  | client act => exact .inl ⟨stopped, company.clients.withdrawn_after act⟩

/-- A session that holds a handle that is not pending and stands, but has never been ready, has been
refused the publication of its list, and since then the list has not been deleted. -/
theorem refusedBeside (sound : company.IsSound) (fresh : company.life.session.phase.handle? = none)
    (acts : List Act) (unready : .ready ∉ (company.run acts).life.states)
    (stopped : (company.run acts).life.session.phase = .stopped (some handle))
    (settled : handle.pending = false)
    (standing : (company.run acts).life.board.isWithdrawn handle = false) :
    ∃ front between, acts = front ++ .tell (.event (.ok .ready)) :: between ∧
      company.RefusedBeside front between := by
  induction acts using List.reverseRecOn with
  | nil =>
      rw [show company.life.session.phase = _ from stopped] at fresh
      exact nomatch fresh
  | append_singleton earlier act ih =>
      have present : (company.run (earlier ++ [act])).life.board.lists[
          company.life.session.name]? ≠ none := by
        have now := sound.run (earlier ++ [act])
        have held : (company.run (earlier ++ [act])).life.session.phase.handle? = some handle := by
          rw [stopped]
          rfl
        rw [← name_run company (earlier ++ [act])]
        rcases now.shares.standing held settled with gone | ⟨list, found, _⟩
        · exact absurd (standing.symm.trans gone) Bool.false_ne_true
        · exact Option.ne_none_iff_exists'.mpr ⟨list, found⟩
      have before := sound.run earlier
      rw [run_concat] at unready stopped standing
      rcases before.held_cases unready stopped with ⟨held, onward⟩ | ⟨rfl, waiting, refused⟩
      · have stood : (company.run earlier).life.board.isWithdrawn handle = false :=
          Bool.eq_false_iff.mpr fun gone =>
            Bool.false_ne_true (standing.symm.trans (onward gone))
        obtain ⟨front, between, rfl, beside⟩ :=
          ih (unready_of_after unready) held stood
        refine ⟨front, between ++ [act], by simp only [List.append_assoc, List.cons_append],
          beside.waiting, beside.refused, fun some begins => ?_⟩
        rcases List.prefix_concat_iff.mp begins with rfl | begins
        · simpa only [List.append_assoc, List.cons_append] using present
        · exact beside.kept some begins
      · refine ⟨earlier, [], rfl, waiting, ?_, fun some begins => ?_⟩
        · rw [run_concat]
          exact refused
        · rw [List.prefix_nil.mp begins]
          exact present

end IsSound

/-- The session holds a handle for the list of its name, which exists. -/
structure HoldsList (company : Company) (handle : Handle) : Prop where
  stopped : company.life.session.phase = .stopped (some handle)
  settled : handle.pending = false
  listed : ∃ list : PublishedList,
    company.life.board.lists[company.life.session.name]? = some list ∧
      list.incarnation = handle.incarnation

namespace HoldsList

/-- The end of the closing deletes the list. -/
theorem finish (holds : company.HoldsList handle) (sound : company.IsSound)
    (cancelled : company.life.session.cancelled = true) :
    (company.after .finish).life.board.lists[company.life.session.name]? = none := by
  obtain ⟨list, found, same⟩ := holds.listed
  have held : company.life.session.phase.handle? = some handle := by
    rw [holds.stopped]
    rfl
  have standing : company.life.board.isWithdrawn handle = false := by
    rw [Board.isWithdrawn, ← same]
    exact (sound.shares.issued.sound.listed _ list found).2
  have closing : company.life.session.phase.isStopped = true := by
    rw [holds.stopped]
    rfl
  change (company.life.after .finish).board.lists[company.life.session.name]? = none
  rw [Life.after_finish cancelled closing]
  change (company.life.session.finishClosing company.life.board).2.lists[_]? = none
  simp only [finishClosing, holds.stopped, standing, Bool.false_eq_true, ↓reduceIte]
  rcases handle.delete_cases company.life.board with ⟨pending, _⟩ | ⟨_, gone, _⟩ | ⟨_, _, deleted⟩
  · exact absurd (holds.settled.symm.trans pending) Bool.false_ne_true
  · exact absurd (standing.symm.trans gone) Bool.false_ne_true
  · rw [deleted, Board.lists_deleteList, if_pos (sound.shares.named handle held)]

/-- As long as the list exists nothing takes the handle away. -/
theorem after (holds : company.HoldsList handle) (sound : company.IsSound) (act : Act)
    (kept : (company.after act).life.board.lists[company.life.session.name]? ≠ none) :
    (company.after act).HoldsList handle := by
  have closing : company.life.session.phase.isStopped = true := by
    rw [holds.stopped]
    rfl
  cases act with
  | tell signal =>
      rw [Company.after, Life.after_tell_of_stopped closing]
      exact holds
  | cancel => exact ⟨holds.stopped, holds.settled, holds.listed⟩
  | finish =>
      cases cancelled : company.life.session.cancelled with
      | true => exact absurd (holds.finish sound cancelled) kept
      | false =>
          have waits : company.after .finish = company := by
            simp only [Company.after, Life.after, cancelled, Bool.false_and, Bool.false_eq_true,
              ↓reduceIte]
          rw [waits]
          exact holds
  | client act =>
      refine ⟨holds.stopped, holds.settled, ?_⟩
      obtain ⟨list, found, same⟩ := holds.listed
      obtain ⟨later, still⟩ := Option.ne_none_iff_exists'.mp kept
      exact ⟨later, still, (company.clients.incarnation_after act found still).trans same⟩

end HoldsList

/-- A session that is refused the publication of its list while the list exists holds a handle for
it. -/
theorem holdsList_of_refused (waiting : company.life.session.state = .bootstrapping)
    {cause : ServiceError}
    (failed : (company.after (.tell (.event (.ok .ready)))).life.session.state =
      .failed (.initialRetrieval cause))
    (kept : (company.after (.tell (.event (.ok .ready)))).life.board.lists[
      company.life.session.name]? ≠ none) :
    ∃ handle, (company.after (.tell (.event (.ok .ready)))).HoldsList handle := by
  have changed : (company.life.session.receive company.life.board (.event (.ok .ready))).1.state ≠
      company.life.session.state := fun equal => by cases failed.symm.trans (equal.trans waiting)
  obtain ⟨keys, _, same⟩ := merging_of_receive_ready changed
  have session : (company.after (.tell (.event (.ok .ready)))).life.session =
      (company.life.session.publish company.life.board keys).1 := congrArg Prod.fst same
  have board : (company.after (.tell (.event (.ok .ready)))).life.board =
      (company.life.session.publish company.life.board keys).2 := congrArg Prod.snd same
  rcases company.life.session.publish_cases company.life.board keys with
    ⟨_, _, refused⟩ | ⟨list, _, adopted⟩ | ⟨_, created⟩
  · rw [refused] at session board
    rw [board, Board.lists_handleFor] at kept
    obtain ⟨list, found⟩ := Option.ne_none_iff_exists'.mp kept
    rw [company.life.board.handleFor_of_found found] at session board
    refine ⟨⟨company.life.session.name, list.incarnation, false⟩, ?_, rfl, list, ?_, rfl⟩
    · rw [session]
      rfl
    · rw [session, board]
      exact found
  · rw [session, adopted] at failed
    cases failed
  · rw [session, created] at failed
    cases failed

/-- Such a session keeps its handle as long as the list exists. -/
theorem RefusedBeside.holdsList {front between : List Act}
    (beside : company.RefusedBeside front between) (sound : company.IsSound) :
    ∃ handle, (company.run (front ++ .tell (.event (.ok .ready)) :: between)).HoldsList handle := by
  induction between using List.reverseRecOn with
  | nil =>
      obtain ⟨cause, failed⟩ := beside.refused
      have kept := beside.kept [] List.nil_prefix
      rw [← name_run company front] at kept
      rw [run_concat] at failed kept ⊢
      exact holdsList_of_refused beside.waiting failed kept
  | append_singleton earlier act ih =>
      obtain ⟨handle, holds⟩ := ih ⟨beside.waiting, beside.refused, fun some begins =>
        beside.kept some (begins.trans (List.prefix_append _ _))⟩
      refine ⟨handle, ?_⟩
      have same : front ++ .tell (.event (.ok .ready)) :: (earlier ++ [act]) =
          front ++ .tell (.event (.ok .ready)) :: earlier ++ [act] := by
        simp only [List.append_assoc, List.cons_append]
      have kept := beside.kept (earlier ++ [act]) (List.prefix_refl _)
      rw [same, run_concat] at kept ⊢
      refine holds.after (sound.run _) act ?_
      rw [name_run]
      exact kept

/-- A session that has failed before it had a list has left all lists alone, exactly unless it was
refused the publication of its list beside a list of somebody else, and was closed while that list
still existed. -/
theorem spares_of_refused_iff (name primaryKey : String) (capacity : Nat) (acts : List Act)
    {cause : ServiceError}
    (failed : ((start name primaryKey capacity).run acts).life.session.state =
      .failed (.initialRetrieval cause)) :
    (start name primaryKey capacity).Spares acts ↔ ¬ ∃ front between back,
      acts = front ++ .tell (.event (.ok .ready)) :: (between ++ .finish :: back) ∧
        (start name primaryKey capacity).RefusedBeside front between ∧
        ((start name primaryKey capacity).run
          (front ++ .tell (.event (.ok .ready)) :: between)).life.session.cancelled = true := by
  have sound := start_isSound name primaryKey capacity
  have unready := (sound.run acts).unready failed
  have fresh : (start name primaryKey capacity).life.session.phase.handle? = none := rfl
  generalize start name primaryKey capacity = company at *
  constructor
  · rintro spares ⟨front, between, back, rfl, beside, cancelled⟩
    obtain ⟨handle, holds⟩ := beside.holdsList sound
    obtain ⟨list, found, _⟩ := holds.listed
    have gone := holds.finish (sound.run _) cancelled
    have kept := (spares (front ++ .tell (.event (.ok .ready)) :: between) .finish back
      (by simp only [List.append_assoc, List.cons_append]) rfl).lists
    rw [run_concat] at kept
    rw [kept] at gone
    exact nomatch gone.symm.trans found
  · rintro clear front act back rfl own
    rw [run_append_cons] at unready
    have since : .ready ∉ (company.run (front ++ [act])).life.states :=
      fun ready => unready ((states_run _ back).subset ready)
    rw [run_concat] at since ⊢
    refine (sound.run front).unwritten own since fun same cancelled handle stopped settled => ?_
    subst same
    by_contra standing
    obtain ⟨earlier, between, rfl, beside⟩ := sound.refusedBeside fresh front
      (unready_of_after since) stopped settled (Bool.eq_false_iff.mpr standing)
    exact clear ⟨earlier, between, back, by simp only [List.append_assoc, List.cons_append],
      beside, cancelled⟩

/-- Writing fails when the session wants to publish its list, and works again when its closing
begins. -/
def refusedActs : List Act :=
  [.tell .opened, .tell .rowsEnd,
    .client (.around ((Board.empty 10).setFailure (some (.publish "full")))),
    .tell (.event (.ok .ready)), .client (.around (.empty 10)), .cancel]

/-- A session that is refused the publication of its list, which does not exist, leaves all lists
alone. -/
theorem spares_of_refused_absent :
    ((start "x" "id" 10).run (refusedActs ++ [.finish])).life.session.state =
      .failed (.initialRetrieval (.publish "full")) ∧
    (start "x" "id" 10).Spares (refusedActs ++ [.finish]) := by
  have failed : ((start "x" "id" 10).run (refusedActs ++ [.finish])).life.session.state =
      .failed (.initialRetrieval (.publish "full")) := rfl
  refine ⟨failed, (spares_of_refused_iff "x" "id" 10 _ failed).mpr ?_⟩
  rintro ⟨front, between, back, same, beside, _⟩
  have absent : (refusedActs ++ [Act.finish]).inits.all fun acts =>
      ((start "x" "id" 10).run acts).life.board.lists["x"]?.isNone := by decide
  have begins : front ++ [.tell (.event (.ok .ready))] ∈
      (refusedActs ++ [Act.finish]).inits := by
    rw [same, List.mem_inits]
    exact ⟨between ++ .finish :: back, List.append_assoc ..⟩
  exact beside.kept [] List.nil_prefix (Option.isNone_iff_eq_none.mp
    (List.all_eq_true.mp absent _ begins))

/-- The same, after somebody else has made the list. -/
def refusedBesideActs : List Act :=
  .client (.take "x") :: .client (.edit 0 (.set ["a"])) :: refusedActs

/-- When the list has been made by somebody else, the session deletes it as it is closed. -/
theorem refused_deletes_others :
    ((start "x" "id" 10).run refusedBesideActs).life.session.state =
      .failed (.initialRetrieval (.publish "full")) ∧
    ((start "x" "id" 10).run refusedBesideActs).life.board.entries? "x" = some ["a"] ∧
    ((start "x" "id" 10).run (refusedBesideActs ++ [.finish])).life.session.state =
      .failed (.initialRetrieval (.publish "full")) ∧
    ((start "x" "id" 10).run (refusedBesideActs ++ [.finish])).life.board.entries? "x" = none ∧
    ¬ (start "x" "id" 10).Spares (refusedBesideActs ++ [.finish]) := by
  refine ⟨rfl, rfl, rfl, rfl, fun spares => ?_⟩
  have kept := (spares refusedBesideActs .finish [] rfl rfl).lists
  have present := congrArg (fun lists => (lists["x"]?).isSome) kept
  exact absurd present (by decide)

end Company

end Session

end LiveSearch
