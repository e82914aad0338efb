import LiveSearch.Proofs.Session.Errand

/-! # Sessions that write the successor of their list

Others can use the board between any two uses of it by a session (`LiveSearch.Session.Crowd.run`).
Somebody can delete the list that the session has published when the session has just looked whether
it has been deleted, and create it again before the session writes it or takes it away. And if the
list that the session publishes into was created by somebody else after the session had asked for
its handle, the handle stays pending, and no look will tell the session that this list has been
deleted. In these cases the session goes on writing
(`LiveSearch.Session.Crowd.successor_written`), and in no others
(`LiveSearch.Session.Crowd.keepsOff_iff`). That its writes are all it does to the lists is
`LiveSearch.Session.Crowd.entries?_work`.
-/

namespace LiveSearch

namespace Errand

/-- What a session writes with its next use of the board, if it writes anything. -/
def written? (board : Board) : Errand → Option ListWrite
  | commit handle edit =>
    match (handle.commit board edit.apply (edit.write handle.name)).2.2 with
    | .ok _ => some (edit.write handle.name)
    | .error _ => none
  | unlist name => (board.lists[name]?).map fun _ => .delete name
  | _ => none

/-- The list of a handle is written next, or taken away. -/
def IsDue (handle : Handle) : Errand → Prop
  | commit other _ => other = handle
  | unlist name => name = handle.name ∧ handle.pending = false
  | _ => False

/-- Everything that is left to do concerns one name. -/
def IsFor (name : String) : Errand → Prop
  | take _ => True
  | consult handle _ => handle.name = name
  | look handle _ => handle.name = name
  | commit handle _ => handle.name = name
  | inspect handle => handle.name = name
  | verify handle => handle.name = name
  | unlist other => other = name
  | signal other _ => other = name

end Errand

/-- A session uses the board for the list of its name only. -/
structure Visit.IsFor (visit : Visit) (name : String) : Prop where
  session : visit.session.name = name
  held : ∀ handle, visit.session.phase.handle? = some handle → handle.name = name
  errand : ∀ errand, visit.errand = some errand → errand.IsFor name

namespace Session

/-- A session at a board that other clients use too. -/
structure Crowd where
  visit : Visit
  /-- The handles of the other clients. -/
  handles : List Handle
  /-- The lists that others have taken away without signalling it yet. -/
  unsignalled : List (String × Nat)
  /-- The incarnation of the list that the session has published. -/
  published : Option Nat
  /-- Whether somebody else has deleted this list. -/
  lost : Bool
  /-- What the session has written. -/
  writes : List ListWrite

namespace Crowd

/-- Something that the session or another client does. What another client only looks at is left
out: it may have looked at any time before it acts. -/
inductive Act
  /-- The worker of the session is told something, if it waits. -/
  | tell (signal : Signal)
  /-- The closing of the session begins. -/
  | cancel
  /-- The closing goes on when the worker has ended. -/
  | finish
  /-- The session uses its board once. -/
  | work
  /-- Another client asks for a handle. -/
  | take (name : String)
  /-- Another client writes a list through one of its handles. -/
  | commit (index : Nat) (edit : Handle.Edit)
  /-- Another client gives up what one of its handles has reserved. -/
  | giveUp (index : Nat)
  /-- Another client takes a list away. -/
  | unlist (name : String)
  /-- Another client signals that it has taken a list away. -/
  | signal (index : Nat)
  /-- Everything but the lists changes. -/
  | around (other : Board)

/-- A session that has just been started, on a board without lists and handles. -/
def start (name primaryKey : String) (capacity : Nat) : Crowd :=
  ⟨⟨.start name primaryKey, .empty capacity, none⟩, [], [], none, false, []⟩

/-- The crowd when the board has changed elsewhere. -/
def withBoard (crowd : Crowd) (board : Board) : Crowd :=
  { crowd with visit := { crowd.visit with board } }

/-- What the session writes with its next use of the board, if it writes anything. -/
def written? (crowd : Crowd) : Option ListWrite :=
  crowd.visit.errand.bind (Errand.written? crowd.visit.board)

/-- The session uses its board once, if it has anything to do there. -/
def work (crowd : Crowd) : Crowd :=
  let visit := crowd.visit.step
  let published := match crowd.written? with
    | some (.set name _) => (visit.board.lists[name]?).map PublishedList.incarnation
    | _ => crowd.published
  { crowd with visit, published, writes := crowd.writes ++ crowd.written?.toList }

/-- Another client takes a list away, if it exists. -/
def unlist (crowd : Crowd) (name : String) : Crowd :=
  match crowd.visit.board.lists[name]? with
  | none => crowd
  | some list =>
    { crowd.withBoard (crowd.visit.board.unlist name) with
      unsignalled := crowd.unsignalled ++ [(name, list.incarnation)]
      lost := crowd.lost || crowd.published = some list.incarnation }

/-- The crowd after an act. -/
def after (crowd : Crowd) : Act → Crowd
  | .tell signal =>
    if crowd.visit.errand.isSome then crowd
    else { crowd with visit := crowd.visit.session.attend crowd.visit.board signal }
  | .cancel =>
    { crowd with visit := { crowd.visit with session := crowd.visit.session.cancel } }
  | .finish =>
    let session := crowd.visit.session
    if crowd.visit.errand.isSome || !session.cancelled || !session.phase.isStopped then crowd
    else { crowd with visit := session.attendClosing crowd.visit.board }
  | .work => crowd.work
  | .take name =>
    let (handle, board) := crowd.visit.board.handleFor name
    { crowd.withBoard board with handles := crowd.handles ++ [handle] }
  | .commit index edit =>
    match crowd.handles[index]? with
    | none => crowd
    | some handle =>
      let (handle, board, _) :=
        handle.commit crowd.visit.board edit.apply (edit.write handle.name)
      { crowd.withBoard board with handles := crowd.handles.set index handle }
  | .giveUp index =>
    match crowd.handles[index]? with
    | none => crowd
    | some handle =>
      if handle.pending then
        let (handle, board) := handle.giveUp crowd.visit.board
        { crowd.withBoard board with handles := crowd.handles.set index handle }
      else crowd
  | .unlist name => crowd.unlist name
  | .signal index =>
    match crowd.unsignalled[index]? with
    | none => crowd
    | some (name, incarnation) =>
      { crowd.withBoard (crowd.visit.board.signal name incarnation) with
        unsignalled := crowd.unsignalled.eraseIdx index }
  | .around other => crowd.withBoard (crowd.visit.board.around other)

/-- The crowd after several acts. -/
def run (crowd : Crowd) (acts : List Act) : Crowd := acts.foldl after crowd

theorem run_append (crowd : Crowd) (first second : List Act) :
    crowd.run (first ++ second) = (crowd.run first).run second :=
  List.foldl_append

/-- The session writes nothing once somebody else has deleted the list that it has published. -/
def KeepsOff (crowd : Crowd) (acts : List Act) : Prop :=
  ∀ front back, acts = front ++ back → (crowd.run front).lost = true →
    (crowd.run acts).writes = (crowd.run front).writes

/-- The session is going to look for the last time whether its list has been deleted before it
writes the list or takes it away, and it has not heard that it has been. -/
def Passes (crowd : Crowd) (handle : Handle) : Prop :=
  ((∃ edit, crowd.visit.errand = some (.look handle edit)) ∨
    crowd.visit.errand = some (.verify handle) ∧ handle.pending = false) ∧
  crowd.visit.board.isWithdrawn handle = false

/-- The list of a handle is what the session writes next, or takes away. -/
def IsDue (crowd : Crowd) (handle : Handle) : Prop :=
  ∃ errand, crowd.visit.errand = some errand ∧ errand.IsDue handle

/-- What an act makes of a crowd. -/
inductive Effect (crowd : Crowd) : Act → Crowd → Prop
  | told (signal : Signal) (waits : crowd.visit.errand = none) : Effect crowd (.tell signal)
      { crowd with visit := crowd.visit.session.attend crowd.visit.board signal }
  | cancelled : Effect crowd .cancel
      { crowd with visit := { crowd.visit with session := crowd.visit.session.cancel } }
  | finishing (waits : crowd.visit.errand = none) : Effect crowd .finish
      { crowd with visit := crowd.visit.session.attendClosing crowd.visit.board }
  | worked : Effect crowd .work crowd.work
  /-- The session does nothing. -/
  | elsewhere (act : Act) (board : Board) (handles : List Handle)
      (unsignalled : List (String × Nat)) (lost : Bool) (other : act ≠ .work)
      (kept : crowd.lost = true → lost = true) : Effect crowd act
        { crowd.withBoard board with handles, unsignalled, lost }

/-- The session does nothing, and nothing happens to its list. -/
private theorem Effect.around (crowd : Crowd) (act : Act) (board : Board) (handles : List Handle)
    (unsignalled : List (String × Nat)) (other : act ≠ .work) : Effect crowd act
      { crowd.withBoard board with handles, unsignalled } :=
  .elsewhere act board handles unsignalled crowd.lost other id

theorem after_effect (crowd : Crowd) (act : Act) : crowd.Effect act (crowd.after act) := by
  have idle (other : act ≠ .work) : crowd.Effect act crowd :=
    .around crowd act crowd.visit.board crowd.handles crowd.unsignalled other
  cases act with
  | tell signal =>
      cases busy : crowd.visit.errand with
      | none =>
          simp only [after, busy, Option.isSome_none, Bool.false_eq_true, ↓reduceIte]
          exact .told signal busy
      | some errand =>
          simp only [after, busy, Option.isSome_some, ↓reduceIte]
          exact idle nofun
  | cancel => exact .cancelled
  | finish =>
      simp only [after]
      split
      · exact idle nofun
      · rename_i going
        simp only [Bool.or_eq_true, not_or, Bool.not_eq_true, Option.isSome_eq_false_iff,
          Option.isNone_iff_eq_none] at going
        exact .finishing going.1.1
  | work => exact .worked
  | take name => exact .around crowd _ _ _ _ nofun
  | commit index edit =>
      simp only [after]
      split
      · exact idle nofun
      · exact .around crowd _ _ _ _ nofun
  | giveUp index =>
      simp only [after]
      split
      · exact idle nofun
      · split
        · exact .around crowd _ _ _ _ nofun
        · exact idle nofun
  | unlist name =>
      simp only [after, unlist]
      split
      · exact idle nofun
      · exact .elsewhere _ _ _ _ _ nofun fun lost => by rw [lost, Bool.true_or]
  | signal index =>
      simp only [after]
      split
      · exact idle nofun
      · exact .around crowd _ _ _ _ nofun
  | around other => exact .around crowd _ _ _ _ nofun

section Naming

variable {session : Session} {board : Board} {visit : Visit} {crowd : Crowd} {name : String}

private theorem conclude_isFor (named : session.name = name) {handle : Handle}
    (own : handle.name = name) (board : Board) (edit : Handle.Edit)
    (result : Except ServiceError Unit) :
    Visit.IsFor ⟨session.conclude handle edit result, board, none⟩ name where
  session := by
    cases edit <;> cases result <;> exact named
  held other held := by
    have same : (session.conclude handle edit result).phase.handle? = some handle := by
      cases edit <;> cases result <;> rfl
    exact Option.some.inj (same.symm.trans held) ▸ own
  errand _ due := nomatch due

private theorem shut_isFor (named : session.name = name) (board : Board) :
    Visit.IsFor ⟨session.shut, board, none⟩ name :=
  ⟨named, nofun, nofun⟩

private theorem isFor_of_errand (isFor : visit.IsFor name) (board : Board) {errand : Errand}
    (own : errand.IsFor name) : Visit.IsFor ⟨visit.session, board, some errand⟩ name :=
  ⟨isFor.session, isFor.held, fun _ due => Option.some.inj due ▸ own⟩

/-- Each use of the board concerns the name of the session. -/
private theorem step_isFor (isFor : visit.IsFor name) : visit.step.IsFor name := by
  cases due : visit.errand with
  | none =>
      rw [Visit.step, due]
      exact isFor
  | some errand =>
      have own := isFor.errand errand due
      rw [Visit.step, due]
      cases errand with
      | take entries =>
          refine isFor_of_errand isFor _ ?_
          exact (Board.name_handleFor _ _).trans isFor.session
      | consult handle edit =>
          simp only [Errand.step]
          split
          · exact conclude_isFor isFor.session own _ _ _
          · exact isFor_of_errand isFor _ own
      | look handle edit =>
          simp only [Errand.step]
          split
          · exact conclude_isFor isFor.session own _ _ _
          · exact isFor_of_errand isFor _ own
      | commit handle edit =>
          exact conclude_isFor isFor.session ((handle.name_commit _ _ _).trans own) _ _ _
      | inspect handle =>
          simp only [Errand.step]
          split
          · exact shut_isFor isFor.session _
          · exact isFor_of_errand isFor _ own
      | verify handle =>
          simp only [Errand.step]
          split
          · exact shut_isFor isFor.session _
          · split
            · exact shut_isFor isFor.session _
            · exact isFor_of_errand isFor _ own
      | unlist other =>
          simp only [Errand.step]
          split
          · exact shut_isFor isFor.session _
          · exact isFor_of_errand isFor _ own
      | signal other incarnation => exact shut_isFor isFor.session _

private theorem attend_isFor (isFor : visit.IsFor name) (signal : Signal) :
    (visit.session.attend visit.board signal).IsFor name := by
  rcases visit.session.attend_cases visit.board signal with
    ⟨entries, same⟩ | ⟨handle, edit, held, same⟩ | ⟨after, same, named, held⟩
  · rw [same]
    exact isFor_of_errand isFor _ trivial
  · rw [same]
    exact isFor_of_errand isFor _ (isFor.held handle held)
  · rw [same]
    exact ⟨named.trans isFor.session, fun handle still => isFor.held handle (held handle still),
      nofun⟩

private theorem attendClosing_isFor (isFor : visit.IsFor name) :
    (visit.session.attendClosing visit.board).IsFor name := by
  unfold attendClosing
  split
  · rename_i handle stopped
    refine isFor_of_errand isFor _ (isFor.held handle ?_)
    rw [stopped]
    rfl
  · exact shut_isFor isFor.session _

theorem isFor_after (isFor : crowd.visit.IsFor name) (act : Act) :
    (crowd.after act).visit.IsFor name := by
  have effect := crowd.after_effect act
  generalize crowd.after act = next at effect
  cases effect with
  | told signal waits => exact attend_isFor isFor signal
  | cancelled => exact ⟨isFor.session, isFor.held, isFor.errand⟩
  | finishing waits => exact attendClosing_isFor isFor
  | worked => exact step_isFor isFor
  | elsewhere => exact ⟨isFor.session, isFor.held, isFor.errand⟩

/-- All that a session does at its board is for the list of its name. -/
theorem isFor_run (name primaryKey : String) (capacity : Nat) (acts : List Act) :
    ((start name primaryKey capacity).run acts).visit.IsFor name := by
  have all (crowd : Crowd) (isFor : crowd.visit.IsFor name) :
      (crowd.run acts).visit.IsFor name := by
    induction acts generalizing crowd with
    | nil => exact isFor
    | cons act rest ih => exact ih _ (isFor_after isFor act)
  exact all _ ⟨rfl, nofun, nofun⟩

end Naming

section Writing

variable {crowd : Crowd} {act : Act}

/-- The session writes when it uses the board, and only then. -/
theorem writes_after (other : act ≠ .work) : (crowd.after act).writes = crowd.writes := by
  have effect := crowd.after_effect act
  generalize crowd.after act = next at effect
  cases effect with
  | worked => exact absurd rfl other
  | _ => rfl

private theorem entries?_step (errand : Errand) (session : Session) (board : Board)
    (other : String) : (errand.step session board).board.entries? other =
      ((errand.written? board).toList.filter (·.name = other)).foldl ListWrite.apply
        (board.entries? other) := by
  have one (write : ListWrite) : ((some write).toList.filter (·.name = other)).foldl ListWrite.apply
      (board.entries? other) =
        if write.name = other then write.apply (board.entries? other)
        else board.entries? other := by
    by_cases same : write.name = other
    · simp only [Option.toList_some, List.filter_cons, same, decide_true, ↓reduceIte,
        List.filter_nil, List.foldl_cons, List.foldl_nil]
    · simp only [Option.toList_some, List.filter_cons, same, decide_false, Bool.false_eq_true,
        ↓reduceIte, List.filter_nil, List.foldl_nil]
  cases errand with
  | take entries =>
      change (board.handleFor session.name).2.entries? other = board.entries? other
      rw [Board.entries?, Board.lists_handleFor, Board.entries?]
  | consult handle edit =>
      simp only [Errand.step]
      split <;> rfl
  | look handle edit =>
      simp only [Errand.step]
      split <;> rfl
  | commit handle edit =>
      simp only [Errand.step, Errand.written?]
      rcases handle.commit_cases board edit.apply (edit.write handle.name) with
        ⟨list, found, same⟩ | ⟨absent, _, same⟩ | ⟨_, _, same⟩
      · rw [same]
        dsimp only
        rw [one, Board.entries?, Handle.rewritten, Board.lists_record]
        exact edit.entries_insert board (by rw [Board.entries?, found]; rfl) other
      · rw [same]
        dsimp only
        rw [one, Board.entries?, Handle.created, Board.lists_record]
        exact edit.entries_insert board (by rw [Board.entries?, absent]; rfl) other
      · rw [same]
        rfl
  | inspect handle =>
      simp only [Errand.step]
      split <;> rfl
  | verify handle =>
      simp only [Errand.step]
      split
      · rfl
      · split <;> rfl
  | unlist name =>
      cases found : board.lists[name]? with
      | none => simp only [Errand.step, Errand.written?, found]; rfl
      | some list =>
          simp only [Errand.step, Errand.written?, found, Option.map_some]
          rw [one, Board.entries?, Board.lists_unlist]
          by_cases equal : name = other
          · rw [if_pos equal]
            exact (if_pos equal).symm
          · rw [if_neg equal]
            exact (if_neg equal).symm
  | signal name incarnation =>
      change (board.signal name incarnation).entries? other = board.entries? other
      rw [Board.entries?, Board.lists_signal, Board.entries?]

/-- The lists change as the writes of the session tell. -/
theorem entries?_work (crowd : Crowd) (other : String) :
    crowd.work.visit.board.entries? other =
      (crowd.written?.toList.filter (·.name = other)).foldl ListWrite.apply
        (crowd.visit.board.entries? other) := by
  cases due : crowd.visit.errand with
  | none => simp only [work, Visit.step, written?, due]; rfl
  | some errand =>
      simp only [work, Visit.step, written?, due, Option.bind_some]
      exact entries?_step errand _ _ other

theorem lost_after (lost : crowd.lost = true) (act : Act) : (crowd.after act).lost = true := by
  have effect := crowd.after_effect act
  generalize crowd.after act = next at effect
  cases effect with
  | elsewhere act board handles unsignalled after other kept => exact kept lost
  | _ => exact lost

theorem lost_run (lost : crowd.lost = true) (acts : List Act) : (crowd.run acts).lost = true := by
  induction acts generalizing crowd with
  | nil => exact lost
  | cons act rest ih => exact ih (lost_after lost act)

/-- What the session has written stays written. -/
theorem writes_run (crowd : Crowd) (acts : List Act) :
    crowd.writes <+: (crowd.run acts).writes := by
  induction acts generalizing crowd with
  | nil => exact List.prefix_rfl
  | cons act rest ih =>
      refine List.IsPrefix.trans ?_ (ih (crowd.after act))
      by_cases works : act = .work
      · rw [works]
        exact List.prefix_append _ _
      · rw [writes_after works]

/-- If the session has written something, there is a use of the board at which it wrote. -/
theorem writes_run_cases (crowd : Crowd) (acts : List Act) :
    (crowd.run acts).writes = crowd.writes ∨
      ∃ front back, acts = front ++ .work :: back ∧ (crowd.run front).written? ≠ none := by
  induction acts generalizing crowd with
  | nil => exact .inl rfl
  | cons act rest ih =>
      by_cases writes : act = .work ∧ crowd.written? ≠ none
      · obtain ⟨rfl, writes⟩ := writes
        exact .inr ⟨[], rest, rfl, writes⟩
      · have same : (crowd.after act).writes = crowd.writes := by
          by_cases works : act = .work
          · have nothing : crowd.written? = none := not_not.mp fun some => writes ⟨works, some⟩
            rw [works]
            change crowd.writes ++ crowd.written?.toList = crowd.writes
            rw [nothing]
            exact List.append_nil _
          · exact writes_after works
        rcases ih (crowd.after act) with still | ⟨front, back, rfl, writes⟩
        · exact .inl (still.trans same)
        · exact .inr ⟨act :: front, back, rfl, writes⟩

/-- A session does not keep off its lost list if there is a use of the board after the loss at which
it writes. -/
theorem not_keepsOff_iff (crowd : Crowd) (acts : List Act) : ¬ crowd.KeepsOff acts ↔
    ∃ front back, acts = front ++ .work :: back ∧ (crowd.run front).lost = true ∧
      (crowd.run front).written? ≠ none := by
  constructor
  · intro strays
    simp only [KeepsOff, not_forall] at strays
    obtain ⟨front, back, rfl, lost, written⟩ := strays
    rw [run_append] at written
    rcases (crowd.run front).writes_run_cases back with same | ⟨early, late, rfl, writes⟩
    · exact absurd same written
    · refine ⟨front ++ early, late, (List.append_assoc front early _).symm, ?_, ?_⟩
      · rw [run_append]
        exact lost_run lost early
      · rw [run_append]
        exact writes
  · rintro ⟨front, back, rfl, lost, writes⟩ off
    have same : (crowd.run (front ++ .work :: back)).writes = (crowd.run front).writes :=
      off front (.work :: back) rfl lost
    have kept : (crowd.run front).work.writes <+: (crowd.run (front ++ .work :: back)).writes := by
      rw [run_append]
      exact writes_run ((crowd.run front).after .work) back
    rw [same] at kept
    -- The use of the board has made the writes longer.
    obtain ⟨write, written⟩ := Option.ne_none_iff_exists'.mp writes
    have longer := kept.length_le
    change ((crowd.run front).writes ++ (crowd.run front).written?.toList).length ≤ _ at longer
    rw [written, Option.toList_some, List.length_append, List.length_singleton] at longer
    exact absurd longer (Nat.not_succ_le_self _)

end Writing

section Due

variable {crowd : Crowd} {act : Act} {handle : Handle} {name : String}

/-- The session writes only what is due. -/
theorem isDue_of_written? (writes : crowd.written? ≠ none) : ∃ handle, crowd.IsDue handle := by
  cases due : crowd.visit.errand with
  | none => exact absurd (by rw [written?, due]; rfl) writes
  | some errand =>
      rw [written?, due, Option.bind_some] at writes
      cases errand with
      | commit handle edit => exact ⟨handle, _, due, rfl⟩
      | unlist name => exact ⟨⟨name, 0, false⟩, _, due, rfl, rfl⟩
      | _ => exact absurd rfl writes

/-- What is due is written if the list exists or can be created. -/
theorem written?_iff (isFor : crowd.visit.IsFor name) (due : crowd.IsDue handle) :
    crowd.written? ≠ none ↔
      handle.pending = true ∨ crowd.visit.board.lists[name]? ≠ none := by
  obtain ⟨errand, does, due⟩ := due
  have own := isFor.errand errand does
  rw [written?, does, Option.bind_some]
  cases errand with
  | commit other edit =>
      obtain rfl : other = handle := due
      obtain rfl : other.name = name := own
      rw [Errand.written?]
      rcases other.commit_cases crowd.visit.board edit.apply (edit.write other.name) with
        ⟨list, found, same⟩ | ⟨absent, pending, same⟩ | ⟨absent, settled, same⟩
      · rw [same, found]
        exact iff_of_true nofun (.inr nofun)
      · rw [same]
        exact iff_of_true nofun (.inl pending)
      · rw [same, absent, settled]
        exact iff_of_false (fun some => some rfl) (by simp)
  | unlist other =>
      obtain ⟨_, settled⟩ := due
      obtain rfl : other = name := own
      rw [settled]
      cases found : crowd.visit.board.lists[other]? with
      | none => exact iff_of_false (by simp [Errand.written?, found]) (by simp)
      | some list => exact iff_of_true (by simp [Errand.written?, found]) (.inr nofun)
  | _ => exact due.elim

/-- A list is due when the session has looked for the last time. -/
theorem Passes.isDue_work (passes : crowd.Passes handle) : crowd.work.IsDue handle := by
  obtain ⟨⟨edit, looks⟩ | ⟨verifies, settled⟩, there⟩ := passes
  · refine ⟨.commit handle edit, ?_, rfl⟩
    simp only [work, Visit.step, looks, Errand.step, there, Bool.false_eq_true, ↓reduceIte]
  · refine ⟨.unlist handle.name, ?_, rfl, settled⟩
    simp only [work, Visit.step, verifies, Errand.step, settled, there, Bool.false_eq_true,
      ↓reduceIte]

/-- Nothing becomes due without that look. -/
theorem passes_of_isDue_work (due : crowd.work.IsDue handle) :
    ∃ other, crowd.Passes other := by
  obtain ⟨next, does, due⟩ := due
  change crowd.visit.step.errand = some next at does
  cases earlier : crowd.visit.errand with
  | none =>
      rw [Visit.step, earlier] at does
      cases earlier.symm.trans does
  | some errand =>
      rw [Visit.step, earlier] at does
      cases errand with
      | take entries =>
          obtain rfl := Option.some.inj does
          exact due.elim
      | consult other edit =>
          simp only [Errand.step] at does
          split at does
          · cases does
          · obtain rfl := Option.some.inj does
            exact due.elim
      | look other edit =>
          cases there : crowd.visit.board.isWithdrawn other with
          | true =>
              simp only [Errand.step, there, ↓reduceIte] at does
              cases does
          | false => exact ⟨other, .inl ⟨edit, earlier⟩, there⟩
      | commit other edit => cases does
      | inspect other =>
          simp only [Errand.step] at does
          split at does
          · cases does
          · obtain rfl := Option.some.inj does
            exact due.elim
      | verify other =>
          cases settled : other.pending with
          | true =>
              simp only [Errand.step, settled, ↓reduceIte] at does
              cases does
          | false =>
              cases there : crowd.visit.board.isWithdrawn other with
              | true =>
                  simp only [Errand.step, settled, there, Bool.false_eq_true, ↓reduceIte] at does
                  cases does
              | false => exact ⟨other, .inr ⟨earlier, settled⟩, there⟩
      | unlist name =>
          simp only [Errand.step] at does
          split at does
          · cases does
          · obtain rfl := Option.some.inj does
            exact due.elim
      | signal name incarnation => cases does

/-- What is due stays due until the session uses the board, and nothing else becomes due. -/
theorem isDue_after (other : act ≠ .work) :
    (crowd.after act).IsDue handle ↔ crowd.IsDue handle := by
  have effect := crowd.after_effect act
  generalize crowd.after act = next at effect
  cases effect with
  | told signal waits =>
      refine iff_of_false ?_ fun ⟨errand, does, _⟩ => nomatch waits.symm.trans does
      rintro ⟨errand, does, due⟩
      change (crowd.visit.session.attend crowd.visit.board signal).errand = some errand at does
      rcases crowd.visit.session.attend_cases crowd.visit.board signal with
        ⟨entries, same⟩ | ⟨handle, edit, _, same⟩ | ⟨after, same, _⟩
      · rw [same] at does
        obtain rfl := Option.some.inj does
        exact due
      · rw [same] at does
        obtain rfl := Option.some.inj does
        exact due
      · rw [same] at does
        exact nomatch does
  | cancelled => exact Iff.rfl
  | finishing waits =>
      refine iff_of_false ?_ fun ⟨errand, does, _⟩ => nomatch waits.symm.trans does
      rintro ⟨errand, does, due⟩
      change (crowd.visit.session.attendClosing crowd.visit.board).errand = some errand at does
      unfold attendClosing at does
      split at does
      · obtain rfl := Option.some.inj does
        exact due
      · exact nomatch does
  | worked => exact absurd rfl other
  | elsewhere => exact Iff.rfl

theorem isDue_run {acts : List Act} (idle : .work ∉ acts) :
    (crowd.run acts).IsDue handle ↔ crowd.IsDue handle := by
  induction acts generalizing crowd with
  | nil => exact Iff.rfl
  | cons act rest ih =>
      rw [List.mem_cons, not_or] at idle
      exact (ih idle.2).trans (isDue_after fun same => idle.1 same.symm)

/-- What is due has become due when the session used the board for the last time. -/
theorem passes_of_isDue_run (waits : crowd.visit.errand = none) {acts : List Act}
    (due : (crowd.run acts).IsDue handle) : ∃ front between other,
      acts = front ++ .work :: between ∧ .work ∉ between ∧ (crowd.run front).Passes other := by
  induction acts using List.reverseRecOn with
  | nil =>
      obtain ⟨errand, does, _⟩ := due
      exact nomatch waits.symm.trans does
  | append_singleton earlier act ih =>
      have last : crowd.run (earlier ++ [act]) = (crowd.run earlier).after act := run_append _ _ _
      rw [last] at due
      by_cases works : act = .work
      · rw [works] at due ⊢
        obtain ⟨other, passes⟩ := passes_of_isDue_work due
        exact ⟨earlier, [], other, rfl, List.not_mem_nil, passes⟩
      · obtain ⟨front, between, other, rfl, idle, passes⟩ := ih ((isDue_after works).mp due)
        refine ⟨front, between ++ [act], other, List.append_assoc _ _ _, ?_, passes⟩
        rw [List.mem_append, List.mem_singleton]
        exact not_or.mpr ⟨idle, fun same => works same.symm⟩

end Due

/-- A session whose list has been deleted by somebody else still writes in one case only: when it
last used the board it looked whether its list had been deleted, and it did not hear so. Then it
writes the list that exists by now, and if there is none a pending handle creates it. -/
theorem keepsOff_iff (name primaryKey : String) (capacity : Nat) (acts : List Act) :
    (start name primaryKey capacity).KeepsOff acts ↔
      ¬ ∃ front between back handle,
        acts = front ++ .work :: (between ++ .work :: back) ∧ .work ∉ between ∧
        ((start name primaryKey capacity).run front).Passes handle ∧
        ((start name primaryKey capacity).run (front ++ .work :: between)).lost = true ∧
        (handle.pending = true ∨ ((start name primaryKey capacity).run
          (front ++ .work :: between)).visit.board.lists[name]? ≠ none) := by
  -- What the session writes after its last look.
  have writes (front between : List Act) (handle : Handle) (idle : .work ∉ between)
      (passes : ((start name primaryKey capacity).run front).Passes handle) :
      ((start name primaryKey capacity).run (front ++ .work :: between)).written? ≠ none ↔
        handle.pending = true ∨ ((start name primaryKey capacity).run
          (front ++ .work :: between)).visit.board.lists[name]? ≠ none := by
    refine written?_iff (isFor_run name primaryKey capacity _) ?_
    rw [run_append]
    exact (isDue_run idle).mpr passes.isDue_work
  rw [← not_iff_not, not_not, not_keepsOff_iff]
  constructor
  · rintro ⟨earlier, back, rfl, lost, written⟩
    obtain ⟨handle, due⟩ := isDue_of_written? written
    obtain ⟨front, between, other, rfl, idle, passes⟩ := passes_of_isDue_run rfl due
    exact ⟨front, between, back, other, List.append_assoc front _ _, idle, passes, lost,
      (writes front between other idle passes).mp written⟩
  · rintro ⟨front, between, back, handle, rfl, idle, passes, lost, there⟩
    exact ⟨front ++ .work :: between, back,
      by simp only [List.append_assoc, List.cons_append], lost,
      (writes front between handle idle passes).mpr there⟩

/-- A session publishes into a list that somebody else creates while it does so. This list is
deleted and created again. -/
def adopting : List Act :=
  [.tell .opened, .tell .rowsEnd, .tell (.event (.ok .ready)), .work, .take "x",
    .commit 0 (.set ["theirs"]), .work, .work, .work, .unlist "x", .signal 0, .take "x",
    .commit 1 (.set ["new"])]

/-- A session that is being closed has looked whether its list has been deleted. Now the list is
deleted and created again. -/
def overtaken : List Act :=
  [.tell .opened, .tell .rowsEnd, .tell (.event (.ok .ready)), .work, .work, .work, .work, .cancel,
    .tell .cancelled, .finish, .work, .work, .unlist "x", .signal 0, .take "x",
    .commit 0 (.set ["new"])]

/-- One session adds an entry to the list that has taken the place of its own, the other one takes
this list away. -/
theorem successor_written :
    let added := [.tell (.event (.ok (.change none (some (.object [("id", .string "a")]))))),
      .work, .work, .work]
    ((start "x" "id" 10).run adopting).lost = true ∧
      ((start "x" "id" 10).run adopting).visit.board.entries? "x" = some ["new"] ∧
      ((start "x" "id" 10).run (adopting ++ added)).visit.board.entries? "x" = some ["new", "a"] ∧
      ¬ (start "x" "id" 10).KeepsOff (adopting ++ added) ∧
    ((start "x" "id" 10).run overtaken).lost = true ∧
      ((start "x" "id" 10).run overtaken).visit.board.entries? "x" = some ["new"] ∧
      ((start "x" "id" 10).run (overtaken ++ [.work])).visit.board.entries? "x" = none ∧
      ¬ (start "x" "id" 10).KeepsOff (overtaken ++ [.work]) := by
  intro added
  have adoptingLost : ((start "x" "id" 10).run adopting).lost = true := by decide
  have overtakenLost : ((start "x" "id" 10).run overtaken).lost = true := by decide
  refine ⟨adoptingLost, by decide, by decide, fun off => ?_, overtakenLost,
    by decide, by decide, fun off => ?_⟩
  · exact absurd (off adopting added rfl adoptingLost) (by decide)
  · exact absurd (off overtaken [.work] rfl overtakenLost) (by decide)

end Crowd

end Session

end LiveSearch
