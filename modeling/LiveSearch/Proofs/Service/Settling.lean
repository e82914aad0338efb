import LiveSearch.Proofs.Service.Run

/-! # When nothing can go on

A session that can only wait has ended, or it has read everything
(`LiveSearch.Running.waiting_cases`). So when nothing can go on every subscription has been read,
and a session with an entry has ended or its list holds the keys that its plan selects
(`LiveSearch.Provider.IsSound.drained`, `LiveSearch.Running.IsSound.settled`).
-/

namespace LiveSearch

namespace Running

variable {running : Running} {board : Board} {database : Database}

/-- A worker with no signal of its feed has read all events. -/
private theorem unread_of_idle {found : Found FeedItem}
    (idle : (match found with
      | .nothing => none
      | .item item => some (Signal.event item)
      | .finish => some .feedEnd) = none) : found = .nothing := by
  cases found with
  | nothing => rfl
  | item item => cases idle
  | finish => cases idle

/-- A session waits when it has ended, or when it has read all events, is not told to end, and its
list has not been deleted. -/
theorem waiting_cases (waits : running.nextSignal board database = none) :
    running.session.phase.isStopped = true ∨
      running.session.cancelled = false ∧ running.findEvent database = .nothing ∧
        ((∃ keys, running.session.phase = .merging keys) ∨
          ∃ handle entries, running.session.phase = .following handle entries ∧
            board.isWithdrawn handle = false) := by
  unfold nextSignal at waits
  split at waits
  · cases waits
  · cases waits
  · rename_i connects asks
    have idle := Option.map_eq_none_iff.mp waits
    unfold Session.pendingSignal at idle
    dsimp only at idle
    cases going : running.session.phase.isStopped with
    | true => exact .inl rfl
    | false =>
        rw [going, if_neg Bool.false_ne_true] at idle
        cases cancelled : running.session.cancelled with
        | true =>
            rw [cancelled, if_pos rfl] at idle
            cases idle
        | false =>
            rw [cancelled, if_neg Bool.false_ne_true] at idle
            right
            cases phase : running.session.phase with
            | opening =>
                cases answered : running.answer with
                | some answer => exact (connects answer phase answered).elim
                | none => exact (asks phase answered cancelled).elim
            | stopped owned =>
                rw [phase] at going
                exact absurd going.symm Bool.false_ne_true
            | collecting keys =>
                rw [phase] at idle
                cases rows : running.rows <;>
                  · rw [rows] at idle
                    cases idle
            | merging keys =>
                rw [phase] at idle
                exact ⟨rfl, unread_of_idle idle, .inl ⟨keys, rfl⟩⟩
            | following handle entries =>
                rw [phase] at idle
                cases withdrawn : board.isWithdrawn handle with
                | true =>
                    simp only [withdrawn, ↓reduceIte] at idle
                    cases idle
                | false =>
                    simp only [withdrawn, Bool.false_eq_true, ↓reduceIte] at idle
                    exact ⟨rfl, unread_of_idle idle, .inr ⟨handle, entries, rfl, withdrawn⟩⟩

/-- What is left to absorb at a feed where nothing waits. -/
private theorem absorbs_nothing (sound : running.IsSound board database)
    (opened : running.session.phase ≠ .opening) (going : running.session.phase.isStopped = false)
    (unread : running.findEvent database = .nothing) : ∃ selection table,
      Selection.ofPlan? running.plan = some selection ∧
        database.tables[running.plan.table]? = some table ∧
        running.session.phase.AbsorbsTo database.primaryKey []
          (selection.keys database.primaryKey table.records) := by
  obtain ⟨address, feed, table, box, held, placed, lasting⟩ := sound.serves opened going
  simp only [findEvent, feed] at unread
  rw [Mailroom.read_of_box _ placed, Box.read] at unread
  split at unread
  · cases unread
  · rename_i empty
    split at unread
    · cases unread
    · rename_i lasts
      rcases lasting with ended | ⟨feed, _, events, _, selected, _, same, absorbs⟩
      · exact absurd ended lasts
      · rw [same] at empty
        rw [List.map_eq_nil_iff.mp empty] at absorbs
        exact ⟨feed.selection, table, selected, held, absorbs⟩

/-- A sound session that waits has ended, or its list holds the keys that its plan selects. -/
theorem IsSound.settled (sound : running.IsSound board database)
    (waits : running.nextSignal board database = none) :
    running.session.phase.isStopped = true ∨ ∃ handle entries selection table,
      board.lists[running.session.name]? = some ⟨entries, handle⟩ ∧ entries.Nodup ∧
        Selection.ofPlan? running.plan = some selection ∧
        database.tables[running.plan.table]? = some table ∧
        entries.toFinset = selection.keys database.primaryKey table.records := by
  rcases waiting_cases waits with
    stopped | ⟨_, unread, ⟨keys, merging⟩ | ⟨handle, entries, following, standing⟩⟩
  · exact .inl stopped
  · -- The feed has not been ready yet, so something waits.
    obtain ⟨_, _, _, _, absorbs⟩ := absorbs_nothing sound (by rw [merging]; exact nofun)
      (by rw [merging]; rfl) unread
    rw [merging] at absorbs
    obtain ⟨early, late, split, _⟩ := absorbs
    exact absurd split.symm (by simp)
  · right
    obtain ⟨selection, table, selected, held, absorbs⟩ := absorbs_nothing sound
      (by rw [following]; exact nofun) (by rw [following]; rfl) unread
    rw [following] at absorbs
    obtain ⟨_, same⟩ := absorbs
    obtain ⟨_, nodup, listed⟩ := sound.fits.mirrored handle entries following
    rcases listed with withdrawn | found
    · exact absurd (standing.symm.trans withdrawn) Bool.false_ne_true
    · exact ⟨handle.incarnation, entries, selection, table, found, nodup, selected, held, same⟩

end Running

/-- A session that takes no step waits. -/
theorem Service.waits_of_step? {service : Service} {id : Nat} {running : Running}
    (found : service.running[id]? = some running) (none : service.step? id = .none) :
    running.nextSignal service.board service.database = .none := by
  unfold Service.step? at none
  simp only [found, Option.bind_eq_bind, Option.bind_some] at none
  cases told : running.nextSignal service.board service.database with
  | none => rfl
  | some state =>
      rw [told] at none
      exact nomatch none

namespace Provider

variable {provider : Provider} {regex : Pattern.Regex} {field : String}

/-- When nothing can go on, the provider has read everything and waits for no session. -/
theorem IsSound.drained (sound : provider.IsSound regex field) (quiet : provider.IsQuiet) :
    provider.state = .serving ∧ provider.service.detachments = [] ∧ provider.waiting = [] := by
  obtain ⟨idle, waits⟩ := quiet
  rcases sound.state with serving | ⟨id, closing⟩
  · refine ⟨serving, ?_⟩
    simp only [step?, serving, serve?, sound.attentive, Bool.false_eq_true, ↓reduceIte] at idle
    cases reports : provider.service.detachments with
    | cons report rest =>
        rw [reports] at idle
        cases idle
    | nil =>
        refine ⟨rfl, ?_⟩
        rw [reports] at idle
        have found := sound.hearing.findNotice
        cases notices : provider.findNotice with
        | mk item board =>
            rw [notices] at found idle
            cases waiting : provider.waiting with
            | nil => rfl
            | cons notice rest =>
                rw [waiting] at found
                obtain rfl : item = .item notice := found
                dsimp only at idle
                split at idle <;> cases idle
  · -- A session that is told to end does not wait.
    exfalso
    obtain ⟨running, found, _, cancelled, _⟩ := sound.closing id closing
    have step := Service.waits_of_step? found (Option.map_eq_none_iff.mp (waits id))
    rcases Running.waiting_cases step with stopped | ⟨kept, _⟩
    · have ended : provider.service.hasStopped id = true := by
        simp only [Service.hasStopped, found, Option.any_some, stopped]
      simp only [step?, closing, ended, ↓reduceIte] at idle
      cases idle
    · exact absurd (kept.symm.trans cancelled) Bool.false_ne_true

end Provider

end LiveSearch
