import LiveSearch.Proofs.Board.Clients

/-! # Handles that follow their list

A client that has written a list expects its handle to stay with this list
(`LiveSearch.Clients.Follows`): once anybody has deleted the list, the handle is told so and writes
nothing more, and until then the client can delete the list through it. A handle follows the list
that it has written exactly if it had been given out for this list, or has created it
(`LiveSearch.Clients.follows_written_iff`). A handle that is still pending when somebody else
creates the list can write the list, but is for another incarnation, and so neither hears of the
deletion of the list nor deletes it (`LiveSearch.Clients.pending_writer_strays`).
-/

namespace LiveSearch

namespace Clients

/-- The list is there at every moment of the acts. -/
def Keeps (clients : Clients) (name : String) (acts : List Act) : Prop :=
  ∀ earlier, earlier <+: acts → (clients.run earlier).board.lists[name]? ≠ none

/-- The handle at a position stays with the list of a name that exists now. -/
structure Follows (clients : Clients) (position : Nat) (name : String) : Prop where
  /-- When the list has been deleted, the handle has been told so, every change through it fails,
  and nothing that is done through it has an effect. -/
  bereft : ∀ acts, ¬ clients.Keeps name acts → ∃ handle,
    (clients.run acts).handles[position]? = some handle ∧
      (clients.run acts).board.isWithdrawn handle = true ∧
      handle.IsInert (clients.run acts).board
  /-- While the list has not been deleted, deleting through the handle deletes it. -/
  deletes : ∀ acts, clients.Keeps name acts →
    ((clients.run acts).after (.delete position)).board.lists[name]? = none

variable {clients : Clients} {position : Nat} {handle : Handle} {name : String}

/-- A list that is kept stays in its incarnation. -/
theorem Keeps.incarnation {acts : List Act} (kept : clients.Keeps name acts) {list : PublishedList}
    (found : clients.board.lists[name]? = some list) : ∃ later : PublishedList,
      (clients.run acts).board.lists[name]? = some later ∧
        later.incarnation = list.incarnation := by
  induction acts generalizing clients list with
  | nil => exact ⟨list, found, rfl⟩
  | cons act rest ih =>
      obtain ⟨next, there⟩ := Option.ne_none_iff_exists'.mp
        (kept [act] (List.prefix_cons_inj act |>.mpr List.nil_prefix))
      have onward : (clients.after act).Keeps name rest := fun earlier begins =>
        kept (act :: earlier) ((List.prefix_cons_inj act).mpr begins)
      obtain ⟨later, present, same⟩ := ih onward there
      exact ⟨later, present, same.trans (clients.incarnation_after act found there)⟩

/-- A handle that is not pending follows the list that exists in its incarnation. -/
theorem follows_of_settled (issued : clients.board.Issued clients.handles)
    (held : clients.handles[position]? = some handle) (settled : handle.pending = false)
    {list : PublishedList} (found : clients.board.lists[handle.name]? = some list)
    (own : list.incarnation = handle.incarnation) : clients.Follows position handle.name where
  bereft acts lost := by
    obtain ⟨earlier, gone⟩ := Classical.not_forall.mp lost
    obtain ⟨⟨later, rfl⟩, present⟩ := Classical.not_imp.mp gone
    have absent := Classical.not_not.mp present
    -- The handle was told at the moment at which its list was gone.
    have told : (clients.run earlier).board.isWithdrawn handle = true := by
      have there := List.mem_of_getElem? (held_run held settled earlier)
      rcases ((issued_run issued earlier).fit handle there).standing settled with
        gone | ⟨other, present, _⟩
      · exact gone
      · exact nomatch absent.symm.trans present
    have gone : (clients.run (earlier ++ later)).board.isWithdrawn handle = true := by
      rw [run_append]
      exact (clients.run earlier).withdrawn_run later told
    have still := held_run held settled (earlier ++ later)
    have fits := (issued_run issued (earlier ++ later)).fit handle (List.mem_of_getElem? still)
    exact ⟨handle, still, gone, fits.isInert gone⟩
  deletes acts kept := by
    obtain ⟨later, present, same⟩ := kept.incarnation found
    have standing : (clients.run acts).board.isWithdrawn handle = false := by
      rw [Board.isWithdrawn, ← own, ← same]
      exact ((issued_run issued acts).sound.listed handle.name later present).2
    rw [after_delete (held_run held settled acts)]
    rcases handle.delete_cases (clients.run acts).board with
      ⟨pending, _⟩ | ⟨_, gone, _⟩ | ⟨_, _, deleted⟩
    · exact absurd (settled.symm.trans pending) Bool.false_ne_true
    · exact absurd (standing.symm.trans gone) Bool.false_ne_true
    · rw [deleted, Board.lists_deleteList, if_pos rfl]

/-- A handle that is pending follows no list: it does not hear of a deletion. -/
theorem strays_of_pending (issued : clients.board.Issued clients.handles)
    (held : clients.handles[position]? = some handle) (pending : handle.pending = true) :
    ¬ clients.Follows position handle.name := by
  intro follows
  obtain ⟨standing, unused⟩ := (issued.fit handle (List.mem_of_getElem? held)).reserved pending
  have lost : ¬ clients.Keeps handle.name [.deleteList handle.name] := fun kept =>
    kept _ (List.prefix_refl _) (by
      change (clients.board.deleteList handle.name).1.lists[handle.name]? = none
      rw [Board.lists_deleteList, if_pos rfl])
  obtain ⟨other, there, gone, _⟩ := follows.bereft _ lost
  obtain rfl := Option.some.inj (held.symm.trans there)
  rcases (clients.board.withdrawn_deleteList handle.name handle.incarnation).mp gone with
    earlier | ⟨list, found, same⟩
  · exact Bool.false_ne_true (standing.symm.trans earlier)
  · exact unused handle.name list found same

/-- Whatever clients have done, when a change through a handle succeeds, the handle follows the list
exactly if it is not pending before, or the list does not exist before and is created by the
change. -/
theorem follows_written_iff (capacity : Nat) (acts : List Act) (edit : Handle.Edit)
    (held : ((start capacity).run acts).handles[position]? = some handle)
    (succeeds : (handle.perform ((start capacity).run acts).board edit).2.2 = .ok ()) :
    (((start capacity).run acts).after (.edit position edit)).Follows position handle.name ↔
      handle.pending = false ∨ ((start capacity).run acts).board.lists[handle.name]? = none := by
  have issued := issued_run (issued_start capacity) acts
  generalize (start capacity).run acts = clients at *
  have onward : (clients.after (.edit position edit)).board.Issued
      (clients.after (.edit position edit)).handles := issued_after [] issued (.edit position edit)
  have inside := (List.getElem?_eq_some_iff.mp held).1
  rw [handle.perform_eq] at succeeds
  have standing := Handle.standing_of_written succeeds
  rw [after_edit held, handle.perform_eq] at onward ⊢
  rcases handle.write_cases clients.board edit.apply (edit.write handle.name) with
    ⟨cause, _, same⟩ | ⟨list, found, same⟩ | ⟨absent, pending, same⟩
  · rw [same] at succeeds
    exact nomatch succeeds
  · rw [same] at onward ⊢
    have there : (clients.handles.set position handle)[position]? = some handle :=
      List.getElem?_set_self inside
    have written : (handle.rewritten clients.board edit.apply (edit.write handle.name) list).lists[
        handle.name]? = some { list with entries := edit.apply list.entries } := by
      rw [Handle.lists_rewritten, if_pos rfl]
    rw [found]
    cases pending : handle.pending with
    | true =>
        refine iff_of_false (strays_of_pending onward there pending) ?_
        rintro (settled | absent)
        · exact absurd settled.symm Bool.false_ne_true
        · exact nomatch absent
    | false =>
        have own := (issued.fit handle (List.mem_of_getElem? held)).own pending standing found
        exact iff_of_true (follows_of_settled onward there pending written own) (.inl rfl)
  · rw [same] at onward ⊢
    have there : (clients.handles.set position { handle with pending := false })[position]? =
        some { handle with pending := false } := List.getElem?_set_self inside
    have written : (handle.created clients.board edit.apply (edit.write handle.name)).lists[
        handle.name]? = some ⟨edit.apply [], handle.incarnation⟩ := by
      rw [Handle.lists_created, if_pos rfl]
    have follows := follows_of_settled onward there rfl written rfl
    exact iff_of_true follows (.inr absent)

/-- A handle that has been given out for an existing list follows it. -/
theorem follows_written_adopted : ∃ handle,
    ((start 10).run [.take "x", .edit 0 (.set ["a"]), .take "x"]).handles[1]? = some handle ∧
      (handle.perform ((start 10).run [.take "x", .edit 0 (.set ["a"]), .take "x"]).board
        (.add "b")).2.2 = .ok () ∧
      (((start 10).run [.take "x", .edit 0 (.set ["a"]), .take "x"]).after
        (.edit 1 (.add "b"))).Follows 1 handle.name := by
  refine ⟨⟨"x", 0, false⟩, rfl, rfl, ?_⟩
  exact (follows_written_iff 10 [.take "x", .edit 0 (.set ["a"]), .take "x"] (.add "b") rfl
    rfl).mpr (.inl rfl)

/-- Two clients ask for handles of a list that does not exist, the second one creates it, and the
first one writes it. When the list is then deleted, the handle of the first one is not told, and
brings the list back; when the first client deletes instead, the list stays. -/
theorem pending_writer_strays : ∃ handle written,
    ((start 10).run [.take "x", .take "x", .edit 1 (.set ["b"])]).handles[0]? = some handle ∧
      (handle.perform ((start 10).run [.take "x", .take "x", .edit 1 (.set ["b"])]).board
        (.add "a")).2.2 = .ok () ∧
      ((start 10).run [.take "x", .take "x", .edit 1 (.set ["b"])]).after
        (.edit 0 (.add "a")) = written ∧
      ¬ written.Follows 0 handle.name ∧
      (written.run [.deleteList "x"]).board.entries? "x" = none ∧
      (written.run [.deleteList "x"]).board.isWithdrawn handle = false ∧
      (written.run [.deleteList "x", .edit 0 (.add "c")]).board.entries? "x" = some ["c"] ∧
      (written.run [.delete 0]).board.entries? "x" = some ["b", "a"] := by
  have issued := issued_run (issued_start 10)
    [.take "x", .take "x", .edit 1 (.set ["b"]), .edit 0 (.add "a")]
  refine ⟨⟨"x", 0, true⟩, _, rfl, rfl, rfl, ?_, by decide, by decide, by decide, by decide⟩
  exact strays_of_pending issued rfl rfl

end Clients

end LiveSearch
