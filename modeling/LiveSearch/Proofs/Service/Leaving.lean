import LiveSearch.Proofs.Service.Hosting
import LiveSearch.Proofs.Service.Shutdown

/-! # What a provider leaves behind among others

Other clients may write any list, those of the sessions included. Every event of a deployment is
still a sequence of small changes of its service (`LiveSearch.Deployment.evolves_after`), and so is
the way of a provider to its return (`LiveSearch.Provider.evolves_awaitReturn`). A provider stays
steady in both (`LiveSearch.Provider.IsSteady`), so that all sessions are closed when it has
returned (`LiveSearch.Provider.IsSteady.closed`).
-/

namespace LiveSearch

namespace Registry

variable {service : Service} {id : Nat} {rest : List Nat}

namespace IsSound

/-- The session that is waited for ends, and its closing comes to its end. -/
theorem awaitClosing (sound : IsSound ⟨service, id :: rest⟩) :
    IsSound ⟨service.awaitClosing id, rest⟩ :=
  ((sound.step (.session id)).step (.session id)).finish

/-- The sessions that have to be closed are closed one after another. -/
theorem closeEach {ids : List Nat} (sound : IsSound ⟨service, ids⟩) :
    IsSound ⟨service.closeEach ids, []⟩ := by
  induction ids generalizing service with
  | nil => exact sound
  | cons id rest ih => exact ih (sound.cancel List.mem_cons_self).awaitClosing

/-- The sessions of all entries are closed. -/
theorem closedAll (sound : IsSound ⟨service, []⟩) : IsSound ⟨service.closeAll, []⟩ :=
  (sound.closeAll (.refl _)).closeEach

end IsSound

end Registry

namespace Service

variable {service : Service}

theorem entries_advance (service : Service) (id : Nat) :
    (service.advance id).entries = service.entries := by
  rw [advance]
  cases stepped : service.step? id with
  | none => rfl
  | some next =>
      obtain ⟨_, _, _, _, _, _, rfl⟩ := step?_cases stepped
      rfl

theorem entries_awaitClosing (id : Nat) : (service.awaitClosing id).entries = service.entries :=
  (finishClosing_keeps _ _).1.trans ((entries_advance _ id).trans (entries_advance service id))

theorem entries_closeEach (ids : List Nat) : (service.closeEach ids).entries = service.entries := by
  induction ids generalizing service with
  | nil => rfl
  | cons id rest ih =>
      exact ih.trans ((entries_awaitClosing id).trans (modifySession_keeps _ _ _).1)

theorem entries_closeAll : service.closeAll.entries = ∅ := entries_closeEach _

end Service

namespace Provider

variable {provider next : Provider}

/-- A provider that is orderly, enters nothing unless it serves, and whose sessions share a
board. -/
structure IsSteady (provider : Provider) : Prop where
  orderly : provider.IsOrderly
  entries : provider.state.isServing = false → provider.service.entries = ∅
  hosted : provider.service.IsHosted

/-- When a steady provider has returned all sessions are closed. -/
theorem IsSteady.closed (steady : provider.IsSteady) (returned : provider.result?.isSome = true)
    {id : Nat} {running : Running} (found : provider.service.running[id]? = some running) :
    running.session.closed = true := by
  obtain ⟨result, state⟩ := state_of_returned returned
  exact steady.orderly.closed (steady.entries (by rw [state]; rfl)) state found

/-- A steady provider stays steady when it is asked to stop. -/
theorem IsSteady.requestShutdown (steady : provider.IsSteady) :
    provider.requestShutdown.IsSteady :=
  ⟨steady.orderly.onward true rfl rfl fun _ => rfl, steady.entries, steady.hosted⟩

/-- Every step of a provider is a sequence of small changes of its service. -/
theorem Moves.evolves (moves : provider.Moves next) :
    Relation.ReflTransGen Service.Evolves provider.service next.service := by
  have around (other : Board) (entries : Std.TreeMap String Entry)
      (detachments : List Detachment) : Relation.ReflTransGen Service.Evolves provider.service
        { provider.service with
          board := provider.service.board.around other, entries, detachments } :=
    .single (.around _ other entries detachments)
  cases moves with
  | listening other => exact around other _ _
  | refused => exact .refl
  | registered other detachments opening result serving registers =>
      obtain ⟨service, pending⟩ := result
      cases pending with
      | none => exact (around other _ detachments).trans registers.evolves
      | some id => exact (around other _ detachments).trans registers.evolves
  | drained other => exact around other ∅ _
  | closed id closing stopped => exact .single (.closed id stopped)
  | cancelled id => exact .single (.cancelled id)
  | ended id rest draining stopped => exact .single (.closed id stopped)
  | returned other => exact around other _ _

/-- A steady provider stays steady when it takes a step. -/
theorem IsSteady.moves (steady : provider.IsSteady) (moves : provider.Moves next) :
    next.IsSteady where
  orderly := steady.orderly.moves moves
  entries := moves.unentered steady.entries
  hosted := Service.isHosted_run moves.evolves steady.hosted

section Awaiting

variable (provider) in
/-- The service when a provider that has been asked to stop has closed the sessions that it is
closing. -/
def awaited : Service :=
  match provider.state with
  | .closing id => provider.service.awaitClosing id
  | .draining ids => provider.service.closeEach ids
  | _ => provider.service

/-- A provider that has returned has nothing to wait for. Any other one closes the sessions that it
is closing and then all others, and stops listening. -/
theorem awaitReturn_cases :
    provider.awaitReturn = provider ∧ provider.result?.isSome = true ∨
      ∃ other, provider.awaitReturn =
        { provider with
          service := { provider.awaited.closeAll with
            board := provider.awaited.closeAll.board.around other }
          status := provider.awaited.closeAll.summaries
          address := none
          state := .returned (.ok ()) } := by
  cases state : provider.state with
  | returned result =>
      refine .inl ⟨?_, ?_⟩
      · simp only [awaitReturn, state]
      · simp only [result?, state, Option.isSome_some]
  | _ =>
      obtain ⟨other, hung⟩ :=
        ({ provider with service := provider.awaited.closeAll } : Provider).publish.hangUp_eq
      refine .inr ⟨other, ?_⟩
      simp only [awaited, state] at hung
      simp only [awaitReturn, awaited, state, hung]
      rfl

variable (orderly : provider.IsOrderly)

include orderly

theorem evolves_awaited :
    Relation.ReflTransGen Service.Evolves provider.service provider.awaited := by
  unfold awaited
  split
  · rename_i id closing
    refine Service.evolves_awaitClosing fun running found => ?_
    obtain ⟨_, _, told⟩ := orderly.told id closing
    rw [Service.identified, found, Option.map_some] at told
    exact (Prod.mk.inj (Prod.mk.inj (Option.some.inj told)).2).2
  · exact Service.evolves_closeEach _
  · exact .refl

theorem awaited_isSound : Registry.IsSound ⟨provider.awaited, []⟩ := by
  have registry := orderly.registry
  rw [Provider.registry] at registry
  unfold awaited
  cases state : provider.state with
  | closing id =>
      rw [state] at registry
      exact registry.awaitClosing
  | draining ids =>
      rw [state] at registry
      exact registry.closeEach
  | _ =>
      rw [state] at registry
      exact registry

/-- The way of a provider to its return is a sequence of small changes of its service. -/
theorem evolves_awaitReturn :
    Relation.ReflTransGen Service.Evolves provider.service provider.awaitReturn.service := by
  rcases provider.awaitReturn_cases with ⟨same, _⟩ | ⟨other, same⟩
  · rw [same]
  · rw [same]
    have closed := (evolves_awaited orderly).trans Service.evolves_closeAll
    exact closed.tail (.around _ other _ _)

end Awaiting

/-- A steady provider stays steady when it is waited for, and it returns. -/
theorem IsSteady.awaitReturn (steady : provider.IsSteady) :
    provider.awaitReturn.IsSteady ∧ provider.awaitReturn.result?.isSome = true := by
  have hosted := Service.isHosted_run (evolves_awaitReturn steady.orderly) steady.hosted
  rcases provider.awaitReturn_cases with ⟨same, returned⟩ | ⟨other, same⟩
  · rw [same]
    exact ⟨steady, returned⟩
  · rw [same] at hosted ⊢
    refine ⟨⟨⟨?_, fun _ => nofun⟩, fun _ => Service.entries_closeAll, hosted⟩, rfl⟩
    exact (awaited_isSound steady.orderly).closedAll.onward rfl rfl fun _ => rfl

end Provider

namespace Deployment

variable {deployment : Deployment}

variable (deployment) in
/-- Every event is a sequence of small changes of the service. -/
theorem evolves_after (event : Event) : Relation.ReflTransGen Service.Evolves deployment.service
    (deployment.after event).service := by
  have around (other : Board) : Relation.ReflTransGen Service.Evolves deployment.service
      (deployment.service.withBoard (deployment.service.board.around other)) :=
    .single (.around _ other _ _)
  have stored (database : Database) : Relation.ReflTransGen Service.Evolves deployment.service
      (deployment.service.withDatabase database) :=
    .single (.around database deployment.service.board _ _)
  cases event with
  | act act =>
      cases act with
      | subscribe name => exact around (deployment.service.board.subscribe name)
      | unsubscribe name => exact around (deployment.service.board.unsubscribe name)
      | request request => exact stored _
      | failWrites failure => exact around (deployment.service.board.setFailure failure)
      | deleteList name => exact .single (.deleted name)
      | provider =>
          rw [after]
          cases stepped : deployment.bounded.step? with
          | none => exact .refl
          | some next => exact (BoundedProvider.moves_of_step? stepped).evolves
      | session id =>
          rw [after]
          cases stepped : deployment.service.step? id with
          | none => exact .refl
          | some next => exact .single (.stepped id next stepped)
  | store act => exact stored _
  | write name edit => exact .single (.written name edit)
  | around other => exact around other
  | reorder order =>
      rw [after]
      split
      · split
        · exact .refl
        · exact .refl
      · exact .refl
  | shutdown => exact .refl
  | endSubscriptions =>
      rw [after, Provider.endSubscriptions]
      split
      · exact .refl
      · rename_i address _
        exact around { deployment.service.board with
          noticeRoom := deployment.service.board.noticeRoom.finish address }

/-- A steady provider stays steady. -/
theorem isSteady_after (steady : deployment.provider.IsSteady) (event : Event) :
    (deployment.after event).provider.IsSteady := by
  have hosted := Service.isHosted_run (deployment.evolves_after event) steady.hosted
  refine ⟨isOrderly_after steady.orderly event, fun idle => ?_, hosted⟩
  have follows := deployment.after_follows event
  generalize (deployment.after event).provider = next at follows idle
  generalize (deployment.after event).given = given at follows
  cases follows with
  | moved _ moves => exact moves.unentered steady.entries idle
  | reordered ids order draining same => exact steady.entries (by rw [draining]; rfl)
  | aside service given shutdown spares => exact spares.entries.trans (steady.entries idle)

end Deployment

end LiveSearch
