import LiveSearch.Proofs.Board.Clients
import LiveSearch.Proofs.Service.Registry
import LiveSearch.Service.Bounded

/-! # What the provider can do next

Every step of the provider is one of a few (`LiveSearch.Provider.Moves`), also when it counts
subscribers up to a largest number only (`LiveSearch.BoundedProvider.moves_of_step?`). None of them
makes a session lose its name (`LiveSearch.Provider.Moves.nameOf`), and each keeps the registry of
the loop sound and waits for sessions that have been told to end
(`LiveSearch.Provider.IsOrderly.moves`).
-/

namespace LiveSearch

/-- The sessions that the loop is closing. -/
def LoopState.ending : LoopState → List Nat
  | .closing id => [id]
  | .draining ids => ids
  | _ => []

namespace Service

/-- The name of the session of an id. -/
def nameOf (service : Service) (id : Nat) : Option String :=
  (service.identified id).map Prod.fst

variable {service : Service} {id : Nat}

theorem nameOf_of_found {running : Running} (found : service.running[id]? = some running) :
    service.nameOf id = some running.session.name := by
  rw [nameOf, identified, found]
  rfl

theorem found_of_nameOf {name : String} (named : service.nameOf id = some name) :
    ∃ running : Running, service.running[id]? = some running ∧ running.session.name = name := by
  rw [nameOf, identified, Option.map_map] at named
  exact Option.map_eq_some_iff.mp named

/-- A session that is told to end keeps its name. -/
theorem nameOf_cancel (other : Nat) :
    (service.modifySession id Session.cancel).nameOf other = service.nameOf other := by
  rw [nameOf, identified_cancel]
  split
  · rw [Option.map_map]
    rfl
  · rfl

/-- A session that is closed keeps its name. -/
theorem nameOf_finishClosing (other : Nat) :
    (service.finishClosing id).nameOf other = service.nameOf other := by
  rw [nameOf, identified_finishClosing]
  split
  · rw [Option.map_map]
    rfl
  · rfl

/-- Whatever the registry does, all sessions keep their names. -/
theorem Registers.nameOf {opening : Option String} {result : Service × Option Nat}
    (registers : service.Registers opening result) (sound : Registry.IsSound ⟨service, []⟩)
    {name : String} (named : service.nameOf id = some name) : result.1.nameOf id = some name := by
  cases registers with
  | unchanged => exact named
  | counted => exact named
  | removed _ other entry found =>
      have erased : { service with entries := service.entries.erase other }.nameOf id = some name :=
        named
      exact (nameOf_cancel id).trans erased
  | opened other descriptor absent parsed =>
      obtain ⟨identity, identified, rfl⟩ := Option.map_eq_some_iff.mp named
      have different : service.nextSession ≠ id :=
        (Nat.ne_of_lt (sound.known id identity identified)).symm
      change ((service.openSession other descriptor).2.identified id).map Prod.fst = _
      rw [identified_openSession, if_neg different, identified]
      rfl

/-- A session that the registry waits for has been told to end. -/
theorem Registers.told {opening : Option String} {next : Service}
    (registers : service.Registers opening (next, some id))
    (sound : Registry.IsSound ⟨service, []⟩) :
    ∃ name closed, next.identified id = some (name, closed, true) := by
  cases registers with
  | removed _ name entry found =>
      obtain ⟨_, _, _, identified⟩ := sound.entered name entry found
      refine ⟨name, false, ?_⟩
      rw [identified_cancel, if_pos rfl]
      exact congrArg (Option.map _) identified

end Service

namespace Provider

/-- The registry of the loop, at work. -/
def registry (provider : Provider) : Registry := ⟨provider.service, provider.state.ending⟩

/-- The provider when everything but the lists has changed on the board, and reports have been
read. -/
def around (provider : Provider) (other : Board) (detachments : List Detachment) : Provider :=
  { provider with
    service := { provider.service with
      board := provider.service.board.around other
      detachments } }

/-- A step of the provider: it begins to listen, or it fails to; it does what a notice or a report
asks for; it begins to close every session; it finishes closing a session that it waits for; it
tells one to end; or it returns. -/
inductive Moves (provider : Provider) : Provider → Prop
  | listening (other : Board) (address : Nat) (starting : provider.state = .starting) :
      Moves provider { provider.around other provider.service.detachments with
        address := some address, state := .serving }
  | refused (failure : Failure) (starting : provider.state = .starting) :
      Moves provider { provider with state := .returned (.error failure) }
  | registered (other : Board) (detachments : List Detachment) (opening : Option String)
      (result : Service × Option Nat) (serving : provider.state = .serving)
      (registers : (provider.around other detachments).service.Registers opening result) :
      Moves provider (provider.goOn result)
  | drained (other : Board) (serving : provider.state = .serving) :
      Moves provider (provider.around other provider.service.detachments).drain
  | closed (id : Nat) (closing : provider.state = .closing id)
      (stopped : provider.service.hasStopped id = true) :
      Moves provider { provider with
        service := provider.service.finishClosing id, state := .serving }.publish
  | cancelled (id : Nat) (rest : List Nat) (draining : provider.state = .draining (id :: rest)) :
      Moves provider { provider with
        service := provider.service.modifySession id Session.cancel }
  | ended (id : Nat) (rest : List Nat) (draining : provider.state = .draining (id :: rest))
      (stopped : provider.service.hasStopped id = true) :
      Moves provider { provider with
        service := provider.service.finishClosing id, state := .draining rest }
  | returned (other : Board) (draining : provider.state = .draining []) :
      Moves provider { provider.publish.around other provider.service.detachments with
        address := none, state := .returned (.ok ()) }

variable {provider next : Provider}

/-- A provider that listens serves, and a listening that fails says why. -/
theorem listen_cases :
    (∃ failure, provider.listen = .error failure) ∨
      ∃ other address, provider.listen =
        .ok { provider.around other provider.service.detachments with
          address := some address, state := .serving } := by
  unfold listen
  split
  · exact .inl ⟨_, rfl⟩
  · unfold Board.listen
    cases Pattern.compile? provider.pattern with
    | none => exact .inl ⟨_, rfl⟩
    | some regex =>
        let box := provider.service.board.noticeRoom.openBox []
        exact .inr ⟨{ provider.service.board with
          listeners := provider.service.board.listeners ++ [⟨regex, box.1⟩]
          noticeRoom := box.2 }, box.1, rfl⟩

/-- Reading a notice changes nothing but the queue. -/
theorem around_findNotice (provider : Provider) :
    provider.around provider.findNotice.2 provider.service.detachments =
      { provider with service := provider.service.withBoard provider.findNotice.2 } := by
  unfold findNotice
  split <;> rfl

private theorem moves_of_serve? (serving : provider.state = .serving)
    (served : provider.serve? = some next) : provider.Moves next := by
  unfold serve? at served
  split at served
  · rw [← Option.some.inj served]
    exact .drained provider.service.board serving
  · split at served
    · rename_i report rest _
      rw [← Option.some.inj served]
      exact .registered provider.service.board rest none _ serving
        (Service.dropDetached_registers _ report)
    · have read := provider.around_findNotice
      split at served
      · exact nomatch served
      · rw [← Option.some.inj served]
        exact .drained provider.service.board serving
      · rename_i notice board found
        rw [found] at read
        have same : (provider.around board provider.service.detachments).service =
            provider.service.withBoard board := congrArg Provider.service read
        dsimp only at served
        split at served
        · rw [← Option.some.inj served, ← same]
          exact .registered board _ _ _ serving (Service.addSubscriber_registers _ notice.name)
        · rw [← Option.some.inj served, ← same]
          exact .registered board _ _ _ serving (Service.dropSubscriber_registers _ notice.name)

variable (provider) in
/-- The provider stops reading subscriptions. -/
theorem hangUp_eq : ∃ other, provider.hangUp =
    { provider.around other provider.service.detachments with address := none } := by
  unfold hangUp
  split
  · rename_i absent
    refine ⟨provider.service.board, ?_⟩
    rw [← absent]
    rfl
  · exact ⟨provider.service.board.stopListening _, rfl⟩

private theorem moves_of_drain? {ids : List Nat} (draining : provider.state = .draining ids)
    (drained : provider.drain? ids = some next) : provider.Moves next := by
  cases ids with
  | nil =>
      obtain ⟨other, hung⟩ := provider.publish.hangUp_eq
      rw [← Option.some.inj drained, hung]
      exact .returned other draining
  | cons id rest =>
      rw [drain?] at drained
      split at drained
      · rename_i stopped
        rw [← Option.some.inj drained]
        exact .ended id rest draining stopped
      · split at drained
        · exact nomatch drained
        · rw [← Option.some.inj drained]
          exact .cancelled id rest draining

/-- Every step of the provider is one of these. -/
theorem moves_of_step? (stepped : provider.step? = some next) : provider.Moves next := by
  unfold step? at stepped
  split at stepped
  · rename_i starting
    rcases provider.listen_cases with ⟨failure, refused⟩ | ⟨other, address, listening⟩
    · rw [refused] at stepped
      rw [← Option.some.inj stepped]
      exact .refused _ starting
    · rw [listening] at stepped
      rw [← Option.some.inj stepped]
      exact .listening other address starting
  · rename_i serving
    exact moves_of_serve? serving stepped
  · rename_i id closing
    split at stepped
    · rename_i stopped
      rw [← Option.some.inj stepped]
      exact .closed id closing stopped
    · exact nomatch stepped
  · rename_i ids draining
    exact moves_of_drain? draining stepped
  · exact nomatch stepped

section Registering

variable (sound : provider.registry.IsSound)

include sound

/-- The registry of a serving provider goes on while the board changes and reports are read. -/
theorem around_isSound (serving : provider.state = .serving) (other : Board)
    (detachments : List Detachment) :
    Registry.IsSound ⟨(provider.around other detachments).service, []⟩ := by
  rw [registry, serving] at sound
  exact sound.onward rfl rfl fun _ => rfl

/-- Every entry has a session of its own that is not closed, and every session that is not closed
has an entry or will be closed. -/
theorem Moves.isSound (moves : provider.Moves next) : next.registry.IsSound := by
  cases moves with
  | listening other address starting =>
      rw [registry, starting] at sound
      exact sound.onward rfl rfl fun _ => rfl
  | refused failure starting =>
      rw [registry, starting] at sound
      exact sound
  | registered other detachments opening result serving registers =>
      have registered := (around_isSound sound serving other detachments).registers registers
      obtain ⟨service, pending⟩ := result
      cases pending with
      | none =>
          change Registry.IsSound ⟨service, provider.state.ending⟩
          rw [serving]
          exact registered
      | some id => exact registered
  | drained other serving =>
      have still := around_isSound sound serving other provider.service.detachments
      exact still.closeAll (.refl _)
  | closed id closing stopped =>
      rw [registry, closing] at sound
      exact sound.finish
  | cancelled id rest draining =>
      have member : id ∈ provider.registry.closing := by
        rw [registry, draining]
        exact List.mem_cons_self
      exact sound.cancel member
  | ended id rest draining stopped =>
      rw [registry, draining] at sound
      exact sound.finish
  | returned other draining =>
      rw [registry, draining] at sound
      exact sound.onward rfl rfl fun _ => rfl

/-- A session that was ever opened is kept under its name. -/
theorem Moves.nameOf (moves : provider.Moves next) {id : Nat} {name : String}
    (named : provider.service.nameOf id = some name) : next.service.nameOf id = some name := by
  cases moves with
  | registered other detachments opening result serving registers =>
      have kept := registers.nameOf (around_isSound sound serving other detachments) named
      obtain ⟨service, pending⟩ := result
      cases pending with
      | none => exact kept
      | some id => exact kept
  | closed other closing stopped => exact (Service.nameOf_finishClosing id).trans named
  | cancelled other rest draining => exact (Service.nameOf_cancel id).trans named
  | ended other rest draining stopped => exact (Service.nameOf_finishClosing id).trans named
  | listening | refused | drained | returned => exact named

end Registering

/-- The registry of the loop is sound, and a session that the loop waits for has been told to
end. -/
structure IsOrderly (provider : Provider) : Prop where
  registry : provider.registry.IsSound
  told : ∀ id, provider.state = .closing id →
    ∃ name closed, provider.service.identified id = some (name, closed, true)

namespace IsOrderly

variable (orderly : provider.IsOrderly)

include orderly

/-- Every step of the provider keeps it orderly. -/
theorem moves (moves : provider.Moves next) : next.IsOrderly where
  registry := moves.isSound orderly.registry
  told id closing := by
    cases moves with
    | registered other detachments opening result serving registers =>
        obtain ⟨service, pending⟩ := result
        cases pending with
        | none => exact nomatch serving.symm.trans closing
        | some waited =>
            obtain rfl := LoopState.closing.inj closing
            exact registers.told (around_isSound orderly.registry serving other detachments)
    | cancelled other rest draining => exact nomatch draining.symm.trans closing
    | _ => exact nomatch closing

/-- The loop does nothing while others change what is around it. -/
theorem onward {service : Service} (shutdown : Bool)
    (entries : service.entries = provider.service.entries)
    (numbers : service.nextSession = provider.service.nextSession)
    (same : ∀ id, service.identified id = provider.service.identified id) :
    IsOrderly { provider with service, shutdown } where
  registry := orderly.registry.onward entries numbers same
  told id closing := by
    rw [same id]
    exact orderly.told id closing

/-- The sessions that remain are closed in another order. -/
theorem reorder {ids order : List Nat} (draining : provider.state = .draining ids)
    (same : order.Perm ids) : IsOrderly { provider with state := .draining order } where
  registry := by
    have sound := orderly.registry
    rw [Provider.registry, draining] at sound
    exact sound.reorder same
  told _ := nofun

/-- When a provider has returned that enters nothing, all sessions are closed. -/
theorem closed (unentered : provider.service.entries = ∅) {result : Except Failure Unit}
    (state : provider.state = .returned result) {id : Nat} {running : Running}
    (found : provider.service.running[id]? = some running) : running.session.closed = true := by
  have registry := orderly.registry
  rw [Provider.registry, state] at registry
  cases unclosed : running.session.closed with
  | true => rfl
  | false =>
      obtain ⟨entry, entered, _⟩ := registry.entry_of_unclosed found unclosed
      rw [unentered] at entered
      cases Std.TreeMap.getElem?_emptyc.symm.trans entered

end IsOrderly

/-- A provider that has a result has returned. -/
theorem state_of_returned (returned : provider.result?.isSome = true) :
    ∃ result, provider.state = .returned result := by
  rw [result?] at returned
  split at returned
  · exact ⟨_, ‹_›⟩
  · exact absurd returned Bool.false_ne_true

end Provider

namespace BoundedProvider

/-- A subscription that cannot be counted is the next one that the provider reads, which serves and
has not been asked to stop. -/
theorem serving_of_overflowing {bounded : BoundedProvider} {name : String} {board : Board}
    (overflowing : bounded.overflowing? = some (name, board)) :
    bounded.provider.state = .serving ∧ bounded.provider.shutdown = false ∧
      board = bounded.provider.findNotice.2 := by
  unfold overflowing? at overflowing
  dsimp only at overflowing
  split at overflowing
  · rename_i serving attentive _ found
    split at overflowing
    · refine ⟨serving, attentive, ?_⟩
      rw [found, (Prod.mk.inj (Option.some.inj overflowing)).2]
    · exact nomatch overflowing
  · exact nomatch overflowing

/-- A provider that counts subscribers up to a largest number does nothing else than closing every
session when it cannot count one. -/
theorem moves_of_step? {bounded next : BoundedProvider} (stepped : bounded.step? = some next) :
    bounded.provider.Moves next.provider := by
  unfold step? at stepped
  split at stepped
  · rename_i name board overflowing
    obtain ⟨serving, _, rfl⟩ := serving_of_overflowing overflowing
    rw [← Option.some.inj stepped, ← bounded.provider.around_findNotice]
    exact .drained _ serving
  · obtain ⟨provider, moved, rfl⟩ := Option.map_eq_some_iff.mp stepped
    exact Provider.moves_of_step? moved

end BoundedProvider

end LiveSearch
