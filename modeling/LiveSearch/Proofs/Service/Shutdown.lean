import LiveSearch.Proofs.Service.Agreement
import LiveSearch.Proofs.Service.Counter
import LiveSearch.Proofs.Service.Upkeep

/-! # Nothing is left behind

A provider shares its record store and its board with any number of other clients, which use the
store as they like and write lists that are not those of its sessions (`LiveSearch.Deployment`).
An event is a step of the provider, or it leaves the registry and the names of all sessions alone
(`LiveSearch.Deployment.after_follows`), so what is in order stays in order
(`LiveSearch.Deployment.isKept_run`). Whatever makes the provider return, and at whatever moment,
nothing is left of its searches (`LiveSearch.Deployment.run_isCleared`); and it can always return
when it is asked to stop (`LiveSearch.Deployment.run_shutdown_canReturn`).
-/

namespace LiveSearch

/-- A provider among other clients of its record store and its board. -/
structure Deployment where
  bounded : BoundedProvider
  /-- The addresses of the changefeeds that sessions have opened. -/
  given : List Nat

namespace Deployment

/-- What happens to a deployment. -/
inductive Event
  /-- Something is asked of the store, the board or the provider, or a task takes a step. -/
  | act (act : Act)
  /-- Another client asks something of the store, or opens, reads or gives up a changefeed. -/
  | store (act : Database.Act)
  /-- Another client changes the entries of a list. -/
  | write (name : String) (edit : Handle.Edit)
  /-- Everything but the lists changes on the board: writes fail or succeed again, observers and
  listeners come and go. -/
  | around (other : Board)
  /-- The sessions that remain when the provider ends are closed in another order. -/
  | reorder (order : List Nat)
  | shutdown
  | endSubscriptions

/-- The list that an event writes without the provider. -/
def Event.written? : Event → Option String
  | .write name _ => some name
  | _ => none

/-- A provider that has not begun to listen, over an empty store and an empty board. -/
def start (listPrefix primaryKey storeKey : String) (capacity most : Nat)
    (refusal : Option ServiceError) : Deployment :=
  let service := Service.start primaryKey (Database.empty storeKey) (Board.empty capacity)
  ⟨⟨Provider.start listPrefix service refusal, most, none⟩, []⟩

def provider (deployment : Deployment) : Provider := deployment.bounded.provider

def service (deployment : Deployment) : Service := deployment.provider.service

/-- Change the provider. -/
def withProvider (deployment : Deployment) (provider : Provider) : Deployment :=
  { deployment with bounded := { deployment.bounded with provider } }

/-- Change the service. -/
def withService (deployment : Deployment) (service : Service) : Deployment :=
  deployment.withProvider { deployment.provider with service }

/-- The deployment after an event; a task that can only wait does nothing. -/
def after (deployment : Deployment) : Event → Deployment
  | .act .provider =>
    { deployment with bounded := deployment.bounded.step?.getD deployment.bounded }
  | .act (.session id) =>
    match deployment.service.step? id with
    | none => deployment
    | some next =>
      { deployment.withService next with
        given := deployment.given ++
          deployment.service.database.feedRoom.opened next.database.feedRoom }
  | .act act => deployment.withProvider (deployment.provider.perform act)
  | .store act =>
    deployment.withService (deployment.service.withDatabase (act.after deployment.service.database))
  | .write name edit =>
    let (handle, board) := deployment.service.board.handleFor name
    deployment.withService (deployment.service.withBoard (handle.perform board edit).2.1)
  | .around other =>
    deployment.withService (deployment.service.withBoard (deployment.service.board.around other))
  | .reorder order =>
    match deployment.provider.state with
    | .draining ids =>
      if order.isPerm ids then
        deployment.withProvider { deployment.provider with state := .draining order }
      else deployment
    | _ => deployment
  | .shutdown => deployment.withProvider deployment.provider.requestShutdown
  | .endSubscriptions => deployment.withProvider deployment.provider.endSubscriptions

/-- The deployment after several events. -/
def run (deployment : Deployment) (events : List Event) : Deployment :=
  events.foldl after deployment

/-- The names of all sessions that were ever opened. -/
def searches (deployment : Deployment) : List String :=
  deployment.service.running.values.map fun running => running.session.name

/-- Nothing is left of the searches: the registry and what is public of it are empty, every session
that was ever opened is closed and its worker has ended, no list of its name exists, and no
changefeed that a session has opened is counted. -/
structure IsCleared (deployment : Deployment) : Prop where
  entries : deployment.service.entries.isEmpty = true
  status : deployment.provider.status = []
  sessions : ∀ id, 0 < id → id < deployment.service.nextSession →
    ∃ running, deployment.service.running[id]? = some running ∧ running.session.closed = true ∧
      running.session.phase.isStopped = true ∧
        deployment.service.board.lists[running.session.name]? = none
  feeds : ∀ name, deployment.service.database.feedCount name =
    ((deployment.service.database.table name).feeds.filter fun feed =>
      deployment.service.database.feedRoom.isOpen feed.address &&
        !deployment.given.contains feed.address).length

/-- The service after an event with which the loop has nothing to do. -/
structure Spares (deployment : Deployment) (event : Event) (service : Service) (given : List Nat) :
    Prop where
  entries : service.entries = deployment.service.entries
  numbers : service.nextSession = deployment.service.nextSession
  same : ∀ id, service.identified id = deployment.service.identified id
  kept : ∀ foreign : String → Prop, (∀ name ∈ event.written?, foreign name) →
    deployment.service.IsKept foreign deployment.given → service.IsKept foreign given

/-- The provider takes a step, or the sessions that remain are closed in another order, or the loop
does nothing. -/
inductive Follows (deployment : Deployment) (event : Event) : Provider → List Nat → Prop
  | moved (next : Provider) (moves : deployment.provider.Moves next) :
      Follows deployment event next deployment.given
  | reordered (ids order : List Nat) (draining : deployment.provider.state = .draining ids)
      (same : order.Perm ids) :
      Follows deployment event { deployment.provider with state := .draining order }
        deployment.given
  | aside (service : Service) (given : List Nat) (shutdown : Bool)
      (spares : deployment.Spares event service given) :
      Follows deployment event { deployment.provider with service, shutdown } given

variable {foreign : String → Prop} {deployment : Deployment} {event : Event} {next : Provider}
  {given : List Nat}

section Events

variable (deployment event)

/-- Nothing happens. -/
private theorem spares_self : deployment.Spares event deployment.service deployment.given :=
  ⟨rfl, rfl, fun _ => rfl, fun _ _ kept => kept⟩

/-- Everything but the lists changes on the board. -/
private theorem spares_around (other : Board) : deployment.Spares event
    (deployment.service.withBoard (deployment.service.board.around other)) deployment.given :=
  ⟨rfl, rfl, fun _ => rfl, fun _ _ kept => kept.around other _⟩

/-- Others use the store. -/
private theorem spares_store (act : Database.Act) : deployment.Spares event
    (deployment.service.withDatabase (act.after deployment.service.database)) deployment.given :=
  ⟨rfl, rfl, fun _ => rfl, fun _ _ kept =>
    ⟨kept.custody, kept.readership.act act, kept.numbered⟩⟩

/-- A list is deleted. -/
private theorem spares_deleteList (name : String) : deployment.Spares event
    (deployment.service.withBoard (deployment.service.board.deleteList name).1)
    deployment.given := by
  refine ⟨rfl, rfl, fun _ => rfl, fun foreign _ kept => ⟨?_, kept.readership, kept.numbered⟩⟩
  exact kept.custody.withdraw (kept.custody.sound.deleteList name)
    (deployment.service.board.deleteList_withdraws name)

variable {event}

/-- A list is written that is not that of a session. -/
private theorem spares_write {name : String} {edit : Handle.Edit}
    (writes : event.written? = some name) :
    deployment.Spares event (deployment.service.withBoard
      ((deployment.service.board.handleFor name).1.perform
        (deployment.service.board.handleFor name).2 edit).2.1) deployment.given := by
  refine ⟨rfl, rfl, fun _ => rfl, fun foreign theirs kept =>
    ⟨?_, kept.readership, kept.numbered⟩⟩
  rw [Handle.perform_eq]
  obtain ⟨sound, writesOnly⟩ := kept.custody.sound.write_new name edit.apply
    (edit.write (deployment.service.board.handleFor name).1.name)
  exact kept.custody.write sound writesOnly (theirs name writes)

/-- A session takes a step. -/
private theorem spares_session {id : Nat} {next : Service}
    (stepped : deployment.service.step? id = some next) :
    deployment.Spares event next (deployment.given ++
      deployment.service.database.feedRoom.opened next.database.feedRoom) := by
  have identities := Service.identity_step? stepped
  have kept {foreign : String → Prop}
      (kept : deployment.service.IsKept foreign deployment.given) := kept.step? stepped
  obtain ⟨_, _, _, _, _, _, rfl⟩ := Service.step?_cases stepped
  exact ⟨rfl, rfl, identities, fun _ _ => kept⟩

variable (event)

/-- Every event is one of these. -/
theorem after_follows : deployment.Follows event (deployment.after event).provider
    (deployment.after event).given := by
  have idle : deployment.Follows event deployment.provider deployment.given :=
    .aside _ _ deployment.provider.shutdown (deployment.spares_self event)
  have around (other : Board) := Follows.aside _ _ deployment.provider.shutdown
    (deployment.spares_around event other)
  cases event with
  | act act =>
      cases act with
      | subscribe name => exact around (deployment.service.board.subscribe name)
      | unsubscribe name => exact around (deployment.service.board.unsubscribe name)
      | request request => exact .aside _ _ _ (deployment.spares_store _ (.request request))
      | failWrites failure => exact around (deployment.service.board.setFailure failure)
      | deleteList name => exact .aside _ _ _ (deployment.spares_deleteList _ name)
      | provider =>
          rw [after]
          cases stepped : deployment.bounded.step? with
          | none => exact idle
          | some next => exact .moved next.provider (BoundedProvider.moves_of_step? stepped)
      | session id =>
          rw [after]
          cases stepped : deployment.service.step? id with
          | none => exact idle
          | some next => exact .aside _ _ _ (deployment.spares_session stepped)
  | store act => exact .aside _ _ _ (deployment.spares_store _ act)
  | write name edit => exact .aside _ _ _ (deployment.spares_write rfl)
  | around other => exact around other
  | reorder order =>
      rw [after]
      split
      · rename_i ids draining
        split
        · rename_i same
          exact .reordered ids order draining (List.isPerm_iff.mp same)
        · exact idle
      · exact idle
  | shutdown => exact .aside _ _ true (deployment.spares_self _)
  | endSubscriptions =>
      rw [after, Provider.endSubscriptions]
      split
      · exact idle
      · rename_i address _
        exact around { deployment.service.board with
          noticeRoom := deployment.service.board.noticeRoom.finish address }

end Events

/-- An orderly provider stays orderly. -/
theorem Follows.isOrderly (follows : deployment.Follows event next given)
    (orderly : deployment.provider.IsOrderly) : next.IsOrderly := by
  cases follows with
  | moved _ moves => exact orderly.moves moves
  | reordered ids order draining same => exact orderly.reorder draining same
  | aside service given shutdown spares =>
      exact orderly.onward shutdown spares.entries spares.numbers spares.same

/-- Every session keeps its name. -/
theorem Follows.nameOf (follows : deployment.Follows event next given)
    (orderly : deployment.provider.IsOrderly) {id : Nat} {name : String}
    (named : deployment.service.nameOf id = some name) :
    next.service.nameOf id = some name := by
  cases follows with
  | moved _ moves => exact moves.nameOf orderly.registry named
  | reordered ids order draining same => exact named
  | aside service given shutdown spares =>
      rw [Service.nameOf, spares.same id]
      exact named

/-- What is in order stays in order. -/
theorem Follows.isKept (follows : deployment.Follows event next given)
    (kept : deployment.provider.IsKept foreign deployment.given)
    (theirs : ∀ name ∈ event.written?, foreign name)
    (own : ∀ (id : Nat) (running : Running), next.service.running[id]? = some running →
      ¬ foreign running.session.name) : next.IsKept foreign given := by
  cases follows with
  | moved _ moves => exact kept.moves moves own
  | reordered ids order draining same => exact kept.reorder draining same
  | aside service given shutdown spares =>
      exact kept.onward shutdown spares.entries spares.numbers spares.same
        (spares.kept foreign theirs kept.service)

theorem mem_searches {name : String} :
    name ∈ deployment.searches ↔ ∃ id, deployment.service.nameOf id = some name := by
  rw [searches, List.mem_map]
  constructor
  · rintro ⟨running, member, rfl⟩
    obtain ⟨id, found⟩ := mem_values.mp member
    exact ⟨id, Service.nameOf_of_found found⟩
  · rintro ⟨id, named⟩
    obtain ⟨running, found, same⟩ := Service.found_of_nameOf named
    exact ⟨running, mem_values.mpr ⟨id, found⟩, same⟩

/-- After every event an orderly provider is orderly. -/
theorem isOrderly_after (orderly : deployment.provider.IsOrderly) (event : Event) :
    (deployment.after event).provider.IsOrderly :=
  (deployment.after_follows event).isOrderly orderly

/-- Through every run the provider stays orderly. -/
theorem isOrderly_run (orderly : deployment.provider.IsOrderly) (events : List Event) :
    (deployment.run events).provider.IsOrderly := by
  induction events generalizing deployment with
  | nil => exact orderly
  | cons event rest ih => exact ih (isOrderly_after orderly event)

/-- No session that was ever opened is forgotten. -/
theorem searches_run (orderly : deployment.provider.IsOrderly) (events : List Event)
    {name : String} (member : name ∈ deployment.searches) :
    name ∈ (deployment.run events).searches := by
  induction events generalizing deployment with
  | nil => exact member
  | cons event rest ih =>
      have follows := deployment.after_follows event
      obtain ⟨id, named⟩ := mem_searches.mp member
      exact ih (isOrderly_after orderly event)
        (mem_searches.mpr ⟨id, follows.nameOf orderly named⟩)

/-- As long as others write no list of a session everything stays in order. -/
theorem isKept_run (events : List Event)
    (kept : deployment.provider.IsKept foreign deployment.given)
    (theirs : ∀ event ∈ events, ∀ name ∈ event.written?, foreign name)
    (own : ∀ name ∈ (deployment.run events).searches, ¬ foreign name) :
    (deployment.run events).provider.IsKept foreign (deployment.run events).given := by
  induction events generalizing deployment with
  | nil => exact kept
  | cons event rest ih =>
      obtain ⟨here, later⟩ := List.forall_mem_cons.mp theirs
      have follows := deployment.after_follows event
      have orderly := isOrderly_after kept.orderly event
      refine ih (follows.isKept kept here fun id running found => ?_) later own
      have member : running.session.name ∈ (deployment.after event).searches :=
        mem_searches.mpr ⟨id, Service.nameOf_of_found found⟩
      exact own _ (searches_run orderly rest member)

section Starting

variable (listPrefix primaryKey storeKey : String) (capacity most : Nat)
  (refusal : Option ServiceError)

/-- A provider that has not begun is orderly. -/
theorem isOrderly_start :
    (start listPrefix primaryKey storeKey capacity most refusal).provider.IsOrderly where
  registry := Registry.start_isSound primaryKey _ _
  told _ := nofun

/-- A provider that has not begun is in order. -/
theorem isKept_start :
    (start listPrefix primaryKey storeKey capacity most refusal).provider.IsKept foreign
      (start listPrefix primaryKey storeKey capacity most refusal).given where
  orderly := isOrderly_start listPrefix primaryKey storeKey capacity most refusal
  service := {
    custody := .of_empty (Board.isSound_empty capacity) fun _ => Std.TreeMap.getElem?_emptyc
    readership := .of_empty (Database.isSound_empty storeKey).toIsTidy
    numbered := fun _ positive known => absurd positive (Nat.not_lt.mpr (Nat.le_of_lt_succ known)) }
  entries _ := rfl
  status _ := rfl

end Starting

/-- When everything is in order and the provider has returned, nothing is left of its searches. -/
theorem isCleared_of_isKept (kept : deployment.provider.IsKept foreign deployment.given)
    (returned : deployment.bounded.result?.isSome = true) : deployment.IsCleared := by
  rw [BoundedProvider.result?, Option.isSome_map] at returned
  obtain ⟨result, state⟩ : ∃ result, deployment.provider.state = .returned result :=
    Provider.state_of_returned returned
  obtain ⟨orderly, ⟨custody, readership, numbered⟩, entries, status⟩ := kept
  have unentered : deployment.service.entries = ∅ := entries (by rw [state]; rfl)
  have closed (id : Nat) (running : Running)
      (found : deployment.service.running[id]? = some running) :
      running.session.closed = true := orderly.closed unentered state found
  have stopped (id : Nat) (running : Running)
      (found : deployment.service.running[id]? = some running) :
      running.session.phase.isStopped = true :=
    congrArg Phase.isStopped ((custody.tended id running found).closed (closed id running found))
  refine ⟨?_, status (by rw [state]; rfl), fun id positive known => ?_, fun name => ?_⟩
  · rw [unentered]
    exact Std.TreeMap.isEmpty_emptyc
  · obtain ⟨running, found⟩ := Option.isSome_iff_exists.mp (numbered id positive known)
    exact ⟨running, found, closed id running found, stopped id running found,
      custody.abandoned closed found⟩
  · refine congrArg List.length (List.filter_congr fun feed _ => ?_)
    cases member : deployment.given.contains feed.address with
    | false => exact (Bool.and_true _).symm
    | true =>
        have unread := readership.closed stopped (List.contains_iff_mem.mp member)
        exact unread.trans (Bool.and_false _).symm

/-- Whenever a provider has returned, after any run in which others write no list of a session,
nothing is left of its searches. -/
theorem run_isCleared (listPrefix primaryKey storeKey : String) (capacity most : Nat)
    (refusal : Option ServiceError) (events : List Event)
    (apart : ∀ event ∈ events, ∀ name ∈ event.written?,
      name ∉ ((start listPrefix primaryKey storeKey capacity most refusal).run events).searches)
    (returned : ((start listPrefix primaryKey storeKey capacity most refusal).run
      events).bounded.result?.isSome = true) :
    ((start listPrefix primaryKey storeKey capacity most refusal).run events).IsCleared := by
  let started := start listPrefix primaryKey storeKey capacity most refusal
  let foreign (name : String) : Prop := name ∉ (started.run events).searches
  have begun : started.provider.IsKept foreign started.given :=
    isKept_start listPrefix primaryKey storeKey capacity most refusal
  have kept := isKept_run events begun apart fun name member absent => absent member
  exact isCleared_of_isKept kept returned

section Books

open Provider (spanishBooks quixote)

/-- Somebody subscribes to the Spanish books, and when the list of them is followed one comes.
Another list is written. The next subscription is one too many, so the provider ends. -/
def crowd : List Event :=
  [.act .provider, .act (.request (.createTable "books")), .act (.subscribe spanishBooks),
    .act .provider, .act (.session 1), .act (.session 1), .act (.session 1), .act (.session 1),
    .act (.session 1), .act (.request (.upsert "books" quixote)), .act (.session 1),
    .write "favourites" (.add "don"), .act (.subscribe spanishBooks), .act .provider,
    .act .provider, .act (.session 1), .act .provider, .act .provider]

/-- The provider of these events when an entry can have one subscriber. -/
def smallBookshop : Deployment := start "search" "ds_id" "ds_id" 9 1 none

theorem isCleared_crowd :
    ((smallBookshop.run (crowd.take 10)).service.board.lists[spanishBooks]?).isSome = true ∧
      (smallBookshop.run crowd).bounded.failure.isSome = true ∧
      (smallBookshop.run crowd).IsCleared := by
  obtain ⟨returned, failed, free⟩ : (smallBookshop.run crowd).bounded.result?.isSome = true ∧
      (smallBookshop.run crowd).bounded.failure.isSome = true ∧
      "favourites" ∉ (smallBookshop.run crowd).searches := by decide +kernel
  refine ⟨by decide +kernel, failed, ?_⟩
  refine run_isCleared "search" "ds_id" "ds_id" 9 1 none crowd ?_ returned
  intro event member name written
  have apart : event.written? = none ∨ event.written? = some "favourites" := by
    revert event
    simp [crowd, Event.written?]
  rcases apart with none | some
  · exact nomatch none.symm.trans written
  · obtain rfl := Option.some.inj (some.symm.trans written)
    exact free

end Books

/-- A task takes a step. -/
def Event.isStep : Event → Bool
  | .act .provider => true
  | .act (.session _) => true
  | _ => false

/-- Steps of tasks alone can make the provider return. -/
def CanReturn (deployment : Deployment) : Prop :=
  ∃ steps : List Event, (∀ step ∈ steps, step.isStep = true) ∧
    (deployment.run steps).bounded.result?.isSome = true

section Returning

theorem CanReturn.of_after (step : Event) (isStep : step.isStep = true)
    (returns : (deployment.after step).CanReturn) : deployment.CanReturn := by
  obtain ⟨steps, areSteps, returned⟩ := returns
  exact ⟨step :: steps, List.forall_mem_cons.mpr ⟨isStep, areSteps⟩, returned⟩

private theorem canReturn_of_returned {result : Except Failure Unit}
    (state : deployment.provider.state = .returned result) : deployment.CanReturn := by
  refine ⟨[], List.forall_mem_nil _, ?_⟩
  change deployment.bounded.result?.isSome = true
  rw [BoundedProvider.result?, Option.isSome_map]
  have known : deployment.provider.result? = some result := by
    rw [Provider.result?, state]
  exact known ▸ rfl

variable (deployment) in
/-- What a step of a session makes of the provider. -/
private theorem provider_after_session (id : Nat) :
    (deployment.after (.act (.session id))).provider =
      { deployment.provider with
        service := (deployment.service.step? id).getD deployment.service } := by
  rw [after]
  cases deployment.service.step? id with
  | none => rfl
  | some next => rfl

variable (deployment) in
/-- The deployment when a session has been waited for. -/
private def awaited (id : Nat) : Deployment :=
  (deployment.after (.act (.session id))).after (.act (.session id))

variable (deployment) in
private theorem provider_awaited (id : Nat) : (deployment.awaited id).provider =
    { deployment.provider with service := deployment.service.awaitEnd id } := by
  rw [awaited, provider_after_session, service, provider_after_session]
  rfl

private theorem CanReturn.of_awaited {id : Nat} (returns : (deployment.awaited id).CanReturn) :
    deployment.CanReturn :=
  .of_after (.act (.session id)) rfl (.of_after (.act (.session id)) rfl returns)

/-- A session that has been told to end has ended when it has been waited for. -/
private theorem hasStopped_awaited {id : Nat} {name : String} {closed : Bool}
    (told : deployment.service.identified id = some (name, closed, true)) :
    (deployment.awaited id).service.hasStopped id = true := by
  rw [service, provider_awaited]
  exact Service.hasStopped_awaitEnd told

/-- What a step makes of a provider that reads no subscription next. -/
private theorem provider_after_provider
    (deaf : deployment.provider.state = .serving → deployment.provider.shutdown = true)
    (stepped : deployment.provider.step? = some next) :
    (deployment.after (.act .provider)).provider = next := by
  have countable : deployment.bounded.overflowing? = none := by
    cases overflowing : deployment.bounded.overflowing? with
    | none => rfl
    | some subscription =>
        obtain ⟨serving, attentive, _⟩ := BoundedProvider.serving_of_overflowing overflowing
        exact absurd (attentive.symm.trans (deaf serving)) Bool.false_ne_true
  change (deployment.bounded.step?.getD deployment.bounded).provider = next
  rw [BoundedProvider.step?, countable]
  change ((deployment.provider.step?.map _).getD deployment.bounded).provider = next
  rw [stepped]
  rfl

/-- A provider that closes every session reads no subscription next. -/
private theorem deaf_of_draining {ids : List Nat}
    (draining : deployment.provider.state = .draining ids)
    (serving : deployment.provider.state = .serving) : deployment.provider.shutdown = true := by
  cases draining.symm.trans serving

variable (orderly : deployment.provider.IsOrderly)

include orderly

section Draining

variable {id : Nat} {rest : List Nat}
  (draining : deployment.provider.state = .draining (id :: rest))
  (later : ∀ next : Deployment, next.provider.IsOrderly → next.provider.state = .draining rest →
    next.CanReturn)

include draining later

/-- A session that has ended can be closed. -/
private theorem canReturn_of_stopped (stopped : deployment.service.hasStopped id = true) :
    deployment.CanReturn := by
  have stepped : deployment.provider.step? = some { deployment.provider with
      service := deployment.service.finishClosing id, state := .draining rest } := by
    simp only [Provider.step?, draining, Provider.drain?]
    exact if_pos stopped
  refine .of_after (.act .provider) rfl
    (later _ (isOrderly_after orderly _) ?_)
  rw [provider_after_provider (deaf_of_draining draining) stepped]

/-- A session that has been told to end can end. -/
private theorem canReturn_of_told {name : String} {closed : Bool}
    (told : deployment.service.identified id = some (name, closed, true)) :
    deployment.CanReturn := by
  have reached := deployment.provider_awaited id
  have still : (deployment.awaited id).provider.state = .draining (id :: rest) :=
    (congrArg Provider.state reached).trans draining
  exact .of_awaited (canReturn_of_stopped (isOrderly_after (isOrderly_after orderly _) _) still
    later (hasStopped_awaited told))

/-- The next session that remains can be told to end. -/
private theorem canReturn_of_next : deployment.CanReturn := by
  have waits : id ∈ deployment.provider.registry.closing := by
    rw [Provider.registry, draining]
    exact List.mem_cons_self
  have known : (deployment.service.identified id).isSome = true := orderly.registry.waited id waits
  obtain ⟨⟨name, closed, cancelled⟩, identified⟩ := Option.isSome_iff_exists.mp known
  cases cancelled with
  | true => exact canReturn_of_told orderly draining later identified
  | false =>
      by_cases stopped : deployment.service.hasStopped id = true
      · exact canReturn_of_stopped orderly draining later stopped
      · obtain ⟨running, found, same⟩ := Option.map_eq_some_iff.mp identified
        simp only [Service.identity, Prod.mk.injEq] at same
        have untold : (deployment.service.running[id]?).any (·.session.cancelled) = false := by
          rw [found, Option.any_some, same.2.2]
        have stepped : deployment.provider.step? = some { deployment.provider with
            service := deployment.service.modifySession id Session.cancel } := by
          simp only [Provider.step?, draining, Provider.drain?]
          exact (if_neg stopped).trans (if_neg (Bool.eq_false_iff.mp untold))
        have reached := provider_after_provider (deaf_of_draining draining) stepped
        have told : (deployment.after (.act .provider)).service.identified id =
            some (name, closed, true) := by
          rw [service, reached, Service.identified_cancel, if_pos rfl]
          exact congrArg (Option.map _) identified
        exact .of_after (.act .provider) rfl (canReturn_of_told
          (isOrderly_after orderly _)
          ((congrArg Provider.state reached).trans draining) later told)

end Draining

/-- The sessions that remain can be closed one after another. -/
private theorem canReturn_of_draining {ids : List Nat}
    (draining : deployment.provider.state = .draining ids) : deployment.CanReturn := by
  induction ids generalizing deployment with
  | nil =>
      have stepped : deployment.provider.step? =
          some { deployment.provider.publish.hangUp with state := .returned (.ok ()) } := by
        simp only [Provider.step?, draining, Provider.drain?]
      have reached := provider_after_provider (deaf_of_draining draining) stepped
      exact .of_after (.act .provider) rfl
        (canReturn_of_returned (congrArg Provider.state reached))
  | cons id rest ih => exact canReturn_of_next orderly draining fun next => ih

/-- A serving provider that has been asked to stop can begin to close every session. -/
private theorem canReturn_of_serving (serving : deployment.provider.state = .serving)
    (asked : deployment.provider.shutdown = true) : deployment.CanReturn := by
  have stepped : deployment.provider.step? = some deployment.provider.drain := by
    simp only [Provider.step?, serving, Provider.serve?, asked, ↓reduceIte]
  have reached := provider_after_provider (fun _ => asked) stepped
  exact .of_after (.act .provider) rfl (canReturn_of_draining
    (isOrderly_after orderly _) (congrArg Provider.state reached))

/-- A provider that waits for a session that has ended can go on. -/
private theorem canReturn_of_closing {id : Nat} (closing : deployment.provider.state = .closing id)
    (asked : deployment.provider.shutdown = true)
    (stopped : deployment.service.hasStopped id = true) : deployment.CanReturn := by
  have stepped : deployment.provider.step? = some { deployment.provider with
      service := deployment.service.finishClosing id, state := .serving }.publish := by
    simp only [Provider.step?, closing]
    exact if_pos stopped
  have reached := provider_after_provider (fun _ => asked) stepped
  exact .of_after (.act .provider) rfl (canReturn_of_serving
    (isOrderly_after orderly _) (congrArg Provider.state reached)
    ((congrArg Provider.shutdown reached).trans asked))

/-- A provider that has been asked to stop can return. -/
theorem canReturn_of_shutdown (asked : deployment.provider.shutdown = true) :
    deployment.CanReturn := by
  have still := isOrderly_after orderly
  cases state : deployment.provider.state with
  | starting =>
      have deaf : deployment.provider.state = .serving → deployment.provider.shutdown = true :=
        fun _ => asked
      rcases deployment.provider.listen_cases with ⟨failure, refused⟩ | ⟨other, address, listening⟩
      · have stepped : deployment.provider.step? =
            some { deployment.provider with state := .returned (.error (.service failure)) } := by
          simp only [Provider.step?, state, refused]
        have reached := provider_after_provider deaf stepped
        exact .of_after (.act .provider) rfl
          (canReturn_of_returned (congrArg Provider.state reached))
      · have stepped : deployment.provider.step? =
            some { deployment.provider.around other deployment.provider.service.detachments with
              address := some address, state := .serving } := by
          simp only [Provider.step?, state, listening]
        have reached := provider_after_provider deaf stepped
        exact .of_after (.act .provider) rfl (canReturn_of_serving (still _)
          (congrArg Provider.state reached) ((congrArg Provider.shutdown reached).trans asked))
  | serving => exact canReturn_of_serving orderly state asked
  | closing id =>
      obtain ⟨name, closed, told⟩ := orderly.told id state
      have reached := deployment.provider_awaited id
      exact .of_awaited (canReturn_of_closing (isOrderly_after (still _) _)
        ((congrArg Provider.state reached).trans state)
        ((congrArg Provider.shutdown reached).trans asked) (hasStopped_awaited told))
  | draining ids => exact canReturn_of_draining orderly state
  | returned result => exact canReturn_of_returned state

end Returning

/-- Whatever has happened, a provider that is asked to stop can return. -/
theorem run_shutdown_canReturn (listPrefix primaryKey storeKey : String) (capacity most : Nat)
    (refusal : Option ServiceError) (events : List Event) :
    (((start listPrefix primaryKey storeKey capacity most refusal).run events).after
      .shutdown).CanReturn := by
  have orderly := isOrderly_run
    (isOrderly_start listPrefix primaryKey storeKey capacity most refusal) events
  exact canReturn_of_shutdown (isOrderly_after orderly .shutdown) rfl

end Deployment

end LiveSearch
