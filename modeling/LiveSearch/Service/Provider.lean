import LiveSearch.Service.Basic
import LiveSearch.Settings

/-!
# The provider

The provider is the loop that turns subscriptions into sessions.  It looks at its shutdown first,
then at reports of detached sessions, then at subscriptions in order.  While a session closes it
waits for that session alone.  When it is shut down, or when subscriptions end, it closes every
session before it returns.
-/

namespace LiveSearch

/-- Where the loop stands. -/
inductive LoopState
  /-- Before listening. -/
  | starting
  | serving
  /-- Waiting for the end of one session. -/
  | closing (session : Nat)
  /-- Closing the remaining sessions. -/
  | draining (sessions : List Nat)
  | returned (result : Except Failure Unit)

/-- The provider with the service that it runs. -/
structure Provider where
  service : Service
  pattern : String
  /-- What listening fails with. -/
  refusal : Option ServiceError
  /-- Where subscriptions arrive. -/
  address : Option Nat
  shutdown : Bool
  state : LoopState
  /-- The entries as they were last made public. -/
  status : List Service.Summary

namespace Provider

/-- The provider before it listens. -/
def start (listPrefix : String) (service : Service) (refusal : Option ServiceError) : Provider :=
  ⟨service, listenPattern listPrefix, refusal, none, false, .starting, []⟩

/-- Make the entries public. -/
def publish (provider : Provider) : Provider :=
  { provider with status := provider.service.summaries }

/-- Listen for subscriptions. -/
def listen (provider : Provider) : Except ServiceError Provider :=
  match provider.refusal with
  | some failure => .error failure
  | none =>
    match provider.service.board.listen provider.pattern with
    | .error failure => .error failure
    | .ok (address, board) =>
      .ok { provider with
        service := provider.service.withBoard board
        address := some address
        state := .serving }

/-- Begin to close every session. -/
def drain (provider : Provider) : Provider :=
  { provider with
    service := { provider.service with entries := ∅ }
    state := .draining (provider.service.entries.values.map Entry.session) }

/-- Go on after an entry was removed or kept: wait for the session that has to be closed, if there
is one. -/
def goOn (provider : Provider) : Service × Option Nat → Provider
  | (service, none) => { provider with service }.publish
  | (service, some id) => { provider with service, state := .closing id }

/-- What waits at the provider's address. -/
def findNotice (provider : Provider) : Found Notice × Board :=
  let board := provider.service.board
  match provider.address with
  | none => (.nothing, board)
  | some address =>
    let (found, noticeRoom) := board.noticeRoom.read address
    (found, { board with noticeRoom })

/-- Stop reading subscriptions. -/
def hangUp (provider : Provider) : Provider :=
  match provider.address with
  | none => provider
  | some address =>
    { provider with
      service := provider.service.withBoard (provider.service.board.stopListening address)
      address := none }

/-- The next step of the serving loop. -/
def serve? (provider : Provider) : Option Provider :=
  if provider.shutdown then some provider.drain
  else match provider.service.detachments with
    | report :: rest =>
      some (provider.goOn ({ provider.service with detachments := rest }.dropDetached report))
    | [] =>
      match provider.findNotice with
      | (.nothing, _) => none
      | (.finish, _) => some provider.drain
      | (.item notice, board) =>
        let service := provider.service.withBoard board
        if notice.subscribed then some (provider.goOn (service.addSubscriber notice.name, none))
        else some (provider.goOn (service.dropSubscriber notice.name))

/-- The next step of closing the remaining sessions: each is cancelled and then waited for. -/
def drain? (provider : Provider) : List Nat → Option Provider
  | [] =>
    let final := provider.publish.hangUp
    some { final with state := .returned (.ok ()) }
  | id :: rest =>
    if provider.service.hasStopped id then
      some { provider with service := provider.service.finishClosing id, state := .draining rest }
    else if (provider.service.running[id]?).any (·.session.cancelled) then none
    else some { provider with service := provider.service.modifySession id Session.cancel }

/-- The next step of the provider; `none` while it can only wait. -/
def step? (provider : Provider) : Option Provider :=
  match provider.state with
  | .starting =>
    match provider.listen with
    | .ok listening => some listening
    | .error failure => some { provider with state := .returned (.error (.service failure)) }
  | .serving => provider.serve?
  | .closing id =>
    if provider.service.hasStopped id then
      some { provider with
        service := provider.service.finishClosing id, state := .serving }.publish
    else none
  | .draining ids => provider.drain? ids
  | .returned _ => none

/-- The result of a provider that has returned. -/
def result? (provider : Provider) : Option (Except Failure Unit) :=
  match provider.state with
  | .returned result => some result
  | _ => none

/-- Ask the provider to stop. -/
def requestShutdown (provider : Provider) : Provider := { provider with shutdown := true }

/-- End the feed of subscriptions. -/
def endSubscriptions (provider : Provider) : Provider :=
  match provider.address with
  | none => provider
  | some address =>
    let board := provider.service.board
    { provider with
      service := provider.service.withBoard
        { board with noticeRoom := board.noticeRoom.finish address } }

/-- The step of a session inside the provider. -/
def stepSession? (provider : Provider) (id : Nat) : Option Provider :=
  (provider.service.step? id).map fun service => { provider with service }

/-- Wait until a provider that has been asked to stop has returned: it closes the session that it is
waiting for, if any, and then all others. -/
def awaitReturn (provider : Provider) : Provider :=
  match provider.state with
  | .returned _ => provider
  | _ =>
    let service := match provider.state with
      | .closing id => provider.service.awaitClosing id
      | .draining ids => provider.service.closeEach ids
      | _ => provider.service
    let final := { provider with service := service.closeAll }.publish.hangUp
    { final with state := .returned (.ok ()) }

end Provider

end LiveSearch
