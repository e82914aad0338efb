import LiveSearch.Service.Schedule

/-!
# The provider with a largest number of subscribers

A number of subscribers is a machine word.  A subscription that would make it larger than any word
ends the provider: it closes every session, as it does when it is shut down, and returns the failure
of its registry.
-/

namespace LiveSearch

/-- A provider whose entries have a largest number of subscribers. -/
structure BoundedProvider where
  provider : Provider
  /-- The largest number of subscribers that an entry can have. -/
  most : Nat
  /-- What the registry has failed with. -/
  failure : Option Failure

namespace BoundedProvider

/-- The largest machine word. -/
def largestWord : Nat := 18446744073709551615

/-- A provider whose entries count up to the largest word. -/
def ofProvider (provider : Provider) : BoundedProvider := ⟨provider, largestWord, none⟩

/-- The failure of a registry that cannot count one more subscriber of a name. -/
def overflow (name : String) : Failure := .registryInvariant (name ++ ": subscriber count overflow")

/-- The name of the subscription that the provider reads next if its subscribers cannot be counted,
and the board when it has been read. -/
def overflowing? (bounded : BoundedProvider) : Option (String × Board) :=
  let provider := bounded.provider
  match provider.state, provider.shutdown, provider.service.detachments, provider.findNotice with
  | .serving, false, [], (.item ⟨name, true⟩, board) =>
    if (provider.service.entries[name]?).any (bounded.most ≤ ·.subscribers) then some (name, board)
    else none
  | _, _, _, _ => none

/-- The next step of the provider; `none` while it can only wait. -/
def step? (bounded : BoundedProvider) : Option BoundedProvider :=
  match bounded.overflowing? with
  | some (name, board) =>
    let provider := bounded.provider
    some { bounded with
      provider := { provider with service := provider.service.withBoard board }.drain
      failure := some (overflow name) }
  | none => bounded.provider.step?.map fun provider => { bounded with provider }

/-- The step of a session inside the provider. -/
def stepSession? (bounded : BoundedProvider) (id : Nat) : Option BoundedProvider :=
  (bounded.provider.stepSession? id).map fun provider => { bounded with provider }

/-- The result of a provider that has returned. -/
def result? (bounded : BoundedProvider) : Option (Except Failure Unit) :=
  bounded.provider.result?.map fun result =>
    match result, bounded.failure with
    | .ok _, some failure => .error failure
    | _, _ => result

/-- The provider and its sessions as tasks. -/
def taskSystem : TaskSystem BoundedProvider where
  tasks bounded := Provider.taskSystem.tasks bounded.provider
  step?
    | bounded, .session id => bounded.stepSession? id
    | bounded, .provider => bounded.step?
  turns bounded := Provider.taskSystem.turns bounded.provider

end BoundedProvider

end LiveSearch
