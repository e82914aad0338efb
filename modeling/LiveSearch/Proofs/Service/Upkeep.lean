import LiveSearch.Proofs.Service.Loop
import LiveSearch.Proofs.Service.Readers

/-! # What the provider keeps in order

The lists of the board are in the custody of the sessions, the changefeeds that sessions have opened
are read by sessions, and every session that was ever opened is kept (`LiveSearch.Service.IsKept`).
Neither the steps of sessions nor those of the registry change that, and an orderly provider enters
nothing unless it serves, and makes nothing public unless it runs (`LiveSearch.Provider.IsKept`,
`LiveSearch.Provider.IsKept.moves`).
-/

namespace LiveSearch

/-- Searches can have entries. -/
def LoopState.isServing : LoopState → Bool
  | .serving => true
  | .closing _ => true
  | _ => false

/-- The loop has begun and has not returned. -/
def LoopState.isRunning : LoopState → Bool
  | .starting => false
  | .returned _ => false
  | _ => true

namespace Service

/-- The lists of the board are in the custody of the sessions, the boxes that they have opened are
closed unless they read them, and every session that was ever opened is kept. -/
structure IsKept (foreign : String → Prop) (given : List Nat) (service : Service) : Prop where
  custody : Custody foreign service.running service.board
  readership : Readership given service.running service.database
  numbered : ∀ id, 0 < id → id < service.nextSession → (service.running[id]?).isSome = true

namespace IsKept

variable {foreign : String → Prop} {given : List Nat} {service : Service} {id : Nat}
  (kept : service.IsKept foreign given)

include kept

/-- One session takes the place of another one that has the same feed. -/
private theorem replace {before after : Running} {board : Board}
    (found : service.running[id]? = some before)
    (custody : Custody foreign (service.running.insert id after) board)
    (idle : after.session.phase.isIdle = true → before.session.phase.isIdle = true)
    (feed : after.feed = before.feed) :
    IsKept foreign given { service with board, running := service.running.insert id after } where
  custody := custody
  readership := kept.readership.insert
    (fun idles => feed.trans (kept.readership.idle id before found (idle idles)))
    fun other held => Option.some.inj (found.symm.trans held) ▸ feed
  numbered other positive known := by
    change ((service.running.insert id after)[other]?).isSome = true
    rw [lookup_insert]
    split
    · rfl
    · exact kept.numbered other positive known

/-- A session is told to end. -/
theorem cancel : (service.modifySession id Session.cancel).IsKept foreign given := by
  unfold modifySession
  cases found : service.running[id]? with
  | none => exact kept
  | some running => exact kept.replace found (kept.custody.cancel found) (fun idle => idle) rfl

/-- A session whose worker has ended is closed. -/
theorem finishClosing (stopped : service.hasStopped id = true) :
    (service.finishClosing id).IsKept foreign given := by
  unfold Service.finishClosing
  cases found : service.running[id]? with
  | none => exact kept
  | some running =>
      rw [hasStopped, found, Option.any_some] at stopped
      refine kept.replace found (kept.custody.close found stopped) (fun _ => ?_) rfl
      exact Phase.isIdle_of_isStopped stopped

/-- A session is opened for a name that no session has. -/
private theorem openSession {name : String} {descriptor : Descriptor}
    {entries : Std.TreeMap String Entry}
    (absent : service.running[service.nextSession]? = none)
    (free : ∀ (other : Nat) (running : Running), service.running[other]? = some running →
      running.session.closed = false → running.session.name ≠ name) (own : ¬ foreign name) :
    IsKept foreign given { (service.openSession name descriptor).2 with entries } where
  custody := kept.custody.insert absent rfl free own
  readership := kept.readership.insert (fun _ => rfl) fun _ held => nomatch absent.symm.trans held
  numbered other positive known := by
    change ((service.running.insert service.nextSession _)[other]?).isSome = true
    rw [lookup_insert]
    split
    · rfl
    · rename_i different
      exact kept.numbered other positive
        (Nat.lt_of_le_of_ne (Nat.le_of_lt_succ known) fun same => different same.symm)

/-- The registry does something, and opens no session for a name that others write. -/
theorem registers (sound : Registry.IsSound ⟨service, []⟩) {opening : Option String}
    {result : Service × Option Nat} (registers : service.Registers opening result)
    (own : ∀ (id : Nat) (running : Running), result.1.running[id]? = some running →
      ¬ foreign running.session.name) : result.1.IsKept foreign given := by
  cases registers with
  | unchanged => exact kept
  | counted => exact ⟨kept.custody, kept.readership, kept.numbered⟩
  | removed _ name entry found =>
      have erased : IsKept foreign given { service with entries := service.entries.erase name } :=
        ⟨kept.custody, kept.readership, kept.numbered⟩
      exact erased.cancel
  | opened name descriptor absent parsed =>
      refine kept.openSession ?_ ?_ ?_
      · cases held : service.running[service.nextSession]? with
        | none => rfl
        | some running =>
            refine absurd (sound.known service.nextSession (identity running) ?_) (Nat.lt_irrefl _)
            rw [identified, held, Option.map_some]
      · -- A session of the name that is not closed would have an entry.
        rintro other running held unclosed rfl
        obtain ⟨entry, entered, _⟩ := sound.entry_of_unclosed held unclosed
        cases absent.symm.trans entered
      · exact own service.nextSession _ Std.TreeMap.getElem?_insert_self

/-- Everything but the lists changes on the board, and reports are read. -/
theorem around (other : Board) (detachments : List Detachment) : IsKept foreign given
    { service with board := service.board.around other, detachments } where
  custody := kept.custody.withdraw
    ⟨kept.custody.sound.listed, kept.custody.sound.withdrawn, kept.custody.sound.apart⟩
    (.of_same rfl rfl rfl)
  readership := kept.readership
  numbered := kept.numbered

/-- A session takes a step, in which it may open a feed. -/
theorem step? {next : Service} (stepped : service.step? id = some next) :
    next.IsKept foreign (given ++ service.database.feedRoom.opened next.database.feedRoom) := by
  obtain ⟨running, behind, between, signal, found, told, rfl⟩ := step?_cases stepped
  refine ⟨kept.custody.told found told, kept.readership.told found told,
    fun other positive known => ?_⟩
  change ((service.running.insert id _)[other]?).isSome = true
  rw [lookup_insert]
  split
  · rfl
  · exact kept.numbered other positive known

end IsKept

end Service

namespace Provider

/-- A provider that does not serve enters nothing. -/
theorem Moves.unentered {provider next : Provider} (moves : provider.Moves next)
    (entries : provider.state.isServing = false → provider.service.entries = ∅)
    (idle : next.state.isServing = false) : next.service.entries = ∅ := by
  cases moves with
  | refused failure starting => exact entries (by rw [starting]; rfl)
  | registered other detachments opening result serving registers =>
      obtain ⟨service, pending⟩ := result
      cases pending with
      | none => exact nomatch serving ▸ idle
      | some id => exact nomatch idle
  | drained other serving => rfl
  | cancelled id rest draining =>
      exact (Service.modifySession_keeps _ _ _).1.trans (entries idle)
  | ended id rest draining stopped =>
      exact (Service.finishClosing_keeps _ _).1.trans (entries (by rw [draining]; rfl))
  | returned other draining => exact entries (by rw [draining]; rfl)
  | listening | closed => exact nomatch idle

/-- The provider is orderly and its service is kept. Nothing is entered unless the provider serves,
and nothing is public unless it runs. -/
structure IsKept (foreign : String → Prop) (given : List Nat) (provider : Provider) : Prop where
  orderly : provider.IsOrderly
  service : provider.service.IsKept foreign given
  entries : provider.state.isServing = false → provider.service.entries = ∅
  status : provider.state.isRunning = false → provider.status = []

namespace IsKept

variable {foreign : String → Prop} {given : List Nat} {provider next : Provider}
  (kept : provider.IsKept foreign given)

include kept

/-- The loop does nothing while others change what is around it. -/
theorem onward {service : Service} {given : List Nat} (shutdown : Bool)
    (entries : service.entries = provider.service.entries)
    (numbers : service.nextSession = provider.service.nextSession)
    (same : ∀ id, service.identified id = provider.service.identified id)
    (after : service.IsKept foreign given) :
    IsKept foreign given { provider with service, shutdown } where
  orderly := kept.orderly.onward shutdown entries numbers same
  service := after
  entries idle := entries.trans (kept.entries idle)
  status := kept.status

/-- The sessions that remain are closed in another order. -/
theorem reorder {ids order : List Nat} (draining : provider.state = .draining ids)
    (same : order.Perm ids) :
    IsKept foreign given { provider with state := .draining order } where
  orderly := kept.orderly.reorder draining same
  service := kept.service
  entries _ := kept.entries (by rw [draining]; rfl)
  status := nofun

/-- Every step of the provider keeps the service in order. -/
theorem moves (moves : provider.Moves next)
    (own : ∀ (id : Nat) (running : Running), next.service.running[id]? = some running →
      ¬ foreign running.session.name) : next.IsKept foreign given := by
  have orderly := kept.orderly.moves moves
  have entries := moves.unentered kept.entries
  cases moves with
  | listening other address starting =>
      exact ⟨orderly, kept.service.around other _, entries, nofun⟩
  | refused failure starting =>
      exact ⟨orderly, kept.service, entries, fun _ => kept.status (by rw [starting]; rfl)⟩
  | registered other detachments opening result serving registers =>
      have sound := around_isSound kept.orderly.registry serving other detachments
      have after := (kept.service.around other detachments).registers sound registers
      obtain ⟨service, pending⟩ := result
      cases pending with
      | none => exact ⟨orderly, after own, entries, fun idle => nomatch serving ▸ idle⟩
      | some id => exact ⟨orderly, after own, entries, nofun⟩
  | drained other serving =>
      have after := kept.service.around other provider.service.detachments
      exact ⟨orderly, ⟨after.custody, after.readership, after.numbered⟩, entries, nofun⟩
  | closed id closing stopped =>
      exact ⟨orderly, kept.service.finishClosing stopped, entries, nofun⟩
  | cancelled id rest draining => exact ⟨orderly, kept.service.cancel, entries, kept.status⟩
  | ended id rest draining stopped =>
      exact ⟨orderly, kept.service.finishClosing stopped, entries, nofun⟩
  | returned other draining =>
      have unentered := kept.entries (by rw [draining]; rfl)
      refine ⟨orderly, kept.service.around other _, entries, fun _ => ?_⟩
      change provider.service.summaries = []
      rw [Service.summaries, unentered]
      rfl

end IsKept

end Provider

end LiveSearch
