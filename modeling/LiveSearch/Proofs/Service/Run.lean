import LiveSearch.Proofs.Service.Sound
import LiveSearch.Service.Provider

/-! # Runs of the provider

Clients, the provider and the sessions act in any order (`LiveSearch.Act`,
`LiveSearch.Provider.run`). At every moment each session that is not closed is that of an entry, or
the provider waits for its end (`LiveSearch.Provider.IsSound`, `LiveSearch.Provider.run_isSound`).
Nothing can go on when every task waits (`LiveSearch.Provider.IsQuiet`).
-/

namespace LiveSearch

/-- What happens: a client does something, or a task takes a step. -/
inductive Act
  | subscribe (name : String)
  | unsubscribe (name : String)
  /-- A request to the record store. -/
  | request (request : Request)
  /-- Writes to lists fail from now on, or succeed again. -/
  | failWrites (failure : Option ServiceError)
  /-- A list is deleted from outside. -/
  | deleteList (name : String)
  | provider
  | session (id : Nat)

namespace Service

/-- What the registry makes of a subscription, the end of one, or the report of a detached session;
only a subscription to a name opens a session for it. -/
inductive Registers (service : Service) : Option String → Service × Option Nat → Prop
  | unchanged (opening : Option String) : Registers service opening (service, none)
  | counted (opening : Option String) (name : String) (entry : Entry) (subscribers : Nat)
      (found : service.entries[name]? = some entry) (some : 0 < subscribers) :
      Registers service opening
        ({ service with entries := service.entries.insert name { entry with subscribers } }, none)
  | removed (opening : Option String) (name : String) (entry : Entry)
      (found : service.entries[name]? = some entry) :
      Registers service opening (service.removeEntry name entry)
  | opened (name : String) (descriptor : Descriptor) (absent : service.entries[name]? = none)
      (parsed : Descriptor.ofName name = .ok descriptor) :
      Registers service (some name) ({ (service.openSession name descriptor).2 with
        entries := service.entries.insert name ⟨service.nextSession, 1⟩ }, none)

variable (service : Service)

theorem addSubscriber_registers (name : String) :
    service.Registers (some name) (service.addSubscriber name, none) := by
  unfold addSubscriber
  cases found : service.entries[name]? with
  | some entry => exact .counted _ name entry _ found (Nat.succ_pos _)
  | none =>
      dsimp only
      split
      · exact .unchanged _
      · rename_i descriptor parsed
        exact .opened name descriptor found parsed

theorem dropSubscriber_registers (name : String) :
    service.Registers none (service.dropSubscriber name) := by
  unfold dropSubscriber
  cases found : service.entries[name]? with
  | none => exact .unchanged _
  | some entry =>
      dsimp only
      split
      · rename_i some
        exact .counted _ name entry _ found some
      · exact .removed _ name entry found

theorem dropDetached_registers (report : Detachment) :
    service.Registers none (service.dropDetached report) := by
  unfold dropDetached
  cases found : service.entries[report.name]? with
  | none => exact .unchanged _
  | some entry =>
      dsimp only
      split
      · exact .removed _ report.name entry found
      · exact .unchanged _

/-- What identifies a session: its name, and whether it is closed or told to end. -/
def identity (running : Running) : String × Bool × Bool :=
  (running.session.name, running.session.closed, running.session.cancelled)

/-- The service goes on with the same entries and the same sessions, and hears the same. -/
structure Continues (before after : Service) : Prop where
  primaryKey : after.primaryKey = before.primaryKey
  entries : after.entries = before.entries
  sessions : ∀ id : Nat, (after.running[id]?).map identity = (before.running[id]?).map identity
  listeners : after.board.listeners = before.board.listeners
  noticeRoom : after.board.noticeRoom = before.board.noticeRoom

variable {service}

/-- A session that has been there is still there. -/
theorem Continues.found {after : Service} (continues : service.Continues after) {id : Nat}
    {running : Running} (found : service.running[id]? = some running) :
    ∃ later, after.running[id]? = some later ∧ identity later = identity running := by
  have same := continues.sessions id
  rw [found, Option.map_some] at same
  exact Option.map_eq_some_iff.mp same

/-- No session has been opened. -/
theorem Continues.former {after : Service} (continues : service.Continues after) {id : Nat}
    {running : Running} (found : after.running[id]? = some running) :
    ∃ earlier, service.running[id]? = some earlier ∧ identity earlier = identity running := by
  have same := continues.sessions id
  rw [found, Option.map_some] at same
  exact Option.map_eq_some_iff.mp same.symm

/-- No step changes what identifies a session. -/
theorem identity_step? {id : Nat} {next : Service} (stepped : service.step? id = some next)
    (other : Nat) :
    (next.running[other]?).map identity = (service.running[other]?).map identity := by
  obtain ⟨running, behind, between, signal, found, told, rfl⟩ := step?_cases stepped
  rw [lookup_insert]
  by_cases same : id = other
  · subst same
    obtain ⟨name, _, cancelled, closed⟩ :=
      (running.session.receive_outcome service.board signal).keeps
    rw [if_pos rfl, found, Option.map_some, Option.map_some, identity, told.session_tell,
      name, closed, cancelled, identity]
  · rw [if_neg same]

/-- A step of a session concerns neither the registry nor the identity of any session. -/
theorem step?_continues (sound : service.IsSound) {id : Nat} {next : Service}
    (stepped : service.step? id = some next) : service.Continues next := by
  have sessions := identity_step? stepped
  obtain ⟨running, behind, between, signal, found, told, rfl⟩ := step?_cases stepped
  have passes := told.passes (sound.sessions id running found) sound.board sound.database
  exact ⟨rfl, rfl, sessions, passes.writes.listeners, passes.writes.noticeRoom⟩

end Service

namespace Provider

/-- What one act makes of the provider; a task that can only wait does nothing. -/
def perform (provider : Provider) : Act → Provider
  | .subscribe name =>
    { provider with
      service := provider.service.withBoard (provider.service.board.subscribe name) }
  | .unsubscribe name =>
    { provider with
      service := provider.service.withBoard (provider.service.board.unsubscribe name) }
  | .request request =>
    { provider with
      service := provider.service.withDatabase (request.perform provider.service.database) }
  | .failWrites failure =>
    { provider with
      service := provider.service.withBoard (provider.service.board.setFailure failure) }
  | .deleteList name =>
    { provider with
      service := provider.service.withBoard (provider.service.board.deleteList name).1 }
  | .provider => provider.step?.getD provider
  | .session id => (provider.stepSession? id).getD provider

/-- What acts make of the provider, one after another. -/
def run (provider : Provider) (acts : List Act) : Provider := acts.foldl perform provider

/-- Nothing can go on. -/
def IsQuiet (provider : Provider) : Prop :=
  provider.step? = none ∧ ∀ id, provider.stepSession? id = none

/-- Only sessions that have been opened can go on. -/
private theorem isQuiet_iff (provider : Provider) : provider.IsQuiet ↔
    provider.step? = none ∧
      ∀ id ∈ provider.service.running.keys, provider.stepSession? id = none := by
  refine ⟨fun ⟨waits, blocked⟩ => ⟨waits, fun id _ => blocked id⟩,
    fun ⟨waits, blocked⟩ => ⟨waits, fun id => ?_⟩⟩
  by_cases opened : id ∈ provider.service.running.keys
  · exact blocked id opened
  · have absent : provider.service.running[id]? = none :=
      Std.TreeMap.getElem?_eq_none fun known => opened (Std.TreeMap.mem_keys.mpr known)
    simp only [stepSession?, Service.step?, absent, Option.bind_eq_bind, Option.bind_none,
      Option.map_none]

instance (provider : Provider) : Decidable provider.IsQuiet :=
  decidable_of_iff (provider.step?.isNone = true ∧
      ∀ id ∈ provider.service.running.keys, (provider.stepSession? id).isNone = true) <| by
    simp only [isQuiet_iff, Option.isNone_iff_eq_none]

/-- The subscriptions that the provider has not read yet. -/
def waiting (provider : Provider) : List Notice :=
  match provider.address with
  | some address => provider.service.board.noticeRoom.waiting address
  | none => []

/-- The provider hears of the names that match a pattern. -/
def Hears (provider : Provider) (regex : Pattern.Regex) : Prop :=
  ∃ address, provider.address = some address ∧
    provider.service.board.listeners = [⟨regex, address⟩] ∧
    provider.service.board.noticeRoom.boxes[address]? = some ⟨provider.waiting, false⟩

/-- Each session that is not closed is that of an entry, or the provider waits for its end. -/
structure IsSound (provider : Provider) (regex : Pattern.Regex) (field : String) : Prop where
  service : provider.service.IsSound
  keyed : provider.service.primaryKey = field
  attentive : provider.shutdown = false
  hearing : provider.Hears regex
  state : provider.state = .serving ∨ ∃ id, provider.state = .closing id
  served : ∀ (id : Nat) (running : Running), provider.service.running[id]? = some running →
    running.session.closed = false → provider.state = .closing id ∨
      ∃ entry, provider.service.entries[running.session.name]? = some entry ∧ entry.session = id
  closing : ∀ id : Nat, provider.state = .closing id →
    ∃ running : Running, provider.service.running[id]? = some running ∧
      running.session.closed = false ∧ running.session.cancelled = true ∧
        provider.service.entries[running.session.name]? = none

theorem run_cons (provider : Provider) (act : Act) (rest : List Act) :
    provider.run (act :: rest) = (provider.perform act).run rest := rfl

theorem run_append (provider : Provider) (first second : List Act) :
    provider.run (first ++ second) = (provider.run first).run second := List.foldl_append

variable {provider : Provider} {regex : Pattern.Regex} {field : String}

namespace IsSound

/-- While the service goes on with the same entries and sessions, the provider stays sound. -/
theorem onward (sound : provider.IsSound regex field) {service : Service}
    (continues : provider.service.Continues service) (kept : service.IsSound) :
    IsSound { provider with service } regex field where
  service := kept
  keyed := continues.primaryKey.trans sound.keyed
  attentive := sound.attentive
  hearing := by
    obtain ⟨address, addressed, listeners, placed⟩ := sound.hearing
    have same : Provider.waiting { provider with service } = provider.waiting := by
      unfold waiting
      rw [continues.noticeRoom]
    refine ⟨address, addressed, continues.listeners.trans listeners, ?_⟩
    rw [same, continues.noticeRoom]
    exact placed
  state := sound.state
  served id running found unclosed := by
    obtain ⟨earlier, held, same⟩ := continues.former found
    simp only [Service.identity, Prod.mk.injEq] at same
    obtain ⟨named, closed, _⟩ := same
    rw [continues.entries, ← named]
    exact sound.served id earlier held (closed.trans unclosed)
  closing id waits := by
    obtain ⟨earlier, held, unclosed, cancelled, absent⟩ := sound.closing id waits
    obtain ⟨running, found, same⟩ := continues.found held
    simp only [Service.identity, Prod.mk.injEq] at same
    obtain ⟨named, closed, told⟩ := same
    refine ⟨running, found, closed.trans unclosed, told.trans cancelled, ?_⟩
    rw [continues.entries, named]
    exact absent

end IsSound

/-- The board changes in what does not concern the sessions. -/
theorem withBoard_continues (service : Service) {board : Board}
    (listeners : board.listeners = service.board.listeners)
    (noticeRoom : board.noticeRoom = service.board.noticeRoom) :
    service.Continues (service.withBoard board) where
  primaryKey := rfl
  entries := rfl
  sessions _ := rfl
  listeners := listeners
  noticeRoom := noticeRoom

section Hearing

variable (provider) in
/-- The provider when a client has sent a notice. -/
def notified (notice : Notice) : Provider :=
  { provider with service := provider.service.withBoard (provider.service.board.notify notice) }

/-- The board when the only listener hears a notice, or does not. -/
private theorem notify_cases {board : Board} {address : Nat} {box : Box Notice}
    (listeners : board.listeners = [⟨regex, address⟩])
    (placed : board.noticeRoom.boxes[address]? = some box) (notice : Notice) :
    (board.notify notice).listeners = [⟨regex, address⟩] ∧
      (board.notify notice).noticeRoom = if regex.isMatch notice.name then
        board.noticeRoom.send address [notice] else board.noticeRoom := by
  have isOpen := (board.noticeRoom.isOpen_iff address).mpr ⟨box, placed⟩
  unfold Board.notify
  rw [listeners]
  cases hears : regex.isMatch notice.name <;>
    simp only [List.filter_cons, List.filter_nil, hears, isOpen, Bool.not_true, Bool.not_false,
      Bool.or_true, Bool.false_eq_true, ↓reduceIte, List.foldl_cons, List.foldl_nil, and_self]

/-- The provider hears of a notice if its name matches the pattern. -/
theorem Hears.notified (hears : provider.Hears regex) (notice : Notice) :
    (provider.notified notice).Hears regex ∧ (provider.notified notice).waiting =
      provider.waiting ++ if regex.isMatch notice.name then [notice] else [] := by
  obtain ⟨address, addressed, listeners, placed⟩ := hears
  obtain ⟨after, room⟩ := notify_cases listeners placed notice
  have box : (provider.service.board.notify notice).noticeRoom.boxes[address]? = some
      ⟨provider.waiting ++ if regex.isMatch notice.name then [notice] else [], false⟩ := by
    rw [room]
    split
    · rw [Mailroom.boxes_send, if_pos rfl, placed, Option.map_some]
    · rw [List.append_nil, placed]
  have waits : (provider.notified notice).waiting =
      provider.waiting ++ if regex.isMatch notice.name then [notice] else [] := by
    change (match provider.address with
      | some address => (provider.service.board.notify notice).noticeRoom.waiting address
      | none => []) = _
    rw [addressed]
    exact Mailroom.waiting_of_box _ box
  refine ⟨⟨address, addressed, after, ?_⟩, waits⟩
  rw [waits]
  exact box

/-- A notice concerns nothing but the queue of the provider. -/
private theorem IsSound.notified (sound : provider.IsSound regex field) (notice : Notice) :
    (provider.notified notice).IsSound regex field where
  service := sound.service.withdraw
    ⟨sound.service.board.listed, sound.service.board.withdrawn, sound.service.board.apart⟩
    (.of_same rfl rfl rfl)
  keyed := sound.keyed
  attentive := sound.attentive
  hearing := (sound.hearing.notified notice).1
  state := sound.state
  served := sound.served
  closing := sound.closing

end Hearing

section Serving

/-- The provider when it has read a notice. -/
def afterNotice (provider : Provider) : Provider :=
  { provider with service := provider.service.withBoard provider.findNotice.2 }

/-- The provider finds the first notice that waits. -/
theorem Hears.findNotice (hears : provider.Hears regex) :
    provider.findNotice.1 = match provider.waiting with
      | [] => .nothing
      | notice :: _ => .item notice := by
  obtain ⟨address, addressed, _, placed⟩ := hears
  simp only [Provider.findNotice, addressed]
  rw [Mailroom.read_of_box _ placed, Box.read]
  cases provider.waiting <;> rfl

theorem Hears.afterNotice (hears : provider.Hears regex) :
    provider.afterNotice.Hears regex ∧ provider.afterNotice.waiting = provider.waiting.tail := by
  obtain ⟨address, addressed, listeners, placed⟩ := hears
  have board : provider.findNotice.2 = { provider.service.board with
      noticeRoom := (provider.service.board.noticeRoom.read address).2 } := by
    simp only [Provider.findNotice, addressed]
  have box : provider.findNotice.2.noticeRoom.boxes[address]? =
      some ⟨provider.waiting.tail, false⟩ := by
    rw [board]
    change (provider.service.board.noticeRoom.read address).2.boxes[address]? = _
    rw [Mailroom.boxes_read, if_pos rfl, placed, Option.map_some, Box.read]
    cases provider.waiting <;> rfl
  have waits : provider.afterNotice.waiting = provider.waiting.tail := by
    change (match provider.address with
      | some address => provider.findNotice.2.noticeRoom.waiting address
      | none => []) = _
    rw [addressed]
    exact Mailroom.waiting_of_box _ box
  refine ⟨⟨address, addressed, ?_, ?_⟩, waits⟩
  · change provider.findNotice.2.listeners = _
    rw [board]
    exact listeners
  · rw [waits]
    exact box

theorem IsSound.afterNotice (sound : provider.IsSound regex field) :
    provider.afterNotice.IsSound regex field := by
  have lists : provider.findNotice.2 = { provider.service.board with
      noticeRoom := provider.findNotice.2.noticeRoom } := by
    unfold Provider.findNotice
    split <;> rfl
  refine ⟨?_, sound.keyed, sound.attentive, sound.hearing.afterNotice.1, sound.state, sound.served,
    sound.closing⟩
  change Service.IsSound { provider.service with board := provider.findNotice.2 }
  rw [lists]
  exact sound.service.withdraw
    ⟨sound.service.board.listed, sound.service.board.withdrawn, sound.service.board.apart⟩
    (.of_same rfl rfl rfl)

/-- The provider when it has read the first report. -/
def afterReport (provider : Provider) (rest : List Detachment) : Provider :=
  { provider with service := { provider.service with detachments := rest } }

private theorem IsSound.afterReport (sound : provider.IsSound regex field) {report : Detachment}
    {rest : List Detachment} (waiting : provider.service.detachments = report :: rest) :
    (provider.afterReport rest).IsSound regex field where
  service := sound.service.readReport waiting
  keyed := sound.keyed
  attentive := sound.attentive
  hearing := sound.hearing
  state := sound.state
  served := sound.served
  closing := sound.closing

end Serving

/-- What the registry makes of a subscription or a report keeps the provider sound. -/
theorem IsSound.goOn (sound : provider.IsSound regex field) (serving : provider.state = .serving)
    {opening : Option String} {result : Service × Option Nat}
    (registers : provider.service.Registers opening result) :
    (provider.goOn result).IsSound regex field := by
  -- While the provider serves, every session that is not closed is that of an entry.
  have entered (id : Nat) (running : Running) (found : provider.service.running[id]? = some running)
      (unclosed : running.session.closed = false) : ∃ entry,
        provider.service.entries[running.session.name]? = some entry ∧ entry.session = id := by
    rcases sound.served id running found unclosed with closing | served
    · exact nomatch serving.symm.trans closing
    · exact served
  cases registers with
  | unchanged =>
      exact ⟨sound.service, sound.keyed, sound.attentive, sound.hearing, sound.state, sound.served,
        sound.closing⟩
  | counted _ name entry subscribers found some =>
      refine ⟨sound.service.setSubscribers found some, sound.keyed, sound.attentive, sound.hearing,
        sound.state, fun id running held unclosed => ?_,
        fun id closing => nomatch serving.symm.trans closing⟩
      obtain ⟨present, entered, same⟩ := entered id running held unclosed
      right
      change ∃ other, (provider.service.entries.insert _ _)[running.session.name]? = _ ∧ _
      simp only [lookup_insert]
      by_cases named : name = running.session.name
      · rw [if_pos named]
        rw [← named] at entered
        obtain rfl := Option.some.inj (found.symm.trans entered)
        exact ⟨_, rfl, same⟩
      · rw [if_neg named]
        exact ⟨present, entered, same⟩
  | opened name descriptor absent parsed =>
      have free (id : Nat) (running : Running)
          (held : provider.service.running[id]? = some running)
          (unclosed : running.session.closed = false) : running.session.name ≠ name := by
        intro named
        obtain ⟨entry, present, _⟩ := entered id running held unclosed
        rw [named] at present
        exact nomatch absent.symm.trans present
      refine ⟨sound.service.openSession parsed free, sound.keyed, sound.attentive, sound.hearing,
        sound.state, fun id running held unclosed => ?_,
        fun id closing => nomatch serving.symm.trans closing⟩
      right
      change ∃ other, (provider.service.entries.insert _ _)[running.session.name]? = _ ∧ _
      simp only [lookup_insert]
      rcases lookup_insert_cases held with ⟨same, rfl⟩ | ⟨_, earlier⟩
      · exact ⟨_, if_pos rfl, same⟩
      · rw [if_neg fun named => free id running earlier unclosed named.symm]
        exact entered id running earlier unclosed
  | removed _ name entry found =>
      obtain ⟨_, running, held, named, unclosed, _⟩ := sound.service.entered name entry found
      have kept := sound.service.removeEntry found
      rw [Service.removeEntry_eq held] at kept ⊢
      refine ⟨kept, sound.keyed, sound.attentive, sound.hearing, .inr ⟨entry.session, rfl⟩,
        fun id other present still => ?_, fun id closing => ?_⟩
      · change _ ∨ ∃ another, (provider.service.entries.erase name)[other.session.name]? = _ ∧ _
        simp only [lookup_erase]
        rcases lookup_insert_cases present with ⟨same, _⟩ | ⟨same, earlier⟩
        · exact .inl (congrArg LoopState.closing same)
        · obtain ⟨another, entered, equal⟩ := entered id other earlier still
          rw [if_neg fun called => same ?_]
          · exact .inr ⟨another, entered, equal⟩
          · rw [← called] at entered
            rw [Option.some.inj (found.symm.trans entered), equal]
      · obtain rfl := LoopState.closing.inj closing
        refine ⟨_, Std.TreeMap.getElem?_insert_self, unclosed, rfl, ?_⟩
        change (provider.service.entries.erase name)[running.session.name]? = none
        rw [named, Std.TreeMap.getElem?_erase_self]

/-- The provider when the session that it waits for has been closed. -/
def afterClosing (provider : Provider) (id : Nat) : Provider :=
  Provider.publish { provider with
    service := provider.service.finishClosing id, state := .serving }

/-- A step of the provider closes a session that has ended, or reads the first report, or the first
notice. -/
theorem step?_cases (sound : provider.IsSound regex field) {next : Provider}
    (stepped : provider.step? = some next) :
    (∃ id running, provider.state = .closing id ∧ provider.service.running[id]? = some running ∧
      running.session.phase.isStopped = true ∧ next = provider.afterClosing id) ∨
    (∃ report rest, provider.state = .serving ∧ provider.service.detachments = report :: rest ∧
      next = (provider.afterReport rest).goOn
        ((provider.afterReport rest).service.dropDetached report)) ∨
    ∃ notice rest, provider.state = .serving ∧ provider.service.detachments = [] ∧
      provider.waiting = notice :: rest ∧
      next = provider.afterNotice.goOn (if notice.subscribed then
        (provider.afterNotice.service.addSubscriber notice.name, none)
        else provider.afterNotice.service.dropSubscriber notice.name) := by
  have goOn (service : Service) (result : Service × Option Nat) :
      provider.goOn result = Provider.goOn { provider with service } result := by
    obtain ⟨other, pending⟩ := result
    cases pending <;> rfl
  rcases sound.state with serving | ⟨id, closing⟩
  · simp only [step?, serving, serve?, sound.attentive, Bool.false_eq_true, ↓reduceIte] at stepped
    cases reports : provider.service.detachments with
    | cons report rest =>
        rw [reports] at stepped
        refine .inr (.inl ⟨report, rest, serving, rfl, ?_⟩)
        rw [← Option.some.inj stepped]
        exact goOn _ _
    | nil =>
        rw [reports] at stepped
        have found := sound.hearing.findNotice
        have read : provider.afterNotice =
          { provider with service := provider.service.withBoard provider.findNotice.2 } := rfl
        rw [read]
        cases notices : provider.findNotice with
        | mk item board =>
            rw [notices] at found stepped
            cases waits : provider.waiting with
            | nil =>
                rw [waits] at found
                obtain rfl : item = .nothing := found
                exact nomatch stepped
            | cons notice rest =>
                rw [waits] at found
                obtain rfl : item = .item notice := found
                refine .inr (.inr ⟨notice, rest, serving, rfl, rfl, ?_⟩)
                rw [← goOn]
                dsimp only at stepped
                split at stepped
                · rename_i subscribed
                  rw [if_pos subscribed]
                  exact (Option.some.inj stepped).symm
                · rename_i ended
                  rw [if_neg ended]
                  exact (Option.some.inj stepped).symm
  · simp only [step?, closing] at stepped
    obtain ⟨running, found, _⟩ := sound.closing id closing
    split at stepped
    · rename_i stopped
      refine .inl ⟨id, running, closing, found, ?_, (Option.some.inj stepped).symm⟩
      simp only [Service.hasStopped, found, Option.any_some] at stopped
      exact stopped
    · exact nomatch stepped

/-- The closing of a session that has ended keeps the provider sound. -/
private theorem IsSound.afterClosing (sound : provider.IsSound regex field) {id : Nat}
    {running : Running} (closing : provider.state = .closing id)
    (found : provider.service.running[id]? = some running)
    (stopped : running.session.phase.isStopped = true) :
    (provider.afterClosing id).IsSound regex field := by
  obtain ⟨same, held, unclosed, cancelled, _⟩ := sound.closing id closing
  obtain rfl := Option.some.inj (found.symm.trans held)
  have kept := sound.service.finishClosing found stopped cancelled
  have closed := Service.finishClosing_eq found
  have room : (provider.service.finishClosing id).board.listeners =
        provider.service.board.listeners ∧
      (provider.service.finishClosing id).board.noticeRoom = provider.service.board.noticeRoom := by
    rw [closed]
    obtain ⟨listeners, noticeRoom, _⟩ :=
      running.session.hearing_finishClosing provider.service.board
    exact ⟨listeners, noticeRoom⟩
  refine ⟨kept, ?_, sound.attentive, ?_, .inl rfl, fun other another present still => ?_,
    fun other waits => nomatch waits⟩
  · change (provider.service.finishClosing id).primaryKey = field
    rw [closed]
    exact sound.keyed
  · obtain ⟨address, addressed, listeners, placed⟩ := sound.hearing
    have waits : (provider.afterClosing id).waiting = provider.waiting := by
      change (match provider.address with
        | some address => (provider.service.finishClosing id).board.noticeRoom.waiting address
        | none => []) = _
      rw [room.2]
      rfl
    refine ⟨address, addressed, room.1.trans listeners, ?_⟩
    rw [waits]
    change (provider.service.finishClosing id).board.noticeRoom.boxes[address]? = _
    rw [room.2]
    exact placed
  · change (provider.service.finishClosing id).running[other]? = some another at present
    change _ ∨ ∃ entry, (provider.service.finishClosing id).entries[another.session.name]? = _ ∧ _
    rw [closed] at present ⊢
    rcases lookup_insert_cases present with ⟨_, rfl⟩ | ⟨same, earlier⟩
    · exact absurd still.symm Bool.false_ne_true
    · rcases sound.served other another earlier still with waits | served
      · exact absurd (LoopState.closing.inj (closing.symm.trans waits)) same
      · exact .inr served

end Provider

/-- The records that an act stores have plain keys. -/
def Act.IsPlain (field : String) : Act → Prop
  | .request asked => asked.IsPlain field
  | _ => True

namespace Provider

variable {provider : Provider} {regex : Pattern.Regex} {field : String}

private theorem step?_isSound (sound : provider.IsSound regex field) {next : Provider}
    (stepped : provider.step? = some next) : next.IsSound regex field := by
  rcases step?_cases sound stepped with
    ⟨id, running, closing, found, stopped, rfl⟩ | ⟨report, rest, serving, reports, rfl⟩ |
      ⟨notice, rest, serving, _, _, rfl⟩
  · exact sound.afterClosing closing found stopped
  · exact (sound.afterReport reports).goOn serving (Service.dropDetached_registers _ report)
  · split
    · exact sound.afterNotice.goOn serving (Service.addSubscriber_registers _ notice.name)
    · exact sound.afterNotice.goOn serving (Service.dropSubscriber_registers _ notice.name)

/-- The store answers a request while the provider goes on. -/
theorem withDatabase_continues (service : Service) (database : Database) :
    service.Continues (service.withDatabase database) where
  primaryKey := rfl
  entries := rfl
  sessions _ := rfl
  listeners := rfl
  noticeRoom := rfl

/-- How the store answers a request that brings no record with a key of minus zero. -/
theorem IsSound.answer (sound : provider.IsSound regex field) (request : Request)
    (plain : request.IsPlain field) :
    Database.Answer (Json.HasPlainKey provider.service.database.primaryKey)
      provider.service.database request.isFault (request.perform provider.service.database) := by
  have keyed : field = provider.service.database.primaryKey :=
    sound.keyed.symm.trans sound.service.keyed
  exact provider.service.database.perform_answer request (Request.IsPlain.record (keyed ▸ plain))

/-- Every act keeps the provider sound. -/
theorem perform_isSound (sound : provider.IsSound regex field) {act : Act}
    (plain : act.IsPlain field) : (provider.perform act).IsSound regex field := by
  have board := sound.service.board
  cases act with
  | subscribe name => exact sound.notified ⟨name, true⟩
  | unsubscribe name => exact sound.notified ⟨name, false⟩
  | request request =>
      exact sound.onward (withDatabase_continues _ _)
        (sound.service.answer (sound.answer request plain))
  | failWrites failure =>
      exact sound.onward (withBoard_continues _ rfl rfl) (sound.service.withdraw
        ⟨board.listed, board.withdrawn, board.apart⟩ (.of_same rfl rfl rfl))
  | deleteList name =>
      exact sound.onward (withBoard_continues _ (Board.listeners_deleteList _ name)
        (Board.noticeRoom_deleteList _ name))
        (sound.service.withdraw (board.deleteList name) (Board.deleteList_withdraws _ name))
  | provider =>
      change (provider.step?.getD provider).IsSound regex field
      cases stepped : provider.step? with
      | none => exact sound
      | some next => exact step?_isSound sound stepped
  | session id =>
      change ((provider.stepSession? id).getD provider).IsSound regex field
      unfold stepSession?
      cases stepped : provider.service.step? id with
      | none => exact sound
      | some service =>
          exact sound.onward (Service.step?_continues sound.service stepped)
            (Service.step?_isSound sound.service stepped)

/-- The provider is sound at every moment. -/
theorem run_isSound (sound : provider.IsSound regex field) {acts : List Act}
    (plain : ∀ act ∈ acts, act.IsPlain field) : (provider.run acts).IsSound regex field := by
  induction acts generalizing provider with
  | nil => exact sound
  | cons act rest ih =>
      obtain ⟨first, others⟩ := List.forall_mem_cons.mp plain
      exact ih (perform_isSound sound first) others

/-- A provider that begins to listen is sound. -/
theorem isSound_of_listen {listPrefix : String} {capacity : Nat}
    (listening : (Provider.start listPrefix (Service.start field (Database.empty field)
      (Board.empty capacity)) none).listen = .ok provider) :
    ∃ regex, Pattern.compile? (listenPattern listPrefix) = some regex ∧
      provider.IsSound regex field ∧ provider.waiting = [] := by
  unfold listen Provider.start Board.listen at listening
  dsimp only at listening
  cases compiled : Pattern.compile? (listenPattern listPrefix) with
  | none =>
      rw [compiled] at listening
      exact nomatch listening
  | some regex =>
      rw [compiled] at listening
      obtain rfl := Except.ok.inj listening
      have empty (id : Nat) :
          (Service.start field (Database.empty field) (Board.empty capacity)).running[id]? = none :=
        Std.TreeMap.getElem?_emptyc
      refine ⟨regex, rfl, ⟨?_, rfl, rfl, ⟨0, rfl, rfl, ?_⟩, .inl rfl,
        fun id _ found _ => ?_, fun id waits => nomatch waits⟩, ?_⟩
      · have board := Board.isSound_empty capacity
        refine (Service.isSound_start (Database.isSound_empty field) board rfl
          fun name => ?_).withdraw ⟨board.listed, board.withdrawn, board.apart⟩
          (.of_same rfl rfl rfl)
        exact Std.TreeMap.getElem?_emptyc
      · rfl
      · exact nomatch (empty id).symm.trans found
      · rfl

end Provider

end LiveSearch
