import LiveSearch.Proofs.Service.Custody

/-! # The sessions of a service

In a sound service every session is sound, no two sessions that are not closed have the same name,
and every list is that of such a session (`LiveSearch.Service.IsSound`). The steps of the sessions
keep the service sound (`LiveSearch.Service.step?_isSound`), and so does everything that clients and
the registry do to it.
-/

namespace LiveSearch

namespace Service

/-- Every session is sound, and sessions that are not closed are apart: they have names, lists and
feeds of their own. Every entry is that of such a session, which has not been cancelled, and only
sessions that have ended report that they are detached. -/
structure IsSound (service : Service) : Prop where
  board : service.board.IsSound
  database : service.database.IsSound
  keyed : service.primaryKey = service.database.primaryKey
  sessions : ∀ (id : Nat) (running : Running), service.running[id]? = some running →
    running.IsSound service.board service.database
  known : ∀ (id : Nat) (running : Running), service.running[id]? = some running →
    id < service.nextSession
  alone : ∀ (id other : Nat) (left right : Running), service.running[id]? = some left →
    service.running[other]? = some right → left.session.closed = false →
      right.session.closed = false → left.session.name = right.session.name → id = other
  apart : ∀ (id other : Nat) (left right : Running) (address : Nat),
    service.running[id]? = some left → service.running[other]? = some right →
      left.feed = some address → right.feed = some address → id = other
  owned : ∀ (name : String) (list : PublishedList), service.board.lists[name]? = some list →
    ∃ (id : Nat) (running : Running), service.running[id]? = some running ∧
      running.session.name = name ∧ running.session.closed = false
  entered : ∀ (name : String) (entry : Entry), service.entries[name]? = some entry →
    0 < entry.subscribers ∧ ∃ running : Running, service.running[entry.session]? = some running ∧
      running.session.name = name ∧ running.session.closed = false ∧
        running.session.cancelled = false
  reported : ∀ report ∈ service.detachments, ∃ running : Running,
    service.running[report.session]? = some running ∧ running.session.phase = .stopped none

/-- A service whose store and board are sound is sound before any session is opened. -/
theorem isSound_start {primaryKey : String} {database : Database} {board : Board}
    (stored : database.IsSound) (listed : board.IsSound) (keyed : primaryKey = database.primaryKey)
    (unlisted : ∀ name : String, board.lists[name]? = none) :
    (Service.start primaryKey database board).IsSound where
  board := listed
  database := stored
  keyed := keyed
  sessions _ _ found := nomatch (Std.TreeMap.getElem?_emptyc.symm.trans found)
  known _ _ found := nomatch (Std.TreeMap.getElem?_emptyc.symm.trans found)
  alone _ _ _ _ found := nomatch (Std.TreeMap.getElem?_emptyc.symm.trans found)
  apart _ _ _ _ _ found := nomatch (Std.TreeMap.getElem?_emptyc.symm.trans found)
  owned name _ found := nomatch (unlisted name).symm.trans found
  entered _ _ found := nomatch (Std.TreeMap.getElem?_emptyc.symm.trans found)
  reported _ member := absurd member List.not_mem_nil

variable {service : Service} {id : Nat}

theorem removeEntry_eq {running : Running} {entry : Entry}
    (held : service.running[entry.session]? = some running) (name : String) :
    service.removeEntry name entry = ({ service with
      entries := service.entries.erase name
      running := service.running.insert entry.session
        { running with session := running.session.cancel } }, some entry.session) := by
  simp only [removeEntry, modifySession, held]

theorem finishClosing_eq {running : Running} (found : service.running[id]? = some running) :
    service.finishClosing id = { service with
      board := (running.session.finishClosing service.board).2
      running := service.running.insert id
        { running with session := (running.session.finishClosing service.board).1 } } := by
  simp only [finishClosing, found]

namespace IsSound

/-- While nobody else writes lists, those of a sound service are in the custody of its sessions. -/
theorem custody (sound : service.IsSound) :
    Custody (fun _ => False) service.running service.board where
  sound := sound.board
  tended id running found := (sound.sessions id running found).tends
  alone := sound.alone
  apart _ _ _ := id
  owned name list found := .inr (sound.owned name list found)

section Replacing

variable {before after : Running} {board : Board} {database : Database}
  {entries : Std.TreeMap String Entry} {detachments : List Detachment}

/-- One session becomes another one of the same name, and shares what it does with the others as
they allow. -/
private theorem replace (sound : service.IsSound) (found : service.running[id]? = some before)
    (custody : Custody (fun _ => False) (service.running.insert id after) board)
    (stored : database.IsSound)
    (primaryKey : database.primaryKey = service.database.primaryKey)
    (own : after.IsSound board database)
    (others : ∀ other running, id ≠ other → service.running[other]? = some running →
      running.IsSound board database)
    (named : after.session.name = before.session.name)
    (feed : ∀ other running address, id ≠ other → service.running[other]? = some running →
      after.feed = some address → running.feed ≠ some address)
    (entered : ∀ (name : String) (entry : Entry), entries[name]? = some entry →
      service.entries[name]? = some entry ∧
        (entry.session = id → after.session.closed = false ∧ after.session.cancelled = false))
    (reported : ∀ report ∈ detachments, report ∈ service.detachments ∧
      (before.session.phase = .stopped none → after.session.phase = .stopped none) ∨
        report.session = id ∧ after.session.phase = .stopped none) :
    IsSound { service with
      board, database, entries, detachments, running := service.running.insert id after } := by
  refine ⟨custody.sound, stored, sound.keyed.trans primaryKey.symm,
    fun other running present => ?_, fun other running present => ?_, custody.alone,
    fun first second left right address one two feedLeft feedRight => ?_,
    fun name list present => (custody.owned name list present).resolve_left not_false,
    fun name entry present => ?_, fun report member => ?_⟩
  · rcases lookup_insert_cases present with ⟨_, rfl⟩ | ⟨different, earlier⟩
    · exact own
    · exact others other running different earlier
  · rcases lookup_insert_cases present with ⟨rfl, _⟩ | ⟨_, earlier⟩
    · exact sound.known id before found
    · exact sound.known other running earlier
  · rcases lookup_insert_cases one with ⟨rfl, rfl⟩ | ⟨different, earlier⟩
    · rcases lookup_insert_cases two with ⟨rfl, rfl⟩ | ⟨apart, further⟩
      · rfl
      · exact absurd feedRight (feed second right address apart further feedLeft)
    · rcases lookup_insert_cases two with ⟨rfl, rfl⟩ | ⟨_, further⟩
      · exact absurd feedLeft (feed first left address different earlier feedRight)
      · exact sound.apart first second left right address earlier further feedLeft feedRight
  · obtain ⟨earlier, still⟩ := entered name entry present
    obtain ⟨counted, running, held, called, rest⟩ := sound.entered name entry earlier
    refine ⟨counted, ?_⟩
    change ∃ running : Running, (service.running.insert id after)[entry.session]? = _ ∧ _
    rw [lookup_insert]
    by_cases same : id = entry.session
    · rw [if_pos same]
      refine ⟨after, rfl, ?_, still same.symm⟩
      rw [named, Option.some.inj (found.symm.trans (same ▸ held)), called]
    · rw [if_neg same]
      exact ⟨running, held, called, rest⟩
  · change ∃ running : Running, (service.running.insert id after)[report.session]? = _ ∧ _
    rw [lookup_insert]
    rcases reported report member with ⟨earlier, spent⟩ | ⟨same, stopped⟩
    · obtain ⟨running, held, stopped⟩ := sound.reported report earlier
      by_cases same : id = report.session
      · rw [if_pos same]
        refine ⟨after, rfl, spent ?_⟩
        rw [Option.some.inj (found.symm.trans (same ▸ held))]
        exact stopped
      · rw [if_neg same]
        exact ⟨running, held, stopped⟩
    · rw [if_pos same.symm]
      exact ⟨after, rfl, stopped⟩

end Replacing

end IsSound

section Stepping

variable {next : Service}

/-- A session is told its next signal, and the service keeps what becomes of it. -/
theorem step?_cases (stepped : service.step? id = some next) :
    ∃ running behind between signal, service.running[id]? = some running ∧
      running.Next service.board service.database behind between signal ∧
      next = { service with
        board := (running.session.receive service.board signal).2
        database := (behind.tell service.board between signal).2
        running := service.running.insert id (behind.tell service.board between signal).1
        detachments :=
          if running.session.detaches signal then
            service.detachments ++ [⟨(running.session.receive service.board signal).1.name, id⟩]
          else service.detachments } := by
  unfold step? at stepped
  cases found : service.running[id]? with
  | none =>
      rw [found] at stepped
      exact nomatch stepped
  | some running =>
      rw [found] at stepped
      cases told : running.nextSignal service.board service.database with
      | none =>
          simp only [Option.bind_eq_bind, Option.bind_some, told] at stepped
          exact nomatch stepped
      | some state =>
          obtain ⟨behind, between, signal⟩ := state
          simp only [Option.bind_eq_bind, Option.bind_some, told] at stepped
          have next := Running.next_of_nextSignal told
          refine ⟨running, behind, between, signal, rfl, next, ?_⟩
          rw [← next.session, ← Option.some.inj stepped]
          rfl

/-- A step of a session keeps the service sound. -/
theorem step?_isSound (sound : service.IsSound) (stepped : service.step? id = some next) :
    next.IsSound := by
  obtain ⟨running, behind, between, signal, found, told, rfl⟩ := step?_cases stepped
  have own := sound.sessions id running found
  have unclosed := told.unclosed own.tends
  have passes := told.passes own sound.board sound.database
  have fresh {other : Nat} {another : Running} {address : Nat}
      (held : service.running[other]? = some another) (feed : another.feed = some address) :
      address < service.database.feedRoom.next := by
    have reads := (sound.sessions other another held).reads
    rw [Running.Reads, feed] at reads
    exact Database.Serves.known reads sound.database
  refine sound.replace found (sound.custody.told found told) passes.stored
    passes.spares.primaryKey passes.sound (fun other another different held => ?_) passes.name
    (fun other another address different held feed own => ?_)
    (fun name entry present => ⟨present, fun same => ?_⟩) (fun report member => ?_)
  · refine (sound.sessions other another held).frame passes.writes (fun openOther same => ?_)
      (fun address feed => ?_) passes.spares.primaryKey passes.spares.tables
    · exact different (sound.alone id other running another found held unclosed openOther same)
    · refine passes.spares.keeps address (fresh held feed) fun same => ?_
      exact different (sound.apart id other running another address found held same feed)
  · rcases passes.feed address feed with before | new
    · exact different (sound.apart id other running another address found held before own)
    · exact Nat.not_lt.mpr new (fresh held own)
  · obtain ⟨_, entered, held, _, openEntry, kept⟩ := sound.entered name entry present
    rw [same] at held
    obtain rfl := Option.some.inj (found.symm.trans held)
    exact ⟨passes.closed.trans openEntry, passes.cancelled.trans kept⟩
  · have spent (stopped : running.session.phase = .stopped none) :
        (behind.tell service.board between signal).1.session.phase = .stopped none := by
      exact absurd (told.going.symm.trans (congrArg Phase.isStopped stopped)) Bool.false_ne_true
    split at member
    · rename_i detaches
      rcases List.mem_append.mp member with earlier | new
      · exact .inl ⟨earlier, spent⟩
      · rw [List.mem_singleton.mp new]
        refine .inr ⟨rfl, ?_⟩
        rw [told.session_tell]
        exact Session.stopped_of_detaches detaches
    · exact .inl ⟨member, spent⟩

end Stepping

namespace IsSound

/-- Whatever clients ask of the store, the service stays sound. -/
theorem answer (sound : service.IsSound) {fault : Bool} {database : Database}
    (answer : Database.Answer (Json.HasPlainKey service.database.primaryKey) service.database fault
      database) : IsSound { service with database } :=
  { sound with
    database := answer.isSound sound.database
    keyed := sound.keyed.trans answer.primaryKey.symm
    sessions := fun id running found =>
      (sound.sessions id running found).answer sound.database answer }

/-- Deletions of lists keep the service sound. -/
theorem withdraw (sound : service.IsSound) {board : Board} (listed : board.IsSound)
    (withdraws : service.board.Withdraws board) : IsSound { service with board } :=
  { sound with
    board := listed
    sessions := fun id running found => (sound.sessions id running found).withdraw withdraws
    owned := fun name list found => sound.owned name list (withdraws.lists name list found) }

/-- Reports can be read. -/
theorem readReport (sound : service.IsSound) {report : Detachment} {rest : List Detachment}
    (waiting : service.detachments = report :: rest) :
    IsSound { service with detachments := rest } :=
  { sound with
    reported := fun other member =>
      sound.reported other (waiting ▸ List.mem_cons_of_mem report member) }

/-- The subscribers of an entry can change as long as there are some. -/
theorem setSubscribers (sound : service.IsSound) {name : String} {entry : Entry}
    (found : service.entries[name]? = some entry) {subscribers : Nat} (some : 0 < subscribers) :
    IsSound { service with
      entries := service.entries.insert name { entry with subscribers } } :=
  { sound with
    entered := fun other present held => by
      rcases lookup_insert_cases held with ⟨rfl, rfl⟩ | ⟨_, earlier⟩
      · exact ⟨some, (sound.entered name entry found).2⟩
      · exact sound.entered other present earlier }

/-- Entries of different names have different sessions. -/
theorem name_of_session (sound : service.IsSound) {name other : String} {entry another : Entry}
    (found : service.entries[name]? = some entry) (present : service.entries[other]? = some another)
    (same : another.session = entry.session) : name = other := by
  obtain ⟨_, running, held, named, _⟩ := sound.entered name entry found
  obtain ⟨_, third, further, called, _⟩ := sound.entered other another present
  rw [same] at further
  rw [← named, ← called, Option.some.inj (held.symm.trans further)]

/-- An entry can be removed; its session is told to end. -/
theorem removeEntry (sound : service.IsSound) {name : String} {entry : Entry}
    (found : service.entries[name]? = some entry) :
    (service.removeEntry name entry).1.IsSound := by
  obtain ⟨_, running, held, named, unclosed, _⟩ := sound.entered name entry found
  rw [removeEntry_eq held]
  have own := sound.sessions entry.session running held
  refine sound.replace held (sound.custody.cancel held) sound.database rfl own.cancel
    (fun other another _ present => sound.sessions other another present) rfl
    (fun other another address different present feed same => ?_)
    (fun other another present => ?_) (fun report member => .inl ⟨member, id⟩)
  · exact different (sound.apart entry.session other running another address held present feed same)
  · obtain ⟨different, earlier⟩ := lookup_erase_cases present
    exact ⟨earlier, fun equal => absurd (sound.name_of_session found earlier equal) different⟩

/-- A session whose worker has ended can be closed. -/
theorem finishClosing (sound : service.IsSound) {running : Running}
    (found : service.running[id]? = some running) (stopped : running.session.phase.isStopped = true)
    (cancelled : running.session.cancelled = true) : (service.finishClosing id).IsSound := by
  have own := sound.sessions id running found
  have withdraws := Session.finishClosing_withdraws own.fits
  rw [finishClosing_eq found]
  refine sound.replace found (sound.custody.close found stopped) sound.database rfl
    (own.close stopped) (fun other another _ present =>
      (sound.sessions other another present).withdraw withdraws) rfl
    (fun other another address different present feed same => ?_)
    (fun name entry present => ⟨present, fun same => ?_⟩)
    (fun report member => .inl ⟨member, fun _ => rfl⟩)
  · exact different (sound.apart id other running another address found present feed same)
  · obtain ⟨_, entered, held, _, _, kept⟩ := sound.entered name entry present
    rw [same] at held
    rw [Option.some.inj (held.symm.trans found), cancelled] at kept
    exact absurd kept.symm Bool.false_ne_true

/-- A session can be opened for a name that no session has. -/
theorem openSession (sound : service.IsSound) {name : String} {descriptor : Descriptor}
    (parsed : Descriptor.ofName name = .ok descriptor)
    (free : ∀ (id : Nat) (running : Running), service.running[id]? = some running →
      running.session.closed = false → running.session.name ≠ name) :
    IsSound { (service.openSession name descriptor).2 with
      entries := service.entries.insert name ⟨service.nextSession, 1⟩ } := by
  have kept {other : Nat} {running : Running} (held : service.running[other]? = some running) :
      (service.openSession name descriptor).2.running[other]? = some running := by
    change (service.running.insert _ _)[other]? = some running
    rw [lookup_insert, if_neg (Nat.ne_of_gt (sound.known other running held)), held]
  have absent : service.running[service.nextSession]? = none := by
    cases held : service.running[service.nextSession]? with
    | none => rfl
    | some running => exact absurd (sound.known _ running held) (Nat.lt_irrefl _)
  have custody : Custody (fun _ => False) (service.openSession name descriptor).2.running
      service.board :=
    sound.custody.insert absent rfl free not_false
  refine ⟨sound.board, sound.database, sound.keyed, fun other running present => ?_,
    fun other running present => ?_, custody.alone,
    fun first second left right address one two feedLeft feedRight => ?_,
    fun other list present => (custody.owned other list present).resolve_left not_false,
    fun other entry present => ?_, fun report member => ?_⟩
  · have tends := custody.tended other running present
    rcases lookup_insert_cases present with ⟨_, rfl⟩ | ⟨_, held⟩
    · exact {
        fits := tends.fits
        owns := tends.owns
        closed := tends.closed
        keyed := sound.keyed
        planned := ⟨descriptor, parsed, congrArg descriptor.plan sound.keyed⟩
        rows := fun _ member => absurd member List.not_mem_nil
        reads := .inl rfl
        stored := fun held => absurd held Bool.false_ne_true }
    · exact sound.sessions other running held
  · rcases lookup_insert_cases present with ⟨rfl, _⟩ | ⟨_, held⟩
    · exact Nat.lt_succ_self _
    · exact Nat.lt_succ_of_lt (sound.known other running held)
  · rcases lookup_insert_cases one with ⟨rfl, rfl⟩ | ⟨_, held⟩
    · exact nomatch feedLeft
    · rcases lookup_insert_cases two with ⟨rfl, rfl⟩ | ⟨_, further⟩
      · exact nomatch feedRight
      · exact sound.apart first second left right address held further feedLeft feedRight
  · rcases lookup_insert_cases present with ⟨rfl, rfl⟩ | ⟨_, earlier⟩
    · refine ⟨Nat.one_pos, ⟨Session.start name service.primaryKey,
        descriptor.plan service.primaryKey, none, [], none⟩, ?_, rfl, rfl, rfl⟩
      change (service.running.insert _ _)[service.nextSession]? = _
      rw [lookup_insert, if_pos rfl]
    · obtain ⟨counted, running, held, rest⟩ := sound.entered other entry earlier
      exact ⟨counted, running, kept held, rest⟩
  · obtain ⟨running, held, stopped⟩ := sound.reported report member
    exact ⟨running, kept held, stopped⟩

end IsSound

end Service

end LiveSearch
