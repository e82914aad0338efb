import LiveSearch.Proofs.Service.Run

/-! # Counting subscribers

The subscribers of a name are those that its entry counts, once the provider has read everything
that clients have sent (`LiveSearch.Provider.pledged`). As long as no report of a detached session
removes the entry, this number changes as clients subscribe and unsubscribe, and no task changes it
(`LiveSearch.Provider.pledged_perform`).
-/

namespace LiveSearch

/-- The subscribers of a name after a notice; there are never fewer than none. -/
def Notice.tally (name : String) (count : Nat) (notice : Notice) : Nat :=
  if notice.name = name then if notice.subscribed then count + 1 else count - 1 else count

namespace Service

/-- The subscribers that the registry counts for a name. -/
def subscribers (service : Service) (name : String) : Nat :=
  ((service.entries[name]?).map Entry.subscribers).getD 0

variable {service : Service} {opening : Option String} {result : Service × Option Nat}

/-- The registry touches neither the store nor the board. -/
theorem Registers.keeps (registers : service.Registers opening result) :
    result.1.database = service.database ∧ result.1.board = service.board := by
  cases registers with
  | removed _ name entry found =>
      simp only [removeEntry, modifySession]
      split <;> exact ⟨rfl, rfl⟩
  | _ => exact ⟨rfl, rfl⟩

section Counting

variable {name : String}

/-- A subscription adds a subscriber. -/
theorem subscribers_addSubscriber (service : Service) {descriptor : Descriptor}
    (parsed : Descriptor.ofName name = .ok descriptor) (other : String) :
    (service.addSubscriber other).subscribers name =
      Notice.tally name (service.subscribers name) ⟨other, true⟩ := by
  unfold Notice.tally subscribers addSubscriber
  by_cases same : other = name
  · subst same
    simp only [↓reduceIte]
    cases found : service.entries[other]? with
    | some entry =>
        simp only [Std.TreeMap.getElem?_insert_self, Option.map_some, Option.getD_some]
    | none =>
        simp only [parsed, Std.TreeMap.getElem?_insert_self, Option.map_some, Option.getD_some,
          Option.map_none, Option.getD_none]
  · simp only [same, ↓reduceIte]
    split
    · simp only [lookup_insert, same, ↓reduceIte]
    · split
      · rfl
      · simp only [lookup_insert, same, ↓reduceIte]
        rfl

/-- Removing an entry leaves its name without subscribers. -/
theorem subscribers_removeEntry (service : Service) (other : String) (entry : Entry) :
    (service.removeEntry other entry).1.subscribers name =
      if other = name then 0 else service.subscribers name := by
  have entries : (service.removeEntry other entry).1.entries = service.entries.erase other := by
    simp only [removeEntry, modifySession]
    split <;> rfl
  unfold subscribers
  rw [entries, Std.TreeMap.getElem?_erase]
  simp only [Std.LawfulEqCmp.compare_eq_iff_eq]
  split <;> rfl

/-- The end of a subscription takes a subscriber away, if there is one. -/
theorem subscribers_dropSubscriber (service : Service) (other : String) :
    (service.dropSubscriber other).1.subscribers name =
      Notice.tally name (service.subscribers name) ⟨other, false⟩ := by
  unfold Notice.tally dropSubscriber
  cases found : service.entries[other]? with
  | none =>
      by_cases same : other = name
      · subst same
        simp only [subscribers, found, Option.map_none, Option.getD_none, ↓reduceIte,
          Bool.false_eq_true, Nat.zero_sub]
      · simp only [same, ↓reduceIte]
  | some entry =>
      dsimp only
      split
      · by_cases same : other = name
        · subst same
          simp only [subscribers, found, Std.TreeMap.getElem?_insert_self, Option.map_some,
            Option.getD_some, ↓reduceIte, Bool.false_eq_true]
        · simp only [subscribers, lookup_insert, same, ↓reduceIte]
      · rename_i none
        rw [subscribers_removeEntry]
        by_cases same : other = name
        · subst same
          simp only [↓reduceIte, Bool.false_eq_true, subscribers, found, Option.map_some,
            Option.getD_some]
          exact (Nat.eq_zero_of_not_pos none).symm
        · simp only [same, ↓reduceIte]

end Counting

end Service

/-- The subscribers of a name after an act. -/
def Act.tally (name : String) (count : Nat) : Act → Nat
  | .subscribe other => if other = name then count + 1 else count
  | .unsubscribe other => if other = name then count - 1 else count
  | _ => count

/-- What the provider hears of an act. -/
def Act.notices (regex : Pattern.Regex) : Act → List Notice
  | .subscribe name => if regex.isMatch name then [⟨name, true⟩] else []
  | .unsubscribe name => if regex.isMatch name then [⟨name, false⟩] else []
  | _ => []

namespace Provider

/-- The subscribers of a name when everything that waits has been read. -/
def pledged (provider : Provider) (name : String) : Nat :=
  provider.waiting.foldl (Notice.tally name) (provider.service.subscribers name)

variable {provider : Provider} {regex : Pattern.Regex} {field : String}

/-- What waits depends on the board only. -/
private theorem waiting_goOn {result : Service × Option Nat}
    (board : result.1.board = provider.service.board) :
    (provider.goOn result).waiting = provider.waiting := by
  obtain ⟨service, pending⟩ := result
  cases pending <;>
    · unfold waiting goOn
      dsimp only [publish] at board ⊢
      rw [board]

private theorem waiting_of_room {service : Service}
    (noticeRoom : service.board.noticeRoom = provider.service.board.noticeRoom) :
    Provider.waiting { provider with service } = provider.waiting := by
  unfold waiting
  rw [noticeRoom]

/-- The closing of a session touches neither the store nor what waits, nor any entry. -/
theorem afterClosing_keeps (provider : Provider) (id : Nat) :
    (provider.afterClosing id).service.database = provider.service.database ∧
      (provider.afterClosing id).service.entries = provider.service.entries ∧
      (provider.afterClosing id).service.board.failure = provider.service.board.failure ∧
      (provider.afterClosing id).waiting = provider.waiting := by
  have keeps : (provider.service.finishClosing id).database = provider.service.database ∧
      (provider.service.finishClosing id).entries = provider.service.entries ∧
      (provider.service.finishClosing id).board.failure = provider.service.board.failure ∧
      (provider.service.finishClosing id).board.noticeRoom =
        provider.service.board.noticeRoom := by
    unfold Service.finishClosing
    split
    · exact ⟨rfl, rfl, rfl, rfl⟩
    · rename_i running _
      obtain ⟨_, noticeRoom, failure⟩ :=
        running.session.hearing_finishClosing provider.service.board
      exact ⟨rfl, rfl, failure, noticeRoom⟩
  obtain ⟨database, entries, failure, noticeRoom⟩ := keeps
  exact ⟨database, entries, failure, waiting_of_room noticeRoom⟩

/-- What waits behind an act: something may have been read, and something may have come. -/
theorem waiting_perform (sound : provider.IsSound regex field) (act : Act) :
    ∃ kept, kept <:+ provider.waiting ∧
      (provider.perform act).waiting = kept ++ act.notices regex := by
  cases act with
  | subscribe name =>
      exact ⟨_, List.suffix_refl _, (sound.hearing.notified ⟨name, true⟩).2⟩
  | unsubscribe name =>
      exact ⟨_, List.suffix_refl _, (sound.hearing.notified ⟨name, false⟩).2⟩
  | request request => exact ⟨_, List.suffix_refl _, (List.append_nil _).symm⟩
  | failWrites failure => exact ⟨_, List.suffix_refl _, (List.append_nil _).symm⟩
  | deleteList name =>
      refine ⟨_, List.suffix_refl _, ?_⟩
      change _ = provider.waiting ++ []
      rw [List.append_nil]
      exact waiting_of_room (Board.noticeRoom_deleteList _ name)
  | session id =>
      refine ⟨_, List.suffix_refl _, ?_⟩
      change ((provider.stepSession? id).getD provider).waiting = provider.waiting ++ []
      rw [List.append_nil, stepSession?]
      cases stepped : provider.service.step? id with
      | none => rfl
      | some service =>
          exact waiting_of_room (Service.step?_continues sound.service stepped).noticeRoom
  | provider =>
      change ∃ kept, _ ∧ (provider.step?.getD provider).waiting = kept ++ []
      simp only [List.append_nil]
      cases stepped : provider.step? with
      | none => exact ⟨_, List.suffix_refl _, rfl⟩
      | some next =>
          rcases step?_cases sound stepped with
            ⟨id, _, _, _, _, rfl⟩ | ⟨report, rest, _, _, rfl⟩ | ⟨notice, rest, _, _, waits, rfl⟩
          · exact ⟨_, List.suffix_refl _, (provider.afterClosing_keeps id).2.2.2⟩
          · refine ⟨_, List.suffix_refl _, ?_⟩
            exact waiting_goOn (Service.dropDetached_registers _ report).keeps.2
          · refine ⟨rest, waits ▸ List.suffix_cons notice rest, ?_⟩
            have read := sound.hearing.afterNotice.2
            rw [waits, List.tail_cons] at read
            rw [Option.getD_some, ← read]
            split
            · exact waiting_goOn (Service.addSubscriber_registers _ notice.name).keeps.2
            · exact waiting_goOn (Service.dropSubscriber_registers _ notice.name).keeps.2

section Counting

variable {name : String}

/-- A notice counts when it has come. -/
private theorem pledged_notified (sound : provider.IsSound regex field)
    (hears : regex.isMatch name = true) (notice : Notice) :
    (provider.notified notice).pledged name = Notice.tally name (provider.pledged name) notice := by
  unfold pledged
  rw [(sound.hearing.notified notice).2, List.foldl_append]
  by_cases same : notice.name = name
  · rw [same, if_pos hears]
    rfl
  · have ignored : Notice.tally name (provider.waiting.foldl (Notice.tally name)
        (provider.service.subscribers name)) notice =
          provider.waiting.foldl (Notice.tally name) (provider.service.subscribers name) := by
      rw [Notice.tally, if_neg same]
    split
    · rfl
    · exact ignored.symm

/-- While the service goes on with the same entries nothing has to be counted. -/
private theorem pledged_onward {service : Service}
    (continues : provider.service.Continues service) :
    Provider.pledged { provider with service } name = provider.pledged name := by
  unfold pledged Service.subscribers
  rw [waiting_of_room continues.noticeRoom, continues.entries]

/-- The registry is asked to count what has been read. -/
private theorem pledged_goOn {result : Service × Option Nat}
    (board : result.1.board = provider.service.board) :
    (provider.goOn result).pledged name =
      provider.waiting.foldl (Notice.tally name) (result.1.subscribers name) := by
  unfold pledged
  rw [waiting_goOn board]
  obtain ⟨service, pending⟩ := result
  cases pending <;> rfl

/-- The number of subscribers changes as clients subscribe and unsubscribe; no step of a task
changes it, as long as no report removes the entry. -/
theorem pledged_perform (sound : provider.IsSound regex field) (hears : regex.isMatch name = true)
    {descriptor : Descriptor} (parsed : Descriptor.ofName name = .ok descriptor)
    (kept : ∀ report ∈ provider.service.detachments, ∀ entry,
      provider.service.entries[name]? = some entry → entry.session ≠ report.session) (act : Act) :
    (provider.perform act).pledged name = act.tally name (provider.pledged name) := by
  cases act with
  | subscribe other =>
      refine (pledged_notified sound hears ⟨other, true⟩).trans ?_
      simp only [Notice.tally, Act.tally, ↓reduceIte]
  | unsubscribe other =>
      refine (pledged_notified sound hears ⟨other, false⟩).trans ?_
      simp only [Notice.tally, Act.tally, Bool.false_eq_true, ↓reduceIte]
  | request request => rfl
  | failWrites failure => rfl
  | deleteList other =>
      exact pledged_onward (withBoard_continues _ (Board.listeners_deleteList _ other)
        (Board.noticeRoom_deleteList _ other))
  | session id =>
      change ((provider.stepSession? id).getD provider).pledged name = provider.pledged name
      unfold stepSession?
      cases stepped : provider.service.step? id with
      | none => rfl
      | some service => exact pledged_onward (Service.step?_continues sound.service stepped)
  | provider =>
      change (provider.step?.getD provider).pledged name = provider.pledged name
      cases stepped : provider.step? with
      | none => rfl
      | some next =>
          rcases step?_cases sound stepped with
            ⟨id, _, _, _, _, rfl⟩ | ⟨report, rest, _, reports, rfl⟩ |
              ⟨notice, rest, _, _, waits, rfl⟩
          · obtain ⟨_, entries, _, waiting⟩ := provider.afterClosing_keeps id
            change (provider.afterClosing id).pledged name = _
            unfold pledged Service.subscribers
            rw [waiting, entries]
          · rw [Option.getD_some, pledged_goOn (Service.dropDetached_registers _ report).keeps.2]
            refine congrArg (provider.waiting.foldl (Notice.tally name)) ?_
            unfold Service.dropDetached
            cases found : (provider.afterReport rest).service.entries[report.name]? with
            | none => rfl
            | some entry =>
                dsimp only
                split
                · rename_i same
                  rw [Service.subscribers_removeEntry, if_neg]
                  · rfl
                  · intro named
                    refine kept report (reports ▸ List.mem_cons_self) entry ?_ same
                    exact named ▸ found
                · rfl
          · have tail : provider.afterNotice.waiting = rest := by
              rw [sound.hearing.afterNotice.2, waits, List.tail_cons]
            have whole : provider.pledged name = rest.foldl (Notice.tally name)
                (Notice.tally name (provider.service.subscribers name) notice) := by
              rw [pledged, waits, List.foldl_cons]
            rw [Option.getD_some, whole]
            obtain ⟨other, subscribed⟩ := notice
            cases subscribed with
            | true =>
                rw [if_pos rfl, pledged_goOn (Service.addSubscriber_registers _ other).keeps.2,
                  tail, Service.subscribers_addSubscriber provider.afterNotice.service parsed other]
                rfl
            | false =>
                rw [if_neg Bool.false_ne_true,
                  pledged_goOn (Service.dropSubscriber_registers _ other).keeps.2, tail,
                  Service.subscribers_dropSubscriber provider.afterNotice.service other]
                rfl

end Counting

end Provider

end LiveSearch
