import LiveSearch.Proofs.Session.Listing

/-! # What events make of the keys

Every event of a changefeed stands for a change of a set of keys (`LiveSearch.FeedEvent.absorb`),
which is what it makes of a list, without the order (`LiveSearch.FeedEvent.toFinset_arrange`). So a
session that gathers keys changes its gathered set accordingly
(`LiveSearch.Session.keys_mergeChange`), and one that follows its list changes its entries
accordingly as long as the event has only one side (`LiveSearch.Session.receive_pure`). In between
it publishes exactly what it has gathered (`LiveSearch.Session.publish_ready`).
-/

namespace LiveSearch

/-- The keys when a record has come in; a record without a usable key changes nothing. -/
def withKey (present : Finset String) : Option String → Finset String
  | some key => insert key present
  | none => present

/-- The keys when a record has left. -/
def withoutKey (present : Finset String) : Option String → Finset String
  | some key => present.erase key
  | none => present

namespace FeedEvent

/-- The keys after an event: the beginning of a feed replaces them, and of a change the old side
leaves before the new side comes in. -/
def absorb (field : String) (present : Finset String) : FeedEvent → Finset String
  | initial => ∅
  | ready => present
  | change old new =>
    withKey (withoutKey present (old.bind (keyOf? field))) (new.bind (keyOf? field))

end FeedEvent

/-- The keys when all records of a result have come in. -/
def withRecords (field : String) (present : Finset String) (records : List Json) : Finset String :=
  records.foldl (fun present record => withKey present (keyOf? field record)) present

theorem mem_withRecords (field : String) (present : Finset String) (records : List Json)
    (key : String) : key ∈ withRecords field present records ↔
      key ∈ present ∨ ∃ record ∈ records, keyOf? field record = some key := by
  induction records generalizing present with
  | nil =>
      change key ∈ present ↔ _
      simp only [List.not_mem_nil, false_and, exists_false, or_false]
  | cons record rest ih =>
      change key ∈ withRecords field (withKey present (keyOf? field record)) rest ↔ _
      have first : key ∈ withKey present (keyOf? field record) ↔
          key ∈ present ∨ keyOf? field record = some key := by
        cases keyed : keyOf? field record with
        | none => simp only [withKey, reduceCtorEq, or_false]
        | some other =>
            rw [withKey, Finset.mem_insert, Option.some.injEq, or_comm, eq_comm]
      rw [ih, first, or_assoc]
      simp only [List.mem_cons, exists_eq_or_imp]

/-- The keys when all records of a result have left. -/
def withoutRecords (field : String) (present : Finset String) (records : List Json) :
    Finset String :=
  records.foldl (fun present record => withoutKey present (keyOf? field record)) present

theorem mem_withoutRecords (field : String) (present : Finset String) (records : List Json)
    (key : String) : key ∈ withoutRecords field present records ↔
      key ∈ present ∧ ∀ record ∈ records, keyOf? field record ≠ some key := by
  induction records generalizing present with
  | nil =>
      change key ∈ present ↔ _
      simp only [List.not_mem_nil, false_imp_iff, implies_true, and_true]
  | cons record rest ih =>
      change key ∈ withoutRecords field (withoutKey present (keyOf? field record)) rest ↔ _
      have first : key ∈ withoutKey present (keyOf? field record) ↔
          key ∈ present ∧ keyOf? field record ≠ some key := by
        cases keyed : keyOf? field record with
        | none => simp only [withoutKey, ne_eq, reduceCtorEq, not_false_eq_true, and_true]
        | some other =>
            rw [withoutKey, Finset.mem_erase, ne_eq, ne_eq, Option.some.injEq, and_comm, eq_comm]
      rw [ih, first, and_assoc]
      simp only [List.forall_mem_cons]

section Entries

variable {entries : List String}

theorem toFinset_withEntry (entries : List String) (id : Option String) :
    (withEntry entries id).toFinset = withKey entries.toFinset id := by
  cases id with
  | none => rfl
  | some key =>
      rw [withEntry, withKey]
      split
      next listed => exact (Finset.insert_eq_of_mem (List.mem_toFinset.mpr listed)).symm
      next =>
        ext other
        simp only [List.mem_toFinset, List.mem_append, List.mem_singleton, Finset.mem_insert]
        exact or_comm

theorem toFinset_withoutEntry (nodup : entries.Nodup) (id : Option String) :
    (withoutEntry entries id).toFinset = withoutKey entries.toFinset id := by
  cases id with
  | none => rfl
  | some key =>
      ext other
      simp only [withoutEntry, withoutKey, List.mem_toFinset, nodup.mem_erase_iff,
        Finset.mem_erase]

theorem toFinset_withEntries (field : String) (entries : List String) (records : List Json) :
    (withEntries field entries records).toFinset =
      withRecords field entries.toFinset records := by
  induction records generalizing entries with
  | nil => rfl
  | cons record rest ih =>
      rw [withEntries, List.foldl_cons, ← withEntries, ih, toFinset_withEntry]
      rfl

namespace FeedEvent

/-- An event changes the keys of a list as it changes the list. -/
theorem toFinset_arrange (nodup : entries.Nodup) (field : String) (event : FeedEvent) :
    (event.arrange field entries).toFinset = event.absorb field entries.toFinset := by
  cases event with
  | initial => rfl
  | ready => rfl
  | change old new =>
      rw [arrange, absorb, toFinset_withEntry, toFinset_withoutEntry nodup]

theorem toFinset_foldl_arrange (nodup : entries.Nodup) (field : String) (events : List FeedEvent) :
    (events.foldl (arrange field) entries).toFinset =
      events.foldl (absorb field) entries.toFinset := by
  induction events generalizing entries with
  | nil => rfl
  | cons event rest ih =>
      rw [List.foldl_cons, List.foldl_cons, ih (event.nodup_arrange nodup field),
        toFinset_arrange nodup]

end FeedEvent

end Entries

namespace FeedEvent

theorem absorb_inserted (field : String) (present : Finset String) (records : List Json) :
    (records.map inserted).foldl (absorb field) present = withRecords field present records :=
  List.foldl_map

theorem absorb_removed (field : String) (present : Finset String) (records : List Json) :
    (records.map removed).foldl (absorb field) present = withoutRecords field present records :=
  List.foldl_map

end FeedEvent

namespace Session

variable {session : Session} {board : Board}

/-- A session that gathers keys absorbs a change. -/
theorem keys_mergeChange {keys : KeySet} (exact : keys.IsExact) (old new : Option Json) :
    (session.mergeChange keys old new).keys =
      (FeedEvent.change old new).absorb session.primaryKey keys.keys := by
  rw [KeySet.keys, toList_mergeChange exact, FeedEvent.toFinset_arrange exact.nodup_toList,
    KeySet.keys]

variable (session) in
/-- On a sound board publishing succeeds unless all writes fail. -/
theorem publish_ready (sound : board.IsSound) (working : board.failure = none) (keys : KeySet) :
    ∃ handle, (session.publish board keys).1 = session.ready handle keys.toList ∧
      (session.publish board keys).2.isWithdrawn handle = false := by
  rcases session.publish_cases board keys with
    ⟨cause, barred, _⟩ | ⟨list, found, adopted⟩ | ⟨absent, created⟩
  · exfalso
    have written := board.handleFor_writesOnly session.name
    rcases barred with failing | withdrawn | ⟨absent, settled⟩
    · rw [written.failure, working] at failing
      exact absurd failing Bool.false_ne_true
    · rw [written.isWithdrawn] at withdrawn
      cases found : board.lists[session.name]? with
      | some list =>
          have standing := (sound.listed session.name list found).2
          simp only [Board.handleFor, found, Board.isWithdrawn, standing] at withdrawn
          exact absurd withdrawn Bool.false_ne_true
      | none =>
          have standing := sound.notWithdrawn (Nat.le_refl board.nextIncarnation)
          simp only [Board.handleFor, found, Board.isWithdrawn, standing] at withdrawn
          exact absurd withdrawn Bool.false_ne_true
    · rw [Board.lists_handleFor, Board.name_handleFor] at absent
      simp only [Board.handleFor, absent] at settled
      exact absurd settled.symm Bool.false_ne_true
  · refine ⟨⟨session.name, list.incarnation, false⟩, ?_⟩
    rw [adopted]
    refine ⟨rfl, ?_⟩
    rw [(Handle.rewritten_writesOnly _ _ found).isWithdrawn]
    exact (sound.listed session.name list found).2
  · refine ⟨⟨session.name, board.nextIncarnation, false⟩, ?_⟩
    rw [created]
    refine ⟨rfl, ?_⟩
    have fresh : board.nextIncarnation ≤
        Handle.incarnation ⟨session.name, board.nextIncarnation, true⟩ := Nat.le_refl _
    rw [(Handle.created_writesOnly _ _ fresh).isWithdrawn]
    exact sound.notWithdrawn (Nat.le_refl _)

section Following

variable {handle : Handle} {entries : List String}

/-- Nothing bars a session from writing a list that still stands. -/
theorem Fits.notBarred (fits : session.Fits board) (working : board.failure = none)
    (following : session.phase = .following handle entries)
    (standing : board.isWithdrawn handle = false) : ¬ handle.IsBarred board := by
  rintro (failing | withdrawn | ⟨absent, _⟩)
  · rw [working] at failing
    exact absurd failing Bool.false_ne_true
  · exact absurd (standing.symm.trans withdrawn) Bool.false_ne_true
  · obtain ⟨_, _, listed⟩ := fits.mirrored handle entries following
    rw [fits.named handle (by rw [following]; rfl)] at absent
    rcases listed with withdrawn | found
    · exact absurd (standing.symm.trans withdrawn) Bool.false_ne_true
    · exact nomatch absent.symm.trans found

/-- A session that follows its list absorbs an event with one side, unless it is barred from writing
the list and ends. -/
theorem receive_pure_cases (fits : session.Fits board)
    (following : session.phase = .following handle entries) {event : FeedEvent}
    (pure : event.isPure = true) :
    (∃ others, (session.receive board (.event (.ok event))).1 =
        session.goOn (.following handle others) ∧
      others.toFinset = event.absorb session.primaryKey entries.toFinset) ∨
    handle.IsBarred board ∧
      (session.receive board (.event (.ok event))).1.phase.isStopped = true := by
  obtain ⟨_, nodup, _⟩ := fits.mirrored handle entries following
  rcases receive_arranges_cases fits following pure with told | barred
  · exact .inl ⟨_, told, event.toFinset_arrange nodup session.primaryKey⟩
  · exact .inr barred

/-- A session that follows a list that still stands absorbs an event with one side. -/
theorem receive_pure (fits : session.Fits board) (working : board.failure = none)
    (following : session.phase = .following handle entries)
    (standing : board.isWithdrawn handle = false) {event : FeedEvent} (pure : event.isPure = true) :
    ∃ others, (session.receive board (.event (.ok event))).1 =
        session.goOn (.following handle others) ∧
      others.toFinset = event.absorb session.primaryKey entries.toFinset := by
  rcases receive_pure_cases fits following pure with absorbed | ⟨barred, _⟩
  · exact absorbed
  · exact absurd barred (fits.notBarred working following standing)

end Following

end Session

end LiveSearch
