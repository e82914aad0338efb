import LiveSearch.Proofs.Session.Fit

/-! # What events make of a list

Every event of a changefeed stands for a change of a list of keys, in which each key keeps its place
while it is listed (`LiveSearch.FeedEvent.arrange`). A session that gathers keys keeps them in this
order (`LiveSearch.Session.toList_mergeChange`), and one that follows its list changes its entries
in the same way as long as the event has only one side
(`LiveSearch.Session.receive_arranges_cases`).
-/

namespace LiveSearch

/-- The entries when a record has come in: a new key comes last, and a record without a usable key
changes nothing. -/
def withEntry (entries : List String) : Option String → List String
  | some key => if key ∈ entries then entries else entries ++ [key]
  | none => entries

/-- The entries when a record has left. -/
def withoutEntry (entries : List String) : Option String → List String
  | some key => entries.erase key
  | none => entries

/-- The entries when all records of a result have come in. -/
def withEntries (field : String) (entries : List String) (records : List Json) : List String :=
  records.foldl (fun entries record => withEntry entries (keyOf? field record)) entries

namespace FeedEvent

/-- The entries after an event: the beginning of a feed replaces them, and of a change the old side
leaves before the new side comes in. -/
def arrange (field : String) (entries : List String) : FeedEvent → List String
  | initial => []
  | ready => entries
  | change old new =>
    withEntry (withoutEntry entries (old.bind (keyOf? field))) (new.bind (keyOf? field))

/-- An event that lets one record in or takes one record out. -/
def isPure : FeedEvent → Bool
  | change none (some _) => true
  | change (some _) none => true
  | _ => false

end FeedEvent

section Entries

variable {entries : List String} {id : Option String}

theorem withEntry_of_listed (listed : ∀ key, id = some key → key ∈ entries) :
    withEntry entries id = entries := by
  cases id with
  | none => rfl
  | some key => exact if_pos (listed key rfl)

theorem withoutEntry_of_absent (absent : ∀ key, id = some key → key ∉ entries) :
    withoutEntry entries id = entries := by
  cases id with
  | none => rfl
  | some key => exact List.erase_of_not_mem (absent key rfl)

theorem nodup_withEntry (nodup : entries.Nodup) (id : Option String) :
    (withEntry entries id).Nodup := by
  cases id with
  | none => exact nodup
  | some key =>
      rw [withEntry]
      split
      next => exact nodup
      next absent =>
        rw [← List.concat_eq_append]
        exact nodup.concat absent

theorem nodup_withoutEntry (nodup : entries.Nodup) (id : Option String) :
    (withoutEntry entries id).Nodup := by
  cases id with
  | none => exact nodup
  | some key => exact nodup.erase key

theorem nodup_withEntries (nodup : entries.Nodup) (field : String) (records : List Json) :
    (withEntries field entries records).Nodup := by
  induction records generalizing entries with
  | nil => exact nodup
  | cons record rest ih => exact ih (nodup_withEntry nodup _)

namespace FeedEvent

theorem nodup_arrange (nodup : entries.Nodup) (field : String) (event : FeedEvent) :
    (event.arrange field entries).Nodup := by
  cases event with
  | initial => exact List.nodup_nil
  | ready => exact nodup
  | change old new => exact nodup_withEntry (nodup_withoutEntry nodup _) _

theorem nodup_foldl_arrange (nodup : entries.Nodup) (field : String) (events : List FeedEvent) :
    (events.foldl (arrange field) entries).Nodup := by
  induction events generalizing entries with
  | nil => exact nodup
  | cons event rest ih => exact ih (event.nodup_arrange nodup field)

end FeedEvent

end Entries

namespace Session

variable {session : Session} {board : Board}

section Gathering

variable {keys : KeySet}

theorem toList_addKey (exact : keys.IsExact) (record : Json) :
    (session.addKey keys record).toList =
      withEntry keys.toList (keyOf? session.primaryKey record) := by
  unfold addKey
  cases keyOf? session.primaryKey record with
  | none => rfl
  | some key => exact exact.toList_insert key

theorem toList_dropKey (exact : keys.IsExact) (record : Json) :
    (session.dropKey keys record).toList =
      withoutEntry keys.toList (keyOf? session.primaryKey record) := by
  unfold dropKey
  cases keyOf? session.primaryKey record with
  | none => rfl
  | some key => exact exact.toList_erase key

/-- A session that gathers keys arranges them as a change says. -/
theorem toList_mergeChange (exact : keys.IsExact) (old new : Option Json) :
    (session.mergeChange keys old new).toList =
      (FeedEvent.change old new).arrange session.primaryKey keys.toList := by
  unfold mergeChange FeedEvent.arrange
  cases old with
  | none =>
      cases new with
      | none => rfl
      | some record => exact toList_addKey exact record
  | some left =>
      have without := session.toList_dropKey exact left
      cases new with
      | none => exact without
      | some record =>
          change (session.addKey (session.dropKey keys left) record).toList = _
          rw [toList_addKey (session.dropKey_isExact exact left), without]
          rfl

end Gathering

section Following

variable {handle : Handle} {entries : List String}

/-- A record that comes in is listed unless the write is barred. -/
private theorem listRecord_arranges (fits : session.Fits board)
    (following : session.phase = .following handle entries) (record : Json) :
    (session.listRecord board handle entries record).1 = session.goOn
        (.following handle (withEntry entries (keyOf? session.primaryKey record))) ∨
      handle.IsBarred board ∧
        (session.listRecord board handle entries record).1.phase.isStopped = true := by
  obtain ⟨settled, _, _⟩ := fits.mirrored handle entries following
  rcases session.listRecord_cases board settled record with
    ⟨same, present⟩ | ⟨cause, barred, refused⟩ | ⟨key, list, keyed, absent, _, listed⟩
  · rw [same, withEntry_of_listed present, goOn, ← following]
    exact .inl rfl
  · rw [refused]
    exact .inr ⟨barred, rfl⟩
  · rw [listed, keyed, withEntry, if_neg absent]
    exact .inl rfl

/-- A record that leaves is taken off the list unless the write is barred. -/
private theorem unlistRecord_arranges (fits : session.Fits board)
    (following : session.phase = .following handle entries) (record : Json) :
    (session.unlistRecord board handle entries record).1 = session.goOn
        (.following handle (withoutEntry entries (keyOf? session.primaryKey record))) ∨
      handle.IsBarred board ∧
        (session.unlistRecord board handle entries record).1.phase.isStopped = true := by
  obtain ⟨settled, _, _⟩ := fits.mirrored handle entries following
  rcases session.unlistRecord_cases board settled record with
    ⟨same, absent⟩ | ⟨cause, barred, refused⟩ | ⟨key, list, keyed, _, _, unlisted⟩
  · rw [same, withoutEntry_of_absent absent, goOn, ← following]
    exact .inl rfl
  · rw [refused]
    exact .inr ⟨barred, rfl⟩
  · rw [unlisted, keyed, withoutEntry]
    exact .inl rfl

/-- A session that follows its list arranges its entries as an event with one side says, unless it
is barred from writing the list and ends. -/
theorem receive_arranges_cases (fits : session.Fits board)
    (following : session.phase = .following handle entries) {event : FeedEvent}
    (pure : event.isPure = true) :
    (session.receive board (.event (.ok event))).1 =
        session.goOn (.following handle (event.arrange session.primaryKey entries)) ∨
      handle.IsBarred board ∧
        (session.receive board (.event (.ok event))).1.phase.isStopped = true := by
  cases event with
  | initial => exact absurd pure Bool.false_ne_true
  | ready => exact absurd pure Bool.false_ne_true
  | change old new =>
      cases old with
      | none =>
          cases new with
          | none => exact absurd pure Bool.false_ne_true
          | some record =>
              have told : session.receive board (.event (.ok (.change none (some record)))) =
                  session.listRecord board handle entries record := by
                simp only [receive, following, receiveFollowing]
              rw [told]
              exact listRecord_arranges fits following record
      | some left =>
          cases new with
          | some record => exact absurd pure Bool.false_ne_true
          | none =>
              have told : session.receive board (.event (.ok (.change (some left) none))) =
                  session.unlistRecord board handle entries left := by
                simp only [receive, following, receiveFollowing]
              rw [told]
              exact unlistRecord_arranges fits following left

/-- A session that follows its list does not heed any other event. -/
theorem receive_of_not_isPure (following : session.phase = .following handle entries)
    {event : FeedEvent} (other : event.isPure = false) :
    session.receive board (.event (.ok event)) = (session, board) := by
  cases event with
  | change old new =>
      cases old with
      | none =>
          cases new with
          | none => simp only [receive, following, receiveFollowing]
          | some record => exact absurd other Bool.true_eq_false.mp
      | some left =>
          cases new with
          | none => exact absurd other Bool.true_eq_false.mp
          | some record => simp only [receive, following, receiveFollowing]
  | _ => simp only [receive, following, receiveFollowing]

end Following

end Session

end LiveSearch
