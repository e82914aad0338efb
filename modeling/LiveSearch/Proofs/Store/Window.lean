import LiveSearch.Proofs.Session.Events
import LiveSearch.Proofs.Query.Values
import LiveSearch.Proofs.Store.Rows

/-! # Events that lead from one set of keys to another

Events lead from one set of keys to another if each changes the keys as it says
(`LiveSearch.FeedEvent.Leads`). The comparison of two windows yields events that lead from the keys
of the one to those of the other exactly if the windows agree about zeros
(`LiveSearch.Feed.windowEvents_leads_iff`): the two zeros are equal records with different keys, so
a window that exchanges one for the other looks unchanged. A write of one row yields an event that
leads from the keys without a limit to the new ones (`LiveSearch.Feed.recordEvents_leads`).
-/

namespace LiveSearch

namespace FeedEvent

/-- An event changes the keys as it says: it lets in a key that is absent or takes out one that is
present. A feed begins before there are keys. -/
def Applies (field : String) (present : Finset String) : FeedEvent → Prop
  | initial => present = ∅
  | ready => True
  | change none (some record) => ∃ key, keyOf? field record = some key ∧ key ∉ present
  | change (some record) none => ∃ key, keyOf? field record = some key ∧ key ∈ present
  | change _ _ => False

/-- Each event applies to the keys that the earlier ones leave. -/
def ApplyInTurn (field : String) : Finset String → List FeedEvent → Prop
  | _, [] => True
  | present, event :: rest =>
    event.Applies field present ∧ ApplyInTurn field (event.absorb field present) rest

/-- There are at most as many keys as a limit allows, at the beginning and after each event. -/
def StayWithin (field : String) (limit : Nat) : Finset String → List FeedEvent → Prop
  | present, [] => present.card ≤ limit
  | present, event :: rest =>
    present.card ≤ limit ∧ StayWithin field limit (event.absorb field present) rest

/-- Events lead from one set of keys to another, each of them changing the keys as it says. -/
structure Leads (field : String) (events : List FeedEvent) (before after : Finset String) :
    Prop where
  folded : events.foldl (absorb field) before = after
  inTurn : ApplyInTurn field before events

section Sequences

variable {field : String} {limit : Nat} {before after final present : Finset String}
  {first second events : List FeedEvent}

theorem applyInTurn_append : ApplyInTurn field present (first ++ second) ↔
    ApplyInTurn field present first ∧
      ApplyInTurn field (first.foldl (absorb field) present) second := by
  induction first generalizing present with
  | nil => exact (iff_of_eq (true_and _)).symm
  | cons event rest ih =>
      change _ ∧ ApplyInTurn field _ (rest ++ second) ↔ (_ ∧ _) ∧ _
      rw [ih, and_assoc]
      rfl

theorem StayWithin.append (earlier : StayWithin field limit present first)
    (later : StayWithin field limit (first.foldl (absorb field) present) second) :
    StayWithin field limit present (first ++ second) := by
  induction first generalizing present with
  | nil => exact later
  | cons event rest ih => exact ⟨earlier.1, ih earlier.2 later⟩

theorem Leads.nil (field : String) (present : Finset String) : Leads field [] present present :=
  ⟨rfl, trivial⟩

theorem Leads.append (earlier : Leads field first before after)
    (later : Leads field second after final) : Leads field (first ++ second) before final where
  folded := by rw [List.foldl_append, earlier.folded, later.folded]
  inTurn := applyInTurn_append.mpr ⟨earlier.inTurn, earlier.folded.symm ▸ later.inTurn⟩

/-- What leads on from where the first events lead. -/
theorem Leads.of_append (both : Leads field (first ++ second) before final)
    (earlier : Leads field first before after) : Leads field second after final where
  folded := by rw [← both.folded, List.foldl_append, earlier.folded]
  inTurn := earlier.folded ▸ (applyInTurn_append.mp both.inTurn).2

end Sequences

end FeedEvent

section Records

variable {field : String} {limit : Nat} {present : Finset String} {records : List Json}

theorem IsWindow.sublist {others : List Json} (is : IsWindow field records)
    (sub : others.Sublist records) : IsWindow field others where
  plucked kept member := is.plucked kept (sub.subset member)
  nodup := is.nodup.sublist (sub.map _)

/-- The first record of a window has a key that the others do not have. -/
private theorem IsWindow.head {kept : Json} (is : IsWindow field (kept :: records)) :
    ∃ key, keyOf? field kept = some key ∧ key ∉ keysOf field records := by
  obtain ⟨key, plucked⟩ := is.plucked kept List.mem_cons_self
  refine ⟨key, plucked.keyOf, ?_⟩
  intro member
  obtain ⟨other, further, same⟩ := mem_keysOf.mp member
  have alone := (List.nodup_cons.mp is.nodup).1
  exact alone (List.mem_map.mpr ⟨other, further, same.trans plucked.keyOf.symm⟩)

theorem keysOf_cons {kept : Json} {key : String} (keyed : keyOf? field kept = some key) :
    keysOf field (kept :: records) = insert key (keysOf field records) := by
  rw [keysOf, List.filterMap_cons_some keyed, List.toFinset_cons]
  rfl

theorem withRecords_eq (field : String) (present : Finset String) (records : List Json) :
    withRecords field present records = present ∪ keysOf field records := by
  ext key
  rw [mem_withRecords, Finset.mem_union, mem_keysOf]

theorem withoutRecords_eq (field : String) (present : Finset String) (records : List Json) :
    withoutRecords field present records = present \ keysOf field records := by
  ext key
  rw [mem_withoutRecords, Finset.mem_sdiff, mem_keysOf]
  simp only [not_exists, not_and, ne_eq]

namespace FeedEvent

/-- Records of a window can be taken out one after another if their keys are present. -/
theorem applyInTurn_removed (is : IsWindow field records)
    (inside : keysOf field records ⊆ present) :
    ApplyInTurn field present (records.map removed) := by
  induction records generalizing present with
  | nil => trivial
  | cons kept rest ih =>
      obtain ⟨key, keyed, alone⟩ := is.head
      rw [keysOf_cons keyed, Finset.insert_subset_iff] at inside
      refine ⟨⟨key, keyed, inside.1⟩, ih (is.sublist (List.sublist_cons_self kept rest)) ?_⟩
      change _ ⊆ withoutKey present (keyOf? field kept)
      rw [keyed]
      exact Finset.subset_erase.mpr ⟨inside.2, alone⟩

/-- Records of a window can come in one after another exactly if their keys are absent. -/
theorem applyInTurn_inserted (is : IsWindow field records) :
    ApplyInTurn field present (records.map inserted) ↔
      Disjoint present (keysOf field records) := by
  induction records generalizing present with
  | nil => exact iff_of_true trivial (Finset.disjoint_empty_right present)
  | cons kept rest ih =>
      obtain ⟨key, keyed, alone⟩ := is.head
      have onward : ApplyInTurn field (insert key present) (rest.map inserted) ↔
          Disjoint (insert key present) (keysOf field rest) :=
        ih (is.sublist (List.sublist_cons_self kept rest))
      have first : (inserted kept).Applies field present ↔ key ∉ present := by
        change (∃ other, keyOf? field kept = some other ∧ other ∉ present) ↔ _
        simp only [keyed, Option.some.injEq, exists_eq_left']
      change _ ∧ ApplyInTurn field (withKey present (keyOf? field kept)) _ ↔ _
      rw [keyed, first, withKey, onward, keysOf_cons keyed, Finset.disjoint_insert_left,
        Finset.disjoint_insert_right, and_iff_right alone]

/-- Taking records out leaves no more keys than there were. -/
theorem stayWithin_removed (records : List Json) (within : present.card ≤ limit) :
    StayWithin field limit present (records.map removed) := by
  induction records generalizing present with
  | nil => exact within
  | cons kept rest ih =>
      refine ⟨within, ih ?_⟩
      change (withoutKey present (keyOf? field kept)).card ≤ limit
      cases keyOf? field kept with
      | none => exact within
      | some key => exact (Finset.card_erase_le).trans within

/-- While records come in there are at most as many keys as in the end. -/
theorem stayWithin_inserted (within : (withRecords field present records).card ≤ limit) :
    StayWithin field limit present (records.map inserted) := by
  induction records generalizing present with
  | nil => exact within
  | cons kept rest ih =>
      refine ⟨(Finset.card_le_card ?_).trans within, ih within⟩
      rw [withRecords_eq]
      exact Finset.subset_union_left

/-- What a feed sends when it is opened leads to the keys of its window. -/
theorem opening_leads (is : IsWindow field records) :
    Leads field (initial :: (records.map inserted ++ [ready])) ∅ (keysOf field records) where
  folded := by
    change (records.map inserted ++ [ready]).foldl (absorb field) ∅ = _
    rw [List.foldl_append, absorb_inserted, withRecords_eq, Finset.empty_union]
    rfl
  inTurn := by
    refine ⟨rfl, applyInTurn_append.mpr ⟨?_, trivial, trivial⟩⟩
    exact (applyInTurn_inserted is).mpr (Finset.disjoint_empty_left _)

theorem opening_stayWithin (within : (keysOf field records).card ≤ limit) :
    StayWithin field limit ∅ (initial :: (records.map inserted ++ [ready])) := by
  refine ⟨Nat.zero_le limit, (stayWithin_inserted ?_).append ⟨?_, ?_⟩⟩
  all_goals
    simp only [absorb_inserted, withRecords_eq, absorb, Finset.empty_union]
    exact within

end FeedEvent

end Records

namespace Feed

/-- The keys of the zeros in a window. -/
def zeroKeys (field : String) (window : List Json) : Finset String :=
  keysOf field (window.filter (Json.hasZeroKey field))

/-- Windows agree about zeros if one of them has none or both have the same. -/
def ZerosAgree (field : String) (before after : List Json) : Prop :=
  zeroKeys field before = ∅ ∨ zeroKeys field after = ∅ ∨
    zeroKeys field before = zeroKeys field after

instance (field : String) (before after : List Json) : Decidable (ZerosAgree field before after) :=
  inferInstanceAs (Decidable (_ ∨ _ ∨ _))

theorem ZerosAgree.symm {field : String} {before after : List Json}
    (agree : ZerosAgree field before after) : ZerosAgree field after before := by
  rcases agree with none | none | same
  · exact .inr (.inl none)
  · exact .inl none
  · exact .inr (.inr same.symm)

theorem mem_zeroKeys {field key : String} {window : List Json} : key ∈ zeroKeys field window ↔
    ∃ kept ∈ window, kept.hasZeroKey field = true ∧ keyOf? field kept = some key := by
  simp only [zeroKeys, mem_keysOf, List.mem_filter, and_assoc]

theorem isAmong_iff {records : List Json} {record : Json} :
    isAmong records record = true ↔ ∃ other ∈ records, other.same record = true :=
  List.any_eq_true

/-- The records that the second window has in addition to the first. -/
private def added (before after : List Json) : List Json :=
  after.filter fun record => !isAmong before record

/-- The keys of the records that are not taken out. -/
private def stayedKeys (field : String) (before after : List Json) : Finset String :=
  keysOf field before \ keysOf field (added after before)

section Comparing

variable {field : String} {before after : List Json}

private theorem windowEvents_eq (before after : List Json) : windowEvents before after =
    (added after before).map .removed ++ (added before after).map .inserted := rfl

private theorem mem_added {kept : Json} :
    kept ∈ added before after ↔ kept ∈ after ∧ ¬∃ other ∈ before, other.same kept = true := by
  rw [added, List.mem_filter, Bool.not_eq_true', ← Bool.not_eq_true, isAmong_iff]

private theorem added_isWindow (is : IsWindow field after) : IsWindow field (added before after) :=
  is.sublist List.filter_sublist

/-- The keys after the events of a comparison. -/
private theorem folded_windowEvents (before after : List Json) :
    (windowEvents before after).foldl (FeedEvent.absorb field) (keysOf field before) =
      stayedKeys field before after ∪ keysOf field (added before after) := by
  rw [windowEvents_eq, List.foldl_append, FeedEvent.absorb_removed, FeedEvent.absorb_inserted,
    withoutRecords_eq, withRecords_eq, stayedKeys]

/-- The events of a comparison apply exactly if no key comes in that has stayed. -/
private theorem applyInTurn_windowEvents (is : IsWindow field before)
    (later : IsWindow field after) :
    FeedEvent.ApplyInTurn field (keysOf field before) (windowEvents before after) ↔
      Disjoint (stayedKeys field before after) (keysOf field (added before after)) := by
  have inside : keysOf field (added after before) ⊆ keysOf field before := by
    intro key member
    obtain ⟨kept, present, keyed⟩ := mem_keysOf.mp member
    exact mem_keysOf.mpr ⟨kept, (mem_added.mp present).1, keyed⟩
  rw [windowEvents_eq, FeedEvent.applyInTurn_append, FeedEvent.absorb_removed, withoutRecords_eq,
    FeedEvent.applyInTurn_inserted (added_isWindow later)]
  exact and_iff_right (FeedEvent.applyInTurn_removed (added_isWindow is) inside)

/-- A key has stayed if the record with this key equals a record of the other window. -/
private theorem mem_stayed (is : IsWindow field before) {kept : Json} {key : String}
    (member : kept ∈ before) (keyed : keyOf? field kept = some key) :
    key ∈ stayedKeys field before after ↔
      ∃ other ∈ after, other.same kept = true := by
  rw [stayedKeys, Finset.mem_sdiff]
  constructor
  · rintro ⟨_, stayed⟩
    by_contra alone
    exact stayed (mem_keysOf.mpr ⟨kept, mem_added.mpr ⟨member, alone⟩, keyed⟩)
  · intro among
    refine ⟨mem_keysOf.mpr ⟨kept, member, keyed⟩, ?_⟩
    intro gone
    obtain ⟨other, further, same⟩ := mem_keysOf.mp gone
    obtain ⟨present, alone⟩ := mem_added.mp further
    rw [is.eq_of_keyOf present member (same.trans keyed.symm)] at alone
    exact alone among

/-- Equal records of two windows have the same key unless they are zeros. -/
private theorem keyOf_of_same (is : IsWindow field before) (later : IsWindow field after)
    {left right : Json} (first : left ∈ before) (second : right ∈ after)
    (same : left.same right = true) (nonzero : right.hasZeroKey field = false) :
    left.hasZeroKey field = false ∧ keyOf? field left = keyOf? field right := by
  obtain ⟨key, plucked⟩ := is.plucked left first
  obtain ⟨other, further⟩ := later.plucked right second
  have own := (plucked.hasZeroKey_of_same further same).trans nonzero
  rw [plucked.keyOf, further.keyOf, plucked.key_of_same further same own]
  exact ⟨own, rfl⟩

/-- Among windows that agree about zeros, a record that equals one of the other window equals the
one with its own key. -/
private theorem ZerosAgree.counterpart (agree : ZerosAgree field before after)
    (is : IsWindow field before) (later : IsWindow field after) {kept : Json}
    (member : kept ∈ before) (among : ∃ other ∈ after, other.same kept = true) :
    ∃ other ∈ after, other.same kept = true ∧ keyOf? field other = keyOf? field kept := by
  obtain ⟨other, present, same⟩ := among
  cases own : kept.hasZeroKey field with
  | false => exact ⟨other, present, same, (keyOf_of_same later is present member same own).2⟩
  | true =>
      obtain ⟨key, plucked⟩ := is.plucked kept member
      obtain ⟨another, further⟩ := later.plucked other present
      have zero : other.hasZeroKey field = true :=
        (further.hasZeroKey_of_same plucked same).trans own
      have left : key ∈ zeroKeys field before := mem_zeroKeys.mpr ⟨kept, member, own, plucked.keyOf⟩
      have right : another ∈ zeroKeys field after :=
        mem_zeroKeys.mpr ⟨other, present, zero, further.keyOf⟩
      rcases agree with none | none | equal
      · exact absurd left (none ▸ Finset.notMem_empty key)
      · exact absurd right (none ▸ Finset.notMem_empty another)
      · obtain ⟨twin, placed, twinZero, keyed⟩ := mem_zeroKeys.mp (equal ▸ left)
        obtain ⟨_, twinPlucked⟩ := later.plucked twin placed
        exact ⟨twin, placed, twinPlucked.same_of_hasZeroKey plucked twinZero own,
          keyed.trans plucked.keyOf.symm⟩

/-- Events of a comparison lead to the keys of the second window if the windows agree about
zeros. -/
private theorem leads_of_zerosAgree (is : IsWindow field before) (later : IsWindow field after)
    (agree : ZerosAgree field before after) :
    FeedEvent.Leads field (windowEvents before after) (keysOf field before)
      (keysOf field after) where
  folded := by
    rw [folded_windowEvents]
    ext key
    rw [Finset.mem_union]
    constructor
    · rintro (stayed | came)
      · obtain ⟨kept, member, keyed⟩ := mem_keysOf.mp (Finset.mem_sdiff.mp stayed).1
        have among := (mem_stayed is member keyed).mp stayed
        obtain ⟨other, present, _, same⟩ := agree.counterpart is later member among
        exact mem_keysOf.mpr ⟨other, present, same.trans keyed⟩
      · obtain ⟨kept, present, keyed⟩ := mem_keysOf.mp came
        exact mem_keysOf.mpr ⟨kept, (mem_added.mp present).1, keyed⟩
    · intro member
      obtain ⟨kept, present, keyed⟩ := mem_keysOf.mp member
      by_cases among : ∃ other ∈ before, other.same kept = true
      · obtain ⟨other, further, same, equal⟩ := agree.symm.counterpart later is present among
        left
        refine (mem_stayed is further (equal.trans keyed)).mpr ⟨kept, present, ?_⟩
        rw [Json.same_comm, same]
      · exact .inr (mem_keysOf.mpr ⟨kept, mem_added.mpr ⟨present, among⟩, keyed⟩)
  inTurn := by
    rw [applyInTurn_windowEvents is later, Finset.disjoint_left]
    intro key stayed came
    obtain ⟨kept, member, keyed⟩ := mem_keysOf.mp (Finset.mem_sdiff.mp stayed).1
    obtain ⟨new, present, newKeyed⟩ := mem_keysOf.mp came
    obtain ⟨placed, alone⟩ := mem_added.mp present
    have among := (mem_stayed is member keyed).mp stayed
    obtain ⟨other, further, same, equal⟩ := agree.counterpart is later member among
    -- The record that has stayed under this key is the one that comes in.
    have one := later.eq_of_keyOf further placed ((equal.trans keyed).trans newKeyed.symm)
    refine alone ⟨kept, member, ?_⟩
    rw [Json.same_comm, ← one, same]

/-- All zeros in two windows are equal. -/
private theorem same_of_zeros (is : IsWindow field before) (later : IsWindow field after)
    {left right : Json} (first : left ∈ before) (second : right ∈ after)
    (zero : left.hasZeroKey field = true) (otherZero : right.hasZeroKey field = true) :
    left.same right = true := by
  obtain ⟨_, plucked⟩ := is.plucked left first
  obtain ⟨_, further⟩ := later.plucked right second
  exact plucked.same_of_hasZeroKey further zero otherZero

/-- A zero that equals one of the second window does not leave, so if it is not in the second window
itself, another record comes in under its key, which has stayed. -/
private theorem zeroKeys_subset_after (is : IsWindow field before) (later : IsWindow field after)
    (zeros : ∃ right ∈ after, right.hasZeroKey field = true)
    (inside : stayedKeys field before after ⊆ keysOf field after)
    (apart : Disjoint (stayedKeys field before after) (keysOf field (added before after))) :
    zeroKeys field before ⊆ zeroKeys field after := by
  intro key member
  obtain ⟨kept, present, zero, keyed⟩ := mem_zeroKeys.mp member
  obtain ⟨right, placed, rightZero⟩ := zeros
  have stayed : key ∈ stayedKeys field before after := by
    apply (mem_stayed is present keyed).mpr
    exact ⟨right, placed, same_of_zeros later is placed present rightZero zero⟩
  obtain ⟨other, further, same⟩ := mem_keysOf.mp (inside stayed)
  cases otherZero : other.hasZeroKey field with
  | true => exact mem_zeroKeys.mpr ⟨other, further, otherZero, same⟩
  | false =>
      exfalso
      apply Finset.disjoint_left.mp apart stayed
      apply mem_keysOf.mpr ⟨other, mem_added.mpr ⟨further, ?_⟩, same⟩
      rintro ⟨twin, placed, among⟩
      obtain ⟨nonzero, equalKeys⟩ := keyOf_of_same is later placed further among otherZero
      rw [is.eq_of_keyOf placed present ((equalKeys.trans same).trans keyed.symm), zero] at nonzero
      exact nomatch nonzero

/-- A zero that equals one of the first window does not come in, so its key has stayed, and a record
that stays under this key is the zero itself. -/
private theorem zeroKeys_subset_before (is : IsWindow field before) (later : IsWindow field after)
    (zeros : ∃ left ∈ before, left.hasZeroKey field = true)
    (covered : keysOf field after ⊆
      stayedKeys field before after ∪ keysOf field (added before after)) :
    zeroKeys field after ⊆ zeroKeys field before := by
  intro key member
  obtain ⟨kept, present, zero, keyed⟩ := mem_zeroKeys.mp member
  obtain ⟨left, placed, leftZero⟩ := zeros
  have inside := covered (mem_keysOf.mpr ⟨kept, present, keyed⟩)
  rcases Finset.mem_union.mp inside with stayed | came
  · obtain ⟨other, further, same⟩ := mem_keysOf.mp (Finset.mem_sdiff.mp stayed).1
    obtain ⟨twin, there, among⟩ := (mem_stayed is further same).mp stayed
    cases otherZero : other.hasZeroKey field with
    | true => exact mem_zeroKeys.mpr ⟨other, further, otherZero, same⟩
    | false =>
        obtain ⟨nonzero, equalKeys⟩ := keyOf_of_same later is there further among otherZero
        rw [later.eq_of_keyOf there present ((equalKeys.trans same).trans keyed.symm), zero]
          at nonzero
        exact nomatch nonzero
  · obtain ⟨new, there, newKeyed⟩ := mem_keysOf.mp came
    obtain ⟨further, alone⟩ := mem_added.mp there
    rw [later.eq_of_keyOf further present (newKeyed.trans keyed.symm)] at alone
    exact absurd ⟨left, placed, same_of_zeros is later placed present leftZero zero⟩ alone

/-- Events of a comparison only lead to the keys of the second window if the windows agree about
zeros. -/
private theorem zerosAgree_of_leads (is : IsWindow field before) (later : IsWindow field after)
    (leads : FeedEvent.Leads field (windowEvents before after) (keysOf field before)
      (keysOf field after)) : ZerosAgree field before after := by
  have folded := (folded_windowEvents before after).symm.trans leads.folded
  have apart := (applyInTurn_windowEvents is later).mp leads.inTurn
  rcases Finset.eq_empty_or_nonempty (zeroKeys field before) with none | ⟨first, member⟩
  · exact .inl none
  rcases Finset.eq_empty_or_nonempty (zeroKeys field after) with none | ⟨second, present⟩
  · exact .inr (.inl none)
  right
  right
  obtain ⟨left, inBefore, leftZero, _⟩ := mem_zeroKeys.mp member
  obtain ⟨right, inAfter, rightZero, _⟩ := mem_zeroKeys.mp present
  apply Finset.Subset.antisymm
  · exact zeroKeys_subset_after is later ⟨right, inAfter, rightZero⟩
      (folded ▸ Finset.subset_union_left) apart
  · exact zeroKeys_subset_before is later ⟨left, inBefore, leftZero⟩ folded.ge

/-- Events of a comparison lead to the keys of the second window exactly if the windows agree about
zeros. -/
theorem windowEvents_leads_iff (is : IsWindow field before) (later : IsWindow field after) :
    FeedEvent.Leads field (windowEvents before after) (keysOf field before)
      (keysOf field after) ↔ ZerosAgree field before after :=
  ⟨zerosAgree_of_leads is later, leads_of_zerosAgree is later⟩

/-- A comparison takes out before it lets in, so there are never more keys than at one of the
ends. -/
theorem windowEvents_stayWithin {limit : Nat} (within : (keysOf field before).card ≤ limit)
    (further : ((windowEvents before after).foldl (FeedEvent.absorb field)
      (keysOf field before)).card ≤ limit) :
    FeedEvent.StayWithin field limit (keysOf field before) (windowEvents before after) := by
  rw [windowEvents_eq, List.foldl_append, FeedEvent.absorb_inserted] at further
  exact (FeedEvent.stayWithin_removed _ within).append (FeedEvent.stayWithin_inserted further)

end Comparing

section Writing

variable {selection : Selection} {field key : String} {before after : Std.TreeMap String Json}

/-- Rows whose keys are not minus zero have windows that agree about zeros. -/
theorem zerosAgree_of_keyed (keyed : AreKeyed field before) (later : AreKeyed field after)
    (plucks : selection.primaryKey = some field) :
    ZerosAgree field (selection.run before.values) (selection.run after.values) := by
  have plain {rows : Std.TreeMap String Json} (keyed : AreKeyed field rows) {kept : Json}
      (member : kept ∈ selection.run rows.values) :
      ∃ key, kept.IsPlucked field key ∧ kept.HasPlainKey field := by
    obtain ⟨record, picked, rfl⟩ := List.mem_map.mp member
    obtain ⟨key, found, filed, plucked⟩ := Selection.project_of_picked keyed.filed plucks picked
    refine ⟨key, plucked, ?_⟩
    intro value there
    exact (keyed key record found).plain value ((filed.project plucks).2 ▸ there)
  -- All zeros have the same key.
  have one {rows others : Std.TreeMap String Json} (keyed : AreKeyed field rows)
      (further : AreKeyed field others) {key other : String}
      (member : key ∈ zeroKeys field (selection.run rows.values))
      (present : other ∈ zeroKeys field (selection.run others.values)) : key = other := by
    obtain ⟨left, first, zero, own⟩ := mem_zeroKeys.mp member
    obtain ⟨right, second, otherZero, another⟩ := mem_zeroKeys.mp present
    obtain ⟨text, plucked, fine⟩ := plain keyed first
    obtain ⟨otherText, otherPlucked, otherFine⟩ := plain further second
    have same := plucked.key_of_hasZeroKey otherPlucked fine otherFine zero otherZero
    rw [plucked.keyOf] at own
    rw [otherPlucked.keyOf] at another
    rw [← Option.some.inj own, ← Option.some.inj another, same]
  rcases Finset.eq_empty_or_nonempty (zeroKeys field (selection.run before.values)) with
    none | ⟨first, member⟩
  · exact .inl none
  rcases Finset.eq_empty_or_nonempty (zeroKeys field (selection.run after.values)) with
    none | ⟨second, present⟩
  · exact .inr (.inl none)
  right
  right
  ext other
  constructor
  · intro inside
    exact one keyed later inside present ▸ present
  · intro inside
    exact one later keyed inside member ▸ member

/-- What is sent of a write without a limit, and what becomes of the keys. -/
theorem recordEvents_cases (filed : AreFiled field before) (later : AreFiled field after)
    (plucks : selection.primaryKey = some field) (unlimited : selection.isWindowed = false)
    (differ : DifferAt key before after) :
    (recordEvents selection before[key]? after[key]? = [] ∧
        selection.keys field after.values = selection.keys field before.values) ∨
      (∃ kept, keyOf? field kept = some key ∧
        recordEvents selection before[key]? after[key]? = [.inserted kept] ∧
        key ∉ selection.keys field before.values ∧
        selection.keys field after.values = insert key (selection.keys field before.values)) ∨
      ∃ kept, keyOf? field kept = some key ∧
        recordEvents selection before[key]? after[key]? = [.removed kept] ∧
        key ∈ selection.keys field before.values ∧
        selection.keys field after.values = (selection.keys field before.values).erase key := by
  have apart : (selection.keys field after.values).erase key =
      (selection.keys field before.values).erase key := by
    ext other
    rw [Finset.mem_erase, Finset.mem_erase]
    apply and_congr_right
    intro different
    rw [Selection.mem_keys_unlimited later plucks unlimited,
      Selection.mem_keys_unlimited filed plucks unlimited, differ other different.symm]
  have absent {rows : Std.TreeMap String Json} (filed : AreFiled field rows)
      (rejected : rows[key]?.filter selection.accepts = none) :
      key ∉ selection.keys field rows.values := by
    intro member
    obtain ⟨record, found, accepted⟩ :=
      (Selection.mem_keys_unlimited filed plucks unlimited).mp member
    rw [found, Option.filter_some, accepted] at rejected
    exact nomatch rejected
  have present {rows : Std.TreeMap String Json} (filed : AreFiled field rows) {record : Json}
      (passed : rows[key]?.filter selection.accepts = some record) :
      keyOf? field (selection.project record) = some key ∧
        key ∈ selection.keys field rows.values := by
    obtain ⟨found, accepted⟩ := Option.filter_eq_some_iff.mp passed
    exact ⟨((filed key record found).project plucks).1.keyOf,
      (Selection.mem_keys_unlimited filed plucks unlimited).mpr ⟨record, found, accepted⟩⟩
  unfold recordEvents
  cases was : before[key]?.filter selection.accepts with
  | none =>
      have outside := absent filed was
      cases is : after[key]?.filter selection.accepts with
      | none =>
          refine .inl ⟨rfl, ?_⟩
          rw [← Finset.erase_eq_of_notMem (absent later is), apart,
            Finset.erase_eq_of_notMem outside]
      | some record =>
          obtain ⟨keyed, inside⟩ := present later is
          refine .inr (.inl ⟨_, keyed, rfl, outside, ?_⟩)
          rw [← Finset.insert_erase inside, apart, Finset.erase_eq_of_notMem outside]
  | some record =>
      obtain ⟨keyed, inside⟩ := present filed was
      cases is : after[key]?.filter selection.accepts with
      | none =>
          refine .inr (.inr ⟨_, keyed, rfl, inside, ?_⟩)
          rw [← Finset.erase_eq_of_notMem (absent later is), apart]
      | some another =>
          refine .inl ⟨rfl, ?_⟩
          rw [← Finset.insert_erase (present later is).2, apart, Finset.insert_erase inside]

/-- Without a limit, what is sent of a write leads to the keys behind the write. -/
theorem recordEvents_leads (filed : AreFiled field before) (later : AreFiled field after)
    (plucks : selection.primaryKey = some field) (unlimited : selection.isWindowed = false)
    (differ : DifferAt key before after) :
    FeedEvent.Leads field (recordEvents selection before[key]? after[key]?)
      (selection.keys field before.values) (selection.keys field after.values) := by
  rcases recordEvents_cases filed later plucks unlimited differ with
    ⟨silent, same⟩ | ⟨kept, keyed, sent, absent, grown⟩ | ⟨kept, keyed, sent, present, shrunk⟩
  · rw [silent, same]
    exact .nil field _
  · rw [sent, grown]
    exact ⟨congrArg (withKey _) keyed, ⟨key, keyed, absent⟩, trivial⟩
  · rw [sent, shrunk]
    exact ⟨congrArg (withoutKey _) keyed, ⟨key, keyed, present⟩, trivial⟩

end Writing

end Feed

end LiveSearch
