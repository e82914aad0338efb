import LiveSearch.Proofs.Store.Window

/-! # What changefeeds report of a write

A write changes one row. What a feed sends of it leads from the keys that its selection picked
before to those that it picks afterwards (`LiveSearch.Feed.afterWrite_leads`): with a limit because
the feed compares the two results, and without one because only the written row can come in or
leave. Its reader receives all of it, and no other reader does (`LiveSearch.Feed.boxes_publish`,
`LiveSearch.Feed.boxes_publish_other`).
-/

namespace LiveSearch

namespace Feed

/-- The window of a feed is what its selection picks at present; only a selection with a limit needs
one. -/
def IsCurrent (feed : Feed) (records : List Json) : Prop :=
  feed.selection.isWindowed = true → feed.window = feed.selection.run records

section Sending

variable {feed : Feed} {field key : String} {before after : Std.TreeMap String Json}
  {old new : Option Json}

/-- A feed with a limit sends what leads from one window to the other. -/
theorem afterWrite_windowed (windowed : feed.selection.isWindowed = true)
    (current : feed.IsCurrent before.values) : (feed.afterWrite after.values old new).2 =
      windowEvents (feed.selection.run before.values) (feed.selection.run after.values) := by
  rw [afterWrite, if_pos windowed, current windowed]

/-- A feed without a limit sends what the write means for the row. -/
theorem afterWrite_unlimited (unlimited : feed.selection.isWindowed = false)
    (records : List Json) :
    (feed.afterWrite records old new).2 = recordEvents feed.selection old new := by
  rw [afterWrite, if_neg (Bool.not_eq_true _ ▸ unlimited)]

/-- What a feed sends of a write leads from the keys that its selection picked to those that it
picks. -/
theorem afterWrite_leads (keyed : AreKeyed field before) (later : AreKeyed field after)
    (current : feed.IsCurrent before.values) (plucks : feed.selection.primaryKey = some field)
    (differ : DifferAt key before after) (was : before[key]? = old) (is : after[key]? = new) :
    FeedEvent.Leads field (feed.afterWrite after.values old new).2
      (feed.selection.keys field before.values) (feed.selection.keys field after.values) := by
  cases windowed : feed.selection.isWindowed with
  | true =>
      rw [afterWrite_windowed windowed current]
      exact (windowEvents_leads_iff (Selection.isWindow_run keyed.filed plucks)
        (Selection.isWindow_run later.filed plucks)).mpr (zerosAgree_of_keyed keyed later plucks)
  | false =>
      rw [afterWrite_unlimited windowed, ← was, ← is]
      exact recordEvents_leads keyed.filed later.filed plucks windowed differ

variable (records : List Json)

@[simp] theorem address_afterWrite : (feed.afterWrite records old new).1.address =
    feed.address := by
  unfold afterWrite
  split <;> rfl

@[simp] theorem selection_afterWrite :
    (feed.afterWrite records old new).1.selection = feed.selection := by
  unfold afterWrite
  split <;> rfl

theorem afterWrite_isCurrent : (feed.afterWrite records old new).1.IsCurrent records := by
  unfold afterWrite
  split
  · exact fun _ => rfl
  · rename_i unlimited
    exact fun windowed => absurd windowed unlimited

theorem isPure_of_mem_windowEvents {before after : List Json} {event : FeedEvent}
    (member : event ∈ windowEvents before after) : event.isPure = true := by
  rcases List.mem_append.mp member with removed | inserted
  · obtain ⟨_, _, rfl⟩ := List.mem_map.mp removed
    rfl
  · obtain ⟨_, _, rfl⟩ := List.mem_map.mp inserted
    rfl

theorem isPure_of_mem_recordEvents {selection : Selection} {event : FeedEvent}
    (member : event ∈ recordEvents selection old new) : event.isPure = true := by
  unfold recordEvents at member
  split at member
  · rw [List.mem_singleton.mp member]
    rfl
  · rw [List.mem_singleton.mp member]
    rfl
  · exact absurd member List.not_mem_nil

theorem isPure_of_mem_afterWrite {event : FeedEvent}
    (member : event ∈ (feed.afterWrite records old new).2) : event.isPure = true := by
  unfold afterWrite at member
  split at member
  · exact isPure_of_mem_windowEvents member
  · exact isPure_of_mem_recordEvents member

end Sending

section Publishing

variable (records : List Json) (old new : Option Json)

/-- The mailroom when a feed has sent what it sends of the write. -/
private def sent (feed : Feed) (room : Mailroom FeedItem) : Mailroom FeedItem :=
  room.send feed.address ((feed.afterWrite records old new).2.map .ok)

private theorem publish_cons (feed : Feed) (rest : List Feed) (room : Mailroom FeedItem) :
    publish records old new (feed :: rest) room =
      (if (feed.afterWrite records old new).2.isEmpty || room.isOpen feed.address then
          (feed.afterWrite records old new).1 ::
            (publish records old new rest (sent records old new feed room)).1
        else (publish records old new rest (sent records old new feed room)).1,
        (publish records old new rest (sent records old new feed room)).2) := by
  unfold sent
  rw [publish]
  dsimp only
  split <;> rfl

theorem next_publish (feeds : List Feed) (room : Mailroom FeedItem) :
    (publish records old new feeds room).2.next = room.next := by
  induction feeds generalizing room with
  | nil => rfl
  | cons feed rest ih => rw [publish_cons, ih, sent, Mailroom.next_send]

/-- No reader loses anything: what is sent comes behind what waits. -/
theorem boxes_publish_append (feeds : List Feed) (room : Mailroom FeedItem) (address : Nat) :
    ∃ more, (publish records old new feeds room).2.boxes[address]? =
      (room.boxes[address]?).map fun box => { box with items := box.items ++ more } := by
  induction feeds generalizing room with
  | nil =>
      refine ⟨[], ?_⟩
      simp only [publish, List.append_nil, Option.map_id']
  | cons feed rest ih =>
      obtain ⟨more, later⟩ := ih (sent records old new feed room)
      rw [publish_cons, later, sent, Mailroom.boxes_send]
      by_cases same : feed.address = address
      · subst same
        refine ⟨(feed.afterWrite records old new).2.map .ok ++ more, ?_⟩
        simp only [↓reduceIte, Option.map_map, Function.comp_def, List.append_assoc]
      · exact ⟨more, by rw [if_neg same]⟩

/-- Readers of other feeds receive nothing. -/
theorem boxes_publish_other (feeds : List Feed) (room : Mailroom FeedItem) {address : Nat}
    (apart : ∀ feed ∈ feeds, feed.address ≠ address) :
    (publish records old new feeds room).2.boxes[address]? = room.boxes[address]? := by
  induction feeds generalizing room with
  | nil => rfl
  | cons feed rest ih =>
      rw [publish_cons, ih _ fun other member => apart other (List.mem_cons_of_mem _ member), sent,
        Mailroom.boxes_send, if_neg (apart feed List.mem_cons_self)]

/-- The reader of a feed receives what the feed sends, and the feed is kept. -/
theorem boxes_publish (feeds : List Feed) (room : Mailroom FeedItem)
    (nodup : (feeds.map Feed.address).Nodup) {feed : Feed} (member : feed ∈ feeds)
    {box : Box FeedItem} (found : room.boxes[feed.address]? = some box) :
    (feed.afterWrite records old new).1 ∈ (publish records old new feeds room).1 ∧
      (publish records old new feeds room).2.boxes[feed.address]? = some { box with
        items := box.items ++ (feed.afterWrite records old new).2.map .ok } := by
  induction feeds generalizing room with
  | nil => exact absurd member List.not_mem_nil
  | cons first rest ih =>
      rw [List.map_cons, List.nodup_cons] at nodup
      obtain ⟨alone, distinct⟩ := nodup
      rw [publish_cons]
      rcases List.mem_cons.mp member with rfl | later
      · have isOpen : room.isOpen feed.address = true := (room.isOpen_iff _).mpr ⟨box, found⟩
        refine ⟨?_, ?_⟩
        · rw [isOpen, Bool.or_true, if_pos rfl]
          exact List.mem_cons_self
        · rw [boxes_publish_other, sent, Mailroom.boxes_send, if_pos rfl, found, Option.map_some]
          intro other member same
          exact alone (List.mem_map.mpr ⟨other, member, same⟩)
      · have different : first.address ≠ feed.address := fun same =>
          alone (List.mem_map.mpr ⟨feed, later, same.symm⟩)
        have kept : (sent records old new first room).boxes[feed.address]? = some box := by
          rw [sent, Mailroom.boxes_send, if_neg different, found]
        obtain ⟨present, received⟩ := ih _ distinct later kept
        refine ⟨?_, received⟩
        split
        · exact List.mem_cons_of_mem _ present
        · exact present

/-- Every feed that is kept was there before the write. -/
theorem mem_publish (feeds : List Feed) (room : Mailroom FeedItem) {after : Feed}
    (member : after ∈ (publish records old new feeds room).1) :
    ∃ feed ∈ feeds, after = (feed.afterWrite records old new).1 := by
  induction feeds generalizing room with
  | nil => exact absurd member List.not_mem_nil
  | cons first rest ih =>
      rw [publish_cons] at member
      have later (present : after ∈
          (publish records old new rest (sent records old new first room)).1) :
          ∃ feed ∈ first :: rest, after = (feed.afterWrite records old new).1 := by
        obtain ⟨feed, there, same⟩ := ih _ present
        exact ⟨feed, List.mem_cons_of_mem _ there, same⟩
      split at member
      · rcases List.mem_cons.mp member with same | present
        · exact ⟨first, List.mem_cons_self, same⟩
        · exact later present
      · exact later member

/-- No write changes the order of the feeds or makes one appear twice. -/
theorem addresses_publish (feeds : List Feed) (room : Mailroom FeedItem) :
    ((publish records old new feeds room).1.map Feed.address).Sublist (feeds.map Feed.address) := by
  induction feeds generalizing room with
  | nil => exact .slnil
  | cons first rest ih =>
      rw [publish_cons]
      split
      · rw [List.map_cons, List.map_cons, address_afterWrite]
        exact (ih _).cons_cons _
      · rw [List.map_cons]
        exact (ih _).cons _

end Publishing

end Feed

end LiveSearch
