import LiveSearch.Proofs.Session.Reading
import LiveSearch.Proofs.Store.Feeds
import LiveSearch.Proofs.Store.Filing

/-! # What a record store does to its changefeeds

In a tidy store every feed has a reader of its own (`LiveSearch.Database.IsTidy`), and a sound store
holds rows whose keys are not minus zero besides (`LiveSearch.Database.IsSound`). A feed serves a
session as long as the events that wait for it lead it to the keys that its plan selects at present
(`LiveSearch.Database.Serves`). Whatever clients ask of the store
(`LiveSearch.Database.perform_answer`), it stays tidy; if they bring no record whose key is minus
zero, it stays sound and goes on serving (`LiveSearch.Database.Answer.isSound`,
`LiveSearch.Database.Answer.serves`); only a feed that is broken ends.
-/

namespace LiveSearch

/-- What clients ask of a record store, faults included. -/
inductive Request
  | createTable (name : String)
  | insert (name : String) (record : Json)
  | update (name : String) (record : Json)
  | upsert (name : String) (record : Json)
  | delete (name id : String)
  | failQuery (failure : ServiceError)
  | failSubscribe (failure : ServiceError)
  | breakFeeds (name : String) (failure : ServiceError)

namespace Request

/-- The store when a request has been answered. -/
def perform (database : Database) : Request → Database
  | createTable name => database.createTable name
  | insert name record => (database.insert name record).1
  | update name record => (database.update name record).1
  | upsert name record => (database.upsert name record).1
  | delete name id => (database.delete name id).1
  | failQuery failure => database.failNextQuery failure
  | failSubscribe failure => database.failNextSubscribe failure
  | breakFeeds name failure => database.breakFeeds name failure

/-- The record that a request brings. -/
def record? : Request → Option Json
  | insert _ record => some record
  | update _ record => some record
  | upsert _ record => some record
  | _ => none

/-- The records that a request stores have plain keys. -/
def IsPlain (field : String) : Request → Prop
  | insert _ record => record.HasPlainKey field
  | update _ record => record.HasPlainKey field
  | upsert _ record => record.HasPlainKey field
  | _ => True

theorem IsPlain.record {field : String} {request : Request} (plain : request.IsPlain field)
    (record : Json) (brings : request.record? = some record) : record.HasPlainKey field := by
  cases request with
  | insert name given => exact Option.some.inj brings ▸ plain
  | update name given => exact Option.some.inj brings ▸ plain
  | upsert name given => exact Option.some.inj brings ▸ plain
  | _ => exact nomatch brings

/-- A request that makes something fail. -/
def isFault : Request → Bool
  | failQuery _ => true
  | failSubscribe _ => true
  | breakFeeds _ _ => true
  | _ => false

end Request

/-- A table whose feeds have reported what they select and have different readers. -/
structure Table.IsTidy (next : Nat) (table : Table) : Prop where
  current : ∀ feed ∈ table.feeds, feed.IsCurrent table.records
  nodup : (table.feeds.map Feed.address).Nodup
  known : ∀ feed ∈ table.feeds, feed.address < next

/-- A table without feeds is tidy. -/
theorem Table.isTidy_of_nil {table : Table} (none : table.feeds = []) (next : Nat) :
    table.IsTidy next where
  current _ member := absurd (none ▸ member) List.not_mem_nil
  nodup := none ▸ .nil
  known _ member := absurd (none ▸ member) List.not_mem_nil

theorem Table.IsTidy.mono {table : Table} {next later : Nat} (tidy : table.IsTidy next)
    (le : next ≤ later) : table.IsTidy later where
  current := tidy.current
  nodup := tidy.nodup
  known feed member := Nat.lt_of_lt_of_le (tidy.known feed member) le

/-- A table stays tidy when a feed is opened at the next address. -/
theorem Table.IsTidy.addFeed {table : Table} {next : Nat} (tidy : table.IsTidy next) {feed : Feed}
    (current : feed.IsCurrent table.records) (fresh : feed.address = next) :
    Table.IsTidy (next + 1) { table with feeds := table.feeds ++ [feed] } := by
  constructor
  · intro other member
    rcases List.mem_append.mp member with earlier | new
    · exact tidy.current other earlier
    · rw [List.mem_singleton.mp new]
      exact current
  · rw [List.map_append]
    refine List.nodup_append.mpr ⟨tidy.nodup, List.nodup_singleton _, ?_⟩
    intro address earlier other new equal
    obtain ⟨held, member, rfl⟩ := List.mem_map.mp earlier
    have same : held.address = next := (equal.trans (List.mem_singleton.mp new)).trans fresh
    exact Nat.ne_of_lt (tidy.known held member) same
  · intro other member
    rcases List.mem_append.mp member with earlier | new
    · exact Nat.lt_succ_of_lt (tidy.known other earlier)
    · rw [List.mem_singleton.mp new, fresh]
      exact Nat.lt_succ_self next

namespace Database

/-- Every table is tidy, and no reader reads two feeds. -/
structure IsTidy (database : Database) : Prop where
  tables : ∀ (name : String) (table : Table), database.tables[name]? = some table →
    table.IsTidy database.feedRoom.next
  apart : ∀ (name other : String) (table another : Table), database.tables[name]? = some table →
    database.tables[other]? = some another → ∀ feed ∈ table.feeds, ∀ further ∈ another.feeds,
      feed.address = further.address → name = other
  boxes : ∀ (address : Nat) (box : Box FeedItem), database.feedRoom.boxes[address]? = some box →
    address < database.feedRoom.next

/-- Every record is stored under its key. -/
def IsFiled (database : Database) : Prop :=
  ∀ name, AreFiled database.primaryKey (database.table name).rows

/-- A tidy store of rows whose keys are not minus zero. -/
structure IsSound (database : Database) : Prop extends database.IsTidy where
  keyed : ∀ name, AreKeyed database.primaryKey (database.table name).rows

/-- The feed at an address serves a session in this phase: it has ended, or the events that wait
lead the session to the keys that the plan selects at present. -/
def Serves (database : Database) (address : Nat) (plan : Plan) (phase : Phase) : Prop :=
  ∃ table box, database.tables[plan.table]? = some table ∧
    database.feedRoom.boxes[address]? = some box ∧
      (box.ended = true ∨ ∃ feed ∈ table.feeds, ∃ events, feed.address = address ∧
        Selection.ofPlan? plan = some feed.selection ∧
        feed.selection.primaryKey = some database.primaryKey ∧ box = ⟨events.map .ok, false⟩ ∧
        phase.AbsorbsTo database.primaryKey events
          (feed.selection.keys database.primaryKey table.records))

/-- What stands at an address stays, and so do all rows. -/
structure KeepsFeed (address : Nat) (before after : Database) : Prop where
  primaryKey : after.primaryKey = before.primaryKey
  box : after.feedRoom.boxes[address]? = before.feedRoom.boxes[address]?
  tables : ∀ (name : String) (table : Table), before.tables[name]? = some table →
    ∃ feeds, after.tables[name]? = some ⟨table.rows, feeds⟩ ∧ ∀ feed ∈ table.feeds, feed ∈ feeds

section Frame

variable {before after final : Database} {address : Nat} {plan : Plan} {phase : Phase}

theorem KeepsFeed.refl (address : Nat) (database : Database) :
    KeepsFeed address database database where
  primaryKey := rfl
  box := rfl
  tables _ table found := ⟨table.feeds, found, fun _ member => member⟩

theorem KeepsFeed.trans (first : KeepsFeed address before after)
    (second : KeepsFeed address after final) : KeepsFeed address before final where
  primaryKey := second.primaryKey.trans first.primaryKey
  box := second.box.trans first.box
  tables name table found := by
    obtain ⟨feeds, held, kept⟩ := first.tables name table found
    obtain ⟨others, further, still⟩ := second.tables name _ held
    exact ⟨others, further, fun feed member => still feed (kept feed member)⟩

/-- What happens at other addresses does not concern a session. -/
theorem Serves.frame (serves : before.Serves address plan phase)
    (keeps : KeepsFeed address before after) : after.Serves address plan phase := by
  obtain ⟨table, box, found, placed, lasting⟩ := serves
  obtain ⟨feeds, held, kept⟩ := keeps.tables plan.table table found
  refine ⟨⟨table.rows, feeds⟩, box, held, keeps.box.trans placed, ?_⟩
  rw [keeps.primaryKey]
  rcases lasting with ended | ⟨feed, member, events, serving⟩
  · exact .inl ended
  · exact .inr ⟨feed, kept feed member, events, serving⟩

/-- A feed that serves a session goes on serving it while the session reads nothing of the feed. -/
theorem Serves.imp (serves : before.Serves address plan phase) {later : Phase}
    (onward : ∀ events keys, phase.AbsorbsTo before.primaryKey events keys →
      later.AbsorbsTo before.primaryKey events keys) : before.Serves address plan later := by
  obtain ⟨table, box, found, placed, lasting⟩ := serves
  refine ⟨table, box, found, placed, ?_⟩
  rcases lasting with ended | ⟨feed, member, events, addressed, selected, plucks, same, absorbs⟩
  · exact .inl ended
  · exact .inr ⟨feed, member, events, addressed, selected, plucks, same, onward events _ absorbs⟩

end Frame

variable {database : Database}

/-- The address of a feed that serves is in use. -/
theorem Serves.known {address : Nat} {plan : Plan} {phase : Phase}
    (serves : database.Serves address plan phase) (sound : database.IsSound) :
    address < database.feedRoom.next := by
  obtain ⟨_, box, _, placed, _⟩ := serves
  exact sound.boxes address box placed

theorem isSound_empty (primaryKey : String) : (Database.empty primaryKey).IsSound where
  tables _ _ found := nomatch (Std.TreeMap.getElem?_emptyc.symm.trans found)
  apart _ _ _ _ found := nomatch (Std.TreeMap.getElem?_emptyc.symm.trans found)
  boxes _ _ found := nomatch (Std.TreeMap.getElem?_emptyc.symm.trans found)
  keyed _ _ _ found := nomatch (Std.TreeMap.getElem?_emptyc.symm.trans found)

theorem IsSound.filed (sound : database.IsSound) : database.IsFiled :=
  fun name => (sound.keyed name).filed

/-- A store that holds the rows of a sound one is sound if it is tidy. -/
theorem IsTidy.isSound {after : Database} (tidy : after.IsTidy) (sound : database.IsSound)
    (primaryKey : after.primaryKey = database.primaryKey)
    (rows : ∀ name, (after.table name).rows = (database.table name).rows) : after.IsSound where
  toIsTidy := tidy
  keyed name := by
    rw [primaryKey, rows]
    exact sound.keyed name

theorem table_of_found {name : String} {table : Table}
    (found : database.tables[name]? = some table) : database.table name = table := by
  rw [Database.table, found, Option.getD_some]

/-- A table that does not exist counts as tidy. -/
theorem IsTidy.table (tidy : database.IsTidy) (name : String) :
    (database.table name).IsTidy database.feedRoom.next := by
  unfold Database.table
  cases found : database.tables[name]? with
  | none => exact Table.isTidy_of_nil rfl _
  | some table => exact tidy.tables name table found

theorem found_of_feed {name : String} {feed : Feed} (member : feed ∈ (database.table name).feeds) :
    database.tables[name]? = some (database.table name) := by
  unfold Database.table at member ⊢
  cases found : database.tables[name]? with
  | none =>
      rw [found] at member
      exact absurd member List.not_mem_nil
  | some table => rfl

/-- Readers stay apart while every feed has the reader of a feed that was open on its table. -/
private theorem IsTidy.apart_of_former (tidy : database.IsTidy) {after : Database}
    (former : ∀ {name : String} {table : Table} {feed : Feed}, after.tables[name]? = some table →
      feed ∈ table.feeds → ∃ (earlier : Table) (reader : Feed),
        database.tables[name]? = some earlier ∧ reader ∈ earlier.feeds ∧
          feed.address = reader.address)
    {name other : String} {table another : Table} (found : after.tables[name]? = some table)
    (present : after.tables[other]? = some another) {feed further : Feed}
    (member : feed ∈ table.feeds) (inside : further ∈ another.feeds)
    (same : feed.address = further.address) : name = other := by
  obtain ⟨_, left, foundLeft, memberLeft, sameLeft⟩ := former found member
  obtain ⟨_, right, foundRight, memberRight, sameRight⟩ := former present inside
  exact tidy.apart name other _ _ foundLeft foundRight left memberLeft right memberRight
    (sameLeft.symm.trans (same.trans sameRight))

section Storing

variable (name key : String) (rows : Std.TreeMap String Json) (new : Option Json)

/-- The store when the row of a key has been replaced or deleted. -/
def stored (database : Database) (name key : String) (rows : Std.TreeMap String Json)
    (new : Option Json) : Database :=
  database.store name rows (database.table name).rows[key]? new

/-- The feeds of a table when a write has been reported to them, and the boxes of their readers. -/
def reported (database : Database) (name key : String) (rows : Std.TreeMap String Json)
    (new : Option Json) : List Feed × Mailroom FeedItem :=
  Feed.publish rows.values (database.table name).rows[key]? new (database.table name).feeds
    database.feedRoom

theorem tables_stored (other : String) :
    (database.stored name key rows new).tables[other]? =
      if name = other then some ⟨rows, (database.reported name key rows new).1⟩
      else database.tables[other]? := by
  simp only [stored, store, reported, lookup_insert]

private theorem next_stored :
    (database.stored name key rows new).feedRoom.next = database.feedRoom.next :=
  Feed.next_publish _ _ _ _ _

/-- Only the rows of the table are replaced. -/
theorem rows_stored (other : String) :
    ((database.stored name key rows new).table other).rows =
      if name = other then rows else (database.table other).rows := by
  rw [table, tables_stored]
  split <;> rfl

/-- A write keeps a store tidy. -/
private theorem stored_isTidy (tidy : database.IsTidy) :
    (database.stored name key rows new).IsTidy := by
  have before := tidy.table name
  have former {after : Feed} (member : after ∈ (database.reported name key rows new).1) :
      ∃ feed ∈ (database.table name).feeds, after.address = feed.address ∧
        after.IsCurrent rows.values := by
    obtain ⟨feed, present, rfl⟩ := Feed.mem_publish _ _ _ _ _ member
    exact ⟨feed, present, Feed.address_afterWrite _, Feed.afterWrite_isCurrent _⟩
  have table : Table.IsTidy database.feedRoom.next
      ⟨rows, (database.reported name key rows new).1⟩ := by
    constructor
    · intro after member
      obtain ⟨_, _, _, current⟩ := former member
      exact current
    · exact before.nodup.sublist (Feed.addresses_publish _ _ _ _ _)
    · intro after member
      obtain ⟨feed, present, same, _⟩ := former member
      rw [same]
      exact before.known feed present
  constructor
  · intro other held found
    rw [next_stored]
    rw [tables_stored] at found
    by_cases equal : name = other
    · rw [if_pos equal] at found
      rw [← Option.some.inj found]
      exact table
    · rw [if_neg equal] at found
      exact tidy.tables other held found
  · intro first second left right there further feed member rest present same
    refine tidy.apart_of_former (fun {other held after} found member => ?_) there further member
      present same
    rw [tables_stored] at found
    by_cases equal : name = other
    · rw [if_pos equal] at found
      rw [← Option.some.inj found] at member
      obtain ⟨feed, present, same, _⟩ := former member
      exact ⟨database.table name, feed, equal ▸ found_of_feed present, present, same⟩
    · rw [if_neg equal] at found
      exact ⟨held, after, found, member, rfl⟩
  · intro address box placed
    rw [next_stored]
    obtain ⟨more, received⟩ := Feed.boxes_publish_append rows.values
      (database.table name).rows[key]? new (database.table name).feeds database.feedRoom address
    obtain ⟨earlier, present, _⟩ := Option.map_eq_some_iff.mp (received.symm.trans placed)
    exact tidy.boxes address earlier present

/-- A feed that serves a session sends it what leads to the keys behind a write. -/
private theorem Serves.stored {address : Nat} {plan : Plan} {phase : Phase}
    (serves : database.Serves address plan phase) (sound : database.IsSound)
    (keyed : AreKeyed database.primaryKey rows)
    (differ : DifferAt key (database.table name).rows rows) (is : rows[key]? = new) :
    (database.stored name key rows new).Serves address plan phase := by
  obtain ⟨table, box, found, placed, lasting⟩ := serves
  obtain ⟨more, received⟩ := Feed.boxes_publish_append rows.values
    (database.table name).rows[key]? new (database.table name).feeds database.feedRoom address
  rw [placed, Option.map_some] at received
  by_cases same : name = plan.table
  · have held : (database.stored name key rows new).tables[plan.table]? =
        some ⟨rows, (database.reported name key rows new).1⟩ := by
      rw [tables_stored, if_pos same]
    rcases lasting with ended | ⟨feed, member, events, addressed, selected, plucks, rfl, absorbs⟩
    · exact ⟨_, _, held, received, .inl ended⟩
    · have present : database.table name = table := table_of_found (same ▸ found)
      subst addressed
      rw [← present] at member absorbs
      obtain ⟨kept, sent⟩ := Feed.boxes_publish rows.values (database.table name).rows[key]? new
        (database.table name).feeds database.feedRoom (sound.table name).nodup member placed
      refine ⟨_, _, held, sent, .inr ⟨_, kept, events ++ (feed.afterWrite rows.values
        (database.table name).rows[key]? new).2, Feed.address_afterWrite _, ?_, ?_, ?_, ?_⟩⟩
      · rw [Feed.selection_afterWrite]
        exact selected
      · rw [Feed.selection_afterWrite]
        exact plucks
      · rw [List.map_append]
      · rw [Feed.selection_afterWrite]
        have leads := Feed.afterWrite_leads (sound.keyed name) keyed
          ((sound.table name).current feed member) plucks differ rfl is
        have pure : ∀ event ∈ (feed.afterWrite rows.values
            (database.table name).rows[key]? new).2, event.isPure = true :=
          fun event sent => Feed.isPure_of_mem_afterWrite _ sent
        have further := absorbs.append pure
        rw [Table.records, leads.folded] at further
        exact further
  · have held : (database.stored name key rows new).tables[plan.table]? = some table := by
      rw [tables_stored, if_neg same, found]
    rcases lasting with ended | ⟨feed, member, events, addressed, serving⟩
    · exact ⟨_, _, held, received, .inl ended⟩
    · have unsent : (database.stored name key rows new).feedRoom.boxes[address]? =
          database.feedRoom.boxes[address]? := by
        refine Feed.boxes_publish_other _ _ _ _ _ fun other present equal => same ?_
        exact sound.apart name plan.table _ table (found_of_feed present) found other present feed
          member (equal.trans addressed.symm)
      exact ⟨table, box, held, unsent.trans placed, .inr ⟨feed, member, events, addressed, serving⟩⟩

end Storing

section Breaking

variable (name : String) (failure : ServiceError)

/-- The boxes of the readers of some feeds when the feeds have been broken. -/
def broken (room : Mailroom FeedItem) (failure : ServiceError) (feeds : List Feed) :
    Mailroom FeedItem :=
  feeds.foldl (fun room feed => (room.send feed.address [.error failure]).finish feed.address) room

theorem broken_cons (room : Mailroom FeedItem) (feed : Feed) (rest : List Feed) :
    broken room failure (feed :: rest) =
      broken ((room.send feed.address [.error failure]).finish feed.address) failure rest := rfl

private theorem next_broken (room : Mailroom FeedItem) (feeds : List Feed) :
    (broken room failure feeds).next = room.next := by
  induction feeds generalizing room with
  | nil => rfl
  | cons feed rest ih => rw [broken_cons, ih, Mailroom.next_finish, Mailroom.next_send]

/-- The feeds that are broken end, and no box but theirs changes. -/
private theorem boxes_broken (room : Mailroom FeedItem) (feeds : List Feed) (address : Nat) :
    ((broken room failure feeds).boxes[address]? = room.boxes[address]? ∧
        ∀ feed ∈ feeds, feed.address ≠ address) ∨
      ∃ more, (broken room failure feeds).boxes[address]? =
        (room.boxes[address]?).map fun box => ⟨box.items ++ more, true⟩ := by
  induction feeds generalizing room with
  | nil => exact .inl ⟨rfl, fun _ member => absurd member List.not_mem_nil⟩
  | cons feed rest ih =>
      rw [broken_cons]
      by_cases same : feed.address = address
      · subst same
        right
        have first : ((room.send feed.address [.error failure]).finish feed.address).boxes[
            feed.address]? = (room.boxes[feed.address]?).map fun box =>
              ⟨box.items ++ [.error failure], true⟩ := by
          simp only [Mailroom.boxes_finish, Mailroom.boxes_send, ↓reduceIte, Option.map_map,
            Function.comp_def]
        rcases ih ((room.send feed.address [.error failure]).finish feed.address) with
          ⟨kept, _⟩ | ⟨more, later⟩
        · exact ⟨[.error failure], kept.trans first⟩
        · refine ⟨[.error failure] ++ more, ?_⟩
          rw [later, first]
          simp only [Option.map_map, Function.comp_def, List.append_assoc]
      · have other : ((room.send feed.address [.error failure]).finish feed.address).boxes[
            address]? = room.boxes[address]? := by
          rw [Mailroom.boxes_finish, if_neg same, Mailroom.boxes_send, if_neg same]
        rcases ih ((room.send feed.address [.error failure]).finish feed.address) with
          ⟨kept, apart⟩ | ⟨more, later⟩
        · exact .inl ⟨kept.trans other, List.forall_mem_cons.mpr ⟨same, apart⟩⟩
        · exact .inr ⟨more, later.trans (by rw [other])⟩

/-- Nothing happens at addresses of other feeds. -/
theorem boxes_broken_other (room : Mailroom FeedItem) {feeds : List Feed} {address : Nat}
    (apart : ∀ feed ∈ feeds, feed.address ≠ address) :
    (broken room failure feeds).boxes[address]? = room.boxes[address]? := by
  induction feeds generalizing room with
  | nil => rfl
  | cons feed rest ih =>
      obtain ⟨different, others⟩ := List.forall_mem_cons.mp apart
      rw [broken_cons, ih _ others, Mailroom.boxes_finish, if_neg different, Mailroom.boxes_send,
        if_neg different]

theorem tables_breakFeeds {table : Table} (found : database.tables[name]? = some table)
    (other : String) : (database.breakFeeds name failure).tables[other]? =
      if name = other then some { table with feeds := [] } else database.tables[other]? := by
  simp only [breakFeeds, found, lookup_insert]

theorem feedRoom_breakFeeds {table : Table} (found : database.tables[name]? = some table) :
    (database.breakFeeds name failure).feedRoom =
      broken database.feedRoom failure table.feeds := by
  simp only [breakFeeds, found, broken]

private theorem primaryKey_breakFeeds :
    (database.breakFeeds name failure).primaryKey = database.primaryKey := by
  unfold breakFeeds
  split <;> rfl

theorem rows_breakFeeds (other : String) :
    ((database.breakFeeds name failure).table other).rows = (database.table other).rows := by
  cases found : database.tables[name]? with
  | none => simp only [breakFeeds, found]
  | some table =>
      rw [Database.table, tables_breakFeeds name failure found]
      by_cases same : name = other
      · subst same
        rw [if_pos rfl, Option.getD_some, table_of_found found]
      · rw [if_neg same, Database.table]

/-- Breaking feeds keeps a store tidy. -/
private theorem breakFeeds_isTidy (tidy : database.IsTidy) :
    (database.breakFeeds name failure).IsTidy := by
  cases found : database.tables[name]? with
  | none =>
      have same : database.breakFeeds name failure = database := by
        simp only [breakFeeds, found]
      rw [same]
      exact tidy
  | some table =>
      have next : (database.breakFeeds name failure).feedRoom.next = database.feedRoom.next := by
        rw [feedRoom_breakFeeds name failure found, next_broken]
      have former {other : String} {held : Table}
          (there : (database.breakFeeds name failure).tables[other]? = some held) :
          ∃ earlier : Table, database.tables[other]? = some earlier ∧
            (held.feeds = [] ∨ held = earlier) := by
        rw [tables_breakFeeds name failure found] at there
        by_cases same : name = other
        · rw [if_pos same] at there
          rw [← Option.some.inj there]
          exact ⟨table, same ▸ found, .inl rfl⟩
        · rw [if_neg same] at there
          exact ⟨held, there, .inr rfl⟩
      constructor
      · intro other held there
        obtain ⟨earlier, before, unread | same⟩ := former there
        · exact Table.isTidy_of_nil unread _
        · rw [next, same]
          exact tidy.tables other earlier before
      · intro first second left right there further feed member rest present same
        refine tidy.apart_of_former (fun {other held after} there member => ?_) there further member
          present same
        obtain ⟨earlier, before, unread | same⟩ := former there
        · rw [unread] at member
          exact absurd member List.not_mem_nil
        · exact ⟨earlier, after, before, same ▸ member, rfl⟩
      · intro address box placed
        rw [next]
        rw [feedRoom_breakFeeds name failure found] at placed
        rcases boxes_broken failure database.feedRoom table.feeds address with
          ⟨kept, _⟩ | ⟨more, ended⟩
        · exact tidy.boxes address box (kept.symm.trans placed)
        · obtain ⟨earlier, present, _⟩ := Option.map_eq_some_iff.mp (ended.symm.trans placed)
          exact tidy.boxes address earlier present

/-- A feed that serves a session goes on or ends when feeds are broken. -/
private theorem Serves.breakFeeds {address : Nat} {plan : Plan} {phase : Phase}
    (serves : database.Serves address plan phase) :
    (database.breakFeeds name failure).Serves address plan phase := by
  cases found : database.tables[name]? with
  | none =>
      have same : database.breakFeeds name failure = database := by
        simp only [Database.breakFeeds, found]
      rw [same]
      exact serves
  | some broken =>
      obtain ⟨table, box, held, placed, lasting⟩ := serves
      have still : ∃ feeds, (database.breakFeeds name failure).tables[plan.table]? =
          some ⟨table.rows, feeds⟩ ∧ (name ≠ plan.table → feeds = table.feeds) := by
        rw [tables_breakFeeds name failure found]
        by_cases same : name = plan.table
        · rw [if_pos same]
          refine ⟨[], ?_, fun different => absurd same different⟩
          rw [Option.some.inj (found.symm.trans (same ▸ held))]
        · rw [if_neg same]
          exact ⟨table.feeds, held, fun _ => rfl⟩
      obtain ⟨feeds, after, others⟩ := still
      unfold Serves
      rw [feedRoom_breakFeeds name failure found, primaryKey_breakFeeds]
      rcases boxes_broken failure database.feedRoom broken.feeds address with
        ⟨kept, apart⟩ | ⟨more, ended⟩
      · refine ⟨_, box, after, kept.trans placed, ?_⟩
        rcases lasting with ended | ⟨feed, member, events, addressed, serving⟩
        · exact .inl ended
        · right
          refine ⟨feed, ?_, events, addressed, serving⟩
          by_cases same : name = plan.table
          · -- A feed of the broken table would have ended.
            have equal : broken = table := Option.some.inj (found.symm.trans (same ▸ held))
            exact absurd addressed (apart feed (equal ▸ member))
          · rw [others same]
            exact member
      · rw [placed, Option.map_some] at ended
        exact ⟨_, _, after, ended, .inl rfl⟩

end Breaking

section Creating

variable (name : String)

theorem tables_createTable (other : String) : (database.createTable name).tables[other]? =
    if name = other then some (database.table name) else database.tables[other]? := by
  simp only [createTable, lookup_insert]

/-- A table that exists is not created again. -/
theorem tables_createTable_of_found {other : String} {table : Table}
    (found : database.tables[other]? = some table) :
    (database.createTable name).tables[other]? = some table := by
  rw [tables_createTable]
  by_cases same : name = other
  · rw [if_pos same, table_of_found (same ▸ found)]
  · rw [if_neg same, found]

theorem createTable_keepsFeed (address : Nat) :
    KeepsFeed address database (database.createTable name) where
  primaryKey := rfl
  box := rfl
  tables _ table found :=
    ⟨table.feeds, tables_createTable_of_found name found, fun _ member => member⟩

theorem rows_createTable (other : String) :
    ((database.createTable name).table other).rows = (database.table other).rows := by
  rw [table, tables_createTable]
  by_cases same : name = other
  · rw [if_pos same, Option.getD_some, same]
  · rw [if_neg same, table]

private theorem createTable_isTidy (tidy : database.IsTidy) :
    (database.createTable name).IsTidy := by
  constructor
  · intro other table found
    rw [tables_createTable] at found
    by_cases same : name = other
    · rw [if_pos same] at found
      exact Option.some.inj found ▸ tidy.table name
    · rw [if_neg same] at found
      exact tidy.tables other table found
  · intro first second left right there further feed member rest present same
    refine tidy.apart_of_former (fun {other table feed} found member => ?_) there further member
      present same
    refine ⟨table, feed, ?_, member, rfl⟩
    rw [tables_createTable] at found
    by_cases same : name = other
    · rw [if_pos same] at found
      rw [← Option.some.inj found] at member
      rw [← Option.some.inj found, ← same]
      exact found_of_feed member
    · rw [if_neg same] at found
      exact found
  · exact tidy.boxes

end Creating

/-- What a request makes of a store, and whether it is a fault, if only records of one kind are
brought. -/
inductive Answer (admits : Json → Prop) (database : Database) : Bool → Database → Prop
  | unchanged : Answer admits database false database
  /-- The next query or the next changefeed is going to fail. -/
  | armed (failQuery failSubscribe : Option ServiceError) :
      Answer admits database true { database with failQuery, failSubscribe }
  | created (name : String) : Answer admits database false (database.createTable name)
  /-- The row of a key has been replaced or deleted. -/
  | stored (name key : String) (rows : Std.TreeMap String Json) (new : Option Json)
      (filed : ∀ record, new = some record →
        record.IsFiled database.primaryKey key ∧ admits record)
      (differ : DifferAt key (database.table name).rows rows) (is : rows[key]? = new) :
      Answer admits database false (database.store name rows (database.table name).rows[key]? new)
  | broken (name : String) (failure : ServiceError) :
      Answer admits database true (database.breakFeeds name failure)

variable {admits : Json → Prop}

private theorem put_answer (name : String) {key : String} {record : Json}
    (filed : record.IsFiled database.primaryKey key) (admitted : admits record) :
    Answer admits database false (database.put name key record) := by
  apply Answer.stored name key _ (some record)
  · intro other same
    rw [← Option.some.inj same]
    exact ⟨filed, admitted⟩
  · intro other different
    rw [Std.TreeMap.getElem?_insert]
    simp only [Std.LawfulEqCmp.compare_eq_iff_eq, if_neg different]
  · rw [Std.TreeMap.getElem?_insert_self]

/-- A writer that is given a record puts it under its key or changes nothing. -/
private theorem Filing.answer {name : String} {record : Json}
    {outcome : Database × Except ServiceError String} (filing : Filing database name record outcome)
    (admitted : admits record) : Answer admits database false outcome.1 := by
  cases filing with
  | refused failure => exact .unchanged
  | filed key under => exact put_answer name under admitted

private theorem delete_answer (name key : String) :
    Answer admits database false (database.delete name key).1 := by
  unfold delete
  dsimp only
  split
  · exact .unchanged
  · rename_i old found
    have differ : DifferAt key (database.table name).rows
        ((database.table name).rows.erase key) := by
      intro other different
      rw [Std.TreeMap.getElem?_erase]
      simp only [Std.LawfulEqCmp.compare_eq_iff_eq, if_neg different]
    rw [← found]
    exact .stored name key _ none (fun record none => nomatch none) differ
      Std.TreeMap.getElem?_erase_self

variable (database) in
/-- Every request has one of these answers. -/
theorem perform_answer (request : Request)
    (admitted : ∀ record, request.record? = some record → admits record) :
    Answer admits database request.isFault (request.perform database) := by
  cases request with
  | createTable name => exact .created name
  | insert name record => exact (insert_filing database name record).answer (admitted record rfl)
  | update name record => exact (update_filing database name record).answer (admitted record rfl)
  | upsert name record => exact (upsert_filing database name record).answer (admitted record rfl)
  | delete name key => exact delete_answer name key
  | failQuery failure => exact .armed _ _
  | failSubscribe failure => exact .armed _ _
  | breakFeeds name failure => exact .broken name failure

variable {after : Database} {fault : Bool}

theorem Answer.primaryKey (answer : Answer admits database fault after) :
    after.primaryKey = database.primaryKey := by
  cases answer with
  | broken name failure => exact primaryKey_breakFeeds name failure
  | _ => rfl

theorem Answer.isTidy (answer : Answer admits database fault after) (tidy : database.IsTidy) :
    after.IsTidy := by
  cases answer with
  | unchanged => exact tidy
  | armed failQuery failSubscribe => exact ⟨tidy.tables, tidy.apart, tidy.boxes⟩
  | created name => exact createTable_isTidy name tidy
  | stored name key rows new filed differ is => exact stored_isTidy name key rows new tidy
  | broken name failure => exact breakFeeds_isTidy name failure tidy

/-- Every record was stored before, or it has been brought and is filed under its key. -/
theorem Answer.row_cases (answer : Answer admits database fault after) {name key : String}
    {record : Json} (found : (after.table name).rows[key]? = some record) :
    (database.table name).rows[key]? = some record ∨
      record.IsFiled database.primaryKey key ∧ admits record := by
  cases answer with
  | unchanged => exact .inl found
  | armed failQuery failSubscribe => exact .inl found
  | created created => exact .inl (rows_createTable created name ▸ found)
  | broken broken failure => exact .inl (rows_breakFeeds broken failure name ▸ found)
  | stored written changed rows new filed differ is =>
      change ((database.stored written changed rows new).table name).rows[key]? = _ at found
      rw [rows_stored] at found
      by_cases same : written = name
      · subst same
        rw [if_pos rfl] at found
        by_cases own : changed = key
        · subst own
          exact .inr (filed record (is.symm.trans found))
        · exact .inl ((differ key own).symm.trans found)
      · rw [if_neg same] at found
        exact .inl found

/-- At most one row of a table changes. -/
theorem Answer.differAt (answer : Answer admits database fault after) (name : String) :
    ∃ key, DifferAt key (database.table name).rows (after.table name).rows := by
  have kept (same : (after.table name).rows = (database.table name).rows) :
      ∃ key, DifferAt key (database.table name).rows (after.table name).rows :=
    ⟨"", fun other _ => congrArg (fun rows : Std.TreeMap String Json => rows[other]?) same⟩
  cases answer with
  | unchanged => exact kept rfl
  | armed failQuery failSubscribe => exact kept rfl
  | created created => exact kept (rows_createTable created name)
  | broken broken failure => exact kept (rows_breakFeeds broken failure name)
  | stored written key rows new filed differ is =>
      by_cases same : written = name
      · subst same
        refine ⟨key, ?_⟩
        change DifferAt key _ ((database.stored written key rows new).table written).rows
        rw [rows_stored, if_pos rfl]
        exact differ
      · apply kept
        change ((database.stored written key rows new).table name).rows = _
        rw [rows_stored, if_neg same]

/-- Records that are accepted are filed under their keys. -/
theorem Answer.isFiled (answer : Answer admits database fault after) (filed : database.IsFiled) :
    after.IsFiled := by
  intro name key record found
  rw [answer.primaryKey]
  rcases answer.row_cases found with before | ⟨under, _⟩
  · exact filed name key record before
  · exact under

theorem Answer.isSound (answer : Answer (Json.HasPlainKey database.primaryKey) database fault after)
    (sound : database.IsSound) : after.IsSound where
  toIsTidy := answer.isTidy sound.toIsTidy
  keyed name key record found := by
    rw [answer.primaryKey]
    rcases answer.row_cases found with before | ⟨under, plain⟩
    · exact sound.keyed name key record before
    · exact ⟨under, plain⟩

/-- Whatever is asked of a store, it goes on serving its sessions. -/
theorem Answer.serves (answer : Answer (Json.HasPlainKey database.primaryKey) database fault after)
    (sound : database.IsSound) {address : Nat} {plan : Plan} {phase : Phase}
    (serves : database.Serves address plan phase) :
    after.Serves address plan phase := by
  have keyed := (answer.isSound sound).keyed
  cases answer with
  | unchanged => exact serves
  | armed failQuery failSubscribe => exact serves
  | created name => exact serves.frame (createTable_keepsFeed name address)
  | stored name key rows new filed differ is =>
      have later := keyed name
      change AreKeyed database.primaryKey
        ((database.stored name key rows new).table name).rows at later
      rw [rows_stored, if_pos rfl] at later
      exact serves.stored name key rows new sound later differ is
  | broken name failure => exact serves.breakFeeds name failure

/-- No table ever disappears. -/
theorem Answer.tables (answer : Answer admits database fault after) {name : String} {table : Table}
    (found : database.tables[name]? = some table) : ∃ other, after.tables[name]? = some other := by
  cases answer with
  | unchanged => exact ⟨table, found⟩
  | armed failQuery failSubscribe => exact ⟨table, found⟩
  | created created => exact ⟨table, tables_createTable_of_found created found⟩
  | stored written key rows new filed differ is =>
      change ∃ other, (database.stored written key rows new).tables[name]? = some other
      rw [tables_stored]
      split
      · exact ⟨_, rfl⟩
      · exact ⟨table, found⟩
  | broken broken failure =>
      cases held : database.tables[broken]? with
      | none =>
          refine ⟨table, ?_⟩
          rw [breakFeeds, held]
          exact found
      | some other =>
          rw [tables_breakFeeds broken failure held]
          split
          · exact ⟨_, rfl⟩
          · exact ⟨table, found⟩

/-- No request opens a box. -/
theorem Answer.ages (answer : Answer admits database fault after) :
    database.feedRoom.Ages after.feedRoom := by
  have changed {room : Mailroom FeedItem} (next : room.next = database.feedRoom.next)
      (boxes : ∀ address : Nat, ∃ change : Box FeedItem → Box FeedItem,
        room.boxes[address]? = (database.feedRoom.boxes[address]?).map change) :
      database.feedRoom.Ages room := by
    refine .of_isOpen next fun address isOpen => ?_
    obtain ⟨box, placed⟩ := (Mailroom.isOpen_iff _ _).mp isOpen
    obtain ⟨change, same⟩ := boxes address
    obtain ⟨earlier, present, _⟩ := Option.map_eq_some_iff.mp (same.symm.trans placed)
    exact (Mailroom.isOpen_iff _ _).mpr ⟨earlier, present⟩
  cases answer with
  | unchanged => exact .refl _
  | armed failQuery failSubscribe => exact .refl _
  | created name => exact .refl _
  | stored name key rows new filed differ is =>
      refine changed (next_stored name key rows new) fun address => ?_
      obtain ⟨more, received⟩ := Feed.boxes_publish_append rows.values
        (database.table name).rows[key]? new (database.table name).feeds database.feedRoom address
      exact ⟨_, received⟩
  | broken name failure =>
      cases found : database.tables[name]? with
      | none =>
          simp only [breakFeeds, found]
          exact .refl _
      | some table =>
          rw [feedRoom_breakFeeds name failure found]
          refine changed (next_broken failure _ _) fun address => ?_
          rcases boxes_broken failure database.feedRoom table.feeds address with
            ⟨same, _⟩ | ⟨more, ended⟩
          · exact ⟨id, same.trans Option.map_id_apply.symm⟩
          · exact ⟨_, ended⟩

/-- No feed ends and nothing is going to fail unless something is made to. -/
theorem Answer.lasting (answer : Answer admits database false after) :
    after.failQuery = database.failQuery ∧ after.failSubscribe = database.failSubscribe ∧
      ∀ (address : Nat) (box : Box FeedItem), after.feedRoom.boxes[address]? = some box →
        ∃ earlier : Box FeedItem, database.feedRoom.boxes[address]? = some earlier ∧
          earlier.ended = box.ended := by
  cases answer with
  | unchanged => exact ⟨rfl, rfl, fun _ box placed => ⟨box, placed, rfl⟩⟩
  | created name => exact ⟨rfl, rfl, fun _ box placed => ⟨box, placed, rfl⟩⟩
  | stored name key rows new filed differ is =>
      refine ⟨rfl, rfl, fun address box placed => ?_⟩
      obtain ⟨more, received⟩ := Feed.boxes_publish_append rows.values
        (database.table name).rows[key]? new (database.table name).feeds database.feedRoom address
      obtain ⟨earlier, present, same⟩ := Option.map_eq_some_iff.mp (received.symm.trans placed)
      exact ⟨earlier, present, by rw [← same]⟩

end Database

end LiveSearch
