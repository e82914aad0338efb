import LiveSearch.Proofs.Store.Database

/-! # Sharing a record store

The sessions share one store. A session reads the feed of its own, opens it and gives it up, and all
others find the store as it was (`LiveSearch.Database.Spares`). A feed that a session opens serves
it from the beginning (`LiveSearch.Database.subscribe_serves`), and goes on serving it when it has
read an event (`LiveSearch.Database.Serves.afterRead`).
-/

namespace LiveSearch

namespace Database

variable {database : Database}

section Reading

variable (database) (address : Nat) (plan : Plan)

/-- The store when the next item has been read at an address. -/
def afterRead : Database :=
  { database with feedRoom := (database.feedRoom.read address).2 }

theorem afterRead_keepsFeed {other : Nat} (different : address ≠ other) :
    KeepsFeed other database (database.afterRead address) where
  primaryKey := rfl
  box := by rw [afterRead, Mailroom.boxes_read, if_neg different]
  tables _ table found := ⟨table.feeds, found, fun _ member => member⟩

theorem readFeed_keepsFeed {other : Nat} (different : address ≠ other) :
    KeepsFeed other database (database.readFeed address).2.2 where
  primaryKey := rfl
  box := (Mailroom.boxes_readAll _ address other).trans (if_neg different)
  tables _ table found := ⟨table.feeds, found, fun _ member => member⟩

theorem release_keepsFeed {other : Nat} (different : address ≠ other) :
    KeepsFeed other database (database.release address) where
  primaryKey := rfl
  box := by rw [release, Mailroom.boxes_close, if_neg different]
  tables _ table found := ⟨table.feeds, found, fun _ member => member⟩

variable {database}

/-- What opens no box keeps a store tidy. -/
private theorem IsTidy.withRoom (tidy : database.IsTidy) {feedRoom : Mailroom FeedItem}
    (next : feedRoom.next = database.feedRoom.next)
    (former : ∀ address, feedRoom.isOpen address = true →
      database.feedRoom.isOpen address = true) : IsTidy { database with feedRoom } where
  tables name table found := by
    rw [next]
    exact tidy.tables name table found
  apart := tidy.apart
  boxes address box placed := by
    obtain ⟨earlier, present⟩ := (Mailroom.isOpen_iff _ _).mp
      (former address ((Mailroom.isOpen_iff _ _).mpr ⟨box, placed⟩))
    rw [next]
    exact tidy.boxes address earlier present

theorem afterRead_isTidy (tidy : database.IsTidy) : (database.afterRead address).IsTidy :=
  tidy.withRoom (Mailroom.next_read _ address) fun other isOpen =>
    (Mailroom.isOpen_read _ address other).symm.trans isOpen

theorem readFeed_isTidy (tidy : database.IsTidy) : (database.readFeed address).2.2.IsTidy :=
  tidy.withRoom (Mailroom.next_readAll _ address) fun other isOpen =>
    (Mailroom.isOpen_readAll _ address other).symm.trans isOpen

theorem release_isTidy (tidy : database.IsTidy) : (database.release address).IsTidy :=
  tidy.withRoom (Mailroom.next_close _ address) fun other isOpen =>
    (Bool.and_eq_true_iff.mp ((Mailroom.isOpen_close _ address other).symm.trans isOpen)).2

theorem afterRead_ages (database : Database) (address : Nat) :
    database.feedRoom.Ages (database.afterRead address).feedRoom :=
  .of_isOpen (Mailroom.next_read _ address) fun other isOpen =>
    (Mailroom.isOpen_read _ address other).symm.trans isOpen

theorem afterRead_isSound (sound : database.IsSound) : (database.afterRead address).IsSound :=
  (afterRead_isTidy address sound.toIsTidy).isSound sound rfl fun _ => rfl

theorem release_isSound (sound : database.IsSound) : (database.release address).IsSound :=
  (release_isTidy address sound.toIsTidy).isSound sound rfl fun _ => rfl

variable {address plan}

/-- A feed that has not ended serves a session that has read the next event. -/
theorem Serves.afterRead {phase later : Phase} {item : FeedItem}
    (serves : database.Serves address plan phase)
    (found : (database.feedRoom.read address).1 = .item item)
    (onward : ∀ event events keys, item = .ok event →
      phase.AbsorbsTo database.primaryKey (event :: events) keys →
        later.AbsorbsTo database.primaryKey events keys) :
    (database.afterRead address).Serves address plan later := by
  obtain ⟨table, box, held, placed, lasting⟩ := serves
  rw [Mailroom.read_of_box _ placed] at found
  have read : (database.afterRead address).feedRoom.boxes[address]? = some box.read.2 := by
    rw [Database.afterRead, Mailroom.boxes_read, if_pos rfl, placed, Option.map_some]
  refine ⟨table, _, held, read, ?_⟩
  rcases lasting with ended | ⟨feed, member, events, addressed, selected, plucks, rfl, absorbs⟩
  · left
    unfold Box.read
    split <;> exact ended
  · cases events with
    | nil => exact nomatch found
    | cons event rest =>
        have same : Except.ok event = item := Found.item.inj found
        exact .inr ⟨feed, member, rest, addressed, selected, plucks, rfl,
          onward event rest _ same.symm absorbs⟩

end Reading

/-- What somebody does to a store who only uses the feed of his own: all others find it as it
was. -/
structure Spares (own : Option Nat) (before after : Database) : Prop where
  keeps : ∀ other < before.feedRoom.next, own ≠ some other → KeepsFeed other before after
  next : before.feedRoom.next ≤ after.feedRoom.next
  primaryKey : after.primaryKey = before.primaryKey
  tables : ∀ (name : String) (table : Table), before.tables[name]? = some table →
    ∃ feeds, after.tables[name]? = some ⟨table.rows, feeds⟩
  rows : ∀ name, (after.table name).rows = (before.table name).rows
  failQuery : before.failQuery = none → after.failQuery = none
  failSubscribe : before.failSubscribe = none → after.failSubscribe = none

namespace Spares

variable {own : Option Nat} {before after final : Database}

theorem refl (own : Option Nat) (database : Database) : Spares own database database where
  keeps other _ _ := .refl other database
  next := Nat.le_refl _
  primaryKey := rfl
  tables _ table found := ⟨table.feeds, found⟩
  rows _ := rfl
  failQuery := id
  failSubscribe := id

end Spares

theorem afterRead_spares (address : Nat) :
    Spares (some address) database (database.afterRead address) where
  keeps _ _ different := afterRead_keepsFeed database address fun same =>
    different (congrArg some same)
  next := Nat.le_of_eq (Mailroom.next_read _ address).symm
  primaryKey := rfl
  tables _ table found := ⟨table.feeds, found⟩
  rows _ := rfl
  failQuery := id
  failSubscribe := id

/-- Giving up a feed of one's own concerns nobody else. -/
theorem Spares.release {own : Option Nat} {before after : Database} {address : Nat}
    (spares : Spares own before after)
    (apart : ∀ other < before.feedRoom.next, own ≠ some other → address ≠ other) :
    Spares own before (after.release address) where
  keeps other known different :=
    (spares.keeps other known different).trans
      (release_keepsFeed after address (apart other known different))
  next := spares.next
  primaryKey := spares.primaryKey
  tables := spares.tables
  rows := spares.rows
  failQuery := spares.failQuery
  failSubscribe := spares.failSubscribe

/-- What spares everybody spares everybody else. -/
theorem Spares.others {own : Option Nat} {before after : Database}
    (spares : Spares none before after) : Spares own before after :=
  { spares with
    keeps := fun other known _ => spares.keeps other known (Option.some_ne_none other).symm }

section Opening

variable {plan : Plan} {after : Database}

theorem query_cases (plan : Plan) :
    (database.query plan).1 = database ∨
      (database.query plan).1 = { database with failQuery := none } := by
  unfold query
  split
  · exact .inr rfl
  · split <;> exact .inl rfl

/-- A query works unless it is made to fail. -/
theorem query_answers {selection : Selection} {table : Table}
    (selected : Selection.ofPlan? plan = some selection)
    (found : database.tables[plan.table]? = some table) (working : database.failQuery = none) :
    database.query plan = (database, .ok (selection.run table.records)) := by
  simp only [query, working, prepare, selected, found]

/-- The store when a feed has been opened. -/
def opened (database : Database) (plan : Plan) (selection : Selection) (table : Table) :
    Database :=
  let records := selection.run table.records
  { database with
    tables := database.tables.insert plan.table { table with
      feeds := table.feeds ++ [⟨database.feedRoom.next, selection,
        if selection.isWindowed then records else []⟩] }
    feedRoom := (database.feedRoom.openBox
      ((FeedEvent.initial :: (records.map .inserted ++ [.ready])).map .ok)).2
    failSubscribe := none }

/-- The opening of a feed is refused, or the feed has a new address. -/
theorem subscribe_cases (plan : Plan) :
    (∃ cause failSubscribe, database.subscribe plan =
        ({ database with failSubscribe }, .error cause) ∧
      (failSubscribe = database.failSubscribe ∨ failSubscribe = none)) ∨
    ∃ selection table, Selection.ofPlan? plan = some selection ∧
      database.tables[plan.table]? = some table ∧
      database.subscribe plan =
        (database.opened plan selection table, .ok database.feedRoom.next) := by
  cases failing : database.failSubscribe with
  | some cause =>
      refine .inl ⟨cause, none, ?_, .inr rfl⟩
      simp only [subscribe, failing]
  | none =>
      have same : { database with failSubscribe := none } = database := by
        rw [← failing]
      cases selected : Selection.ofPlan? plan with
      | none =>
          refine .inl ⟨.query "<regex>", none, ?_, .inr rfl⟩
          rw [same]
          simp only [subscribe, failing, prepare, selected]
      | some selection =>
          cases found : database.tables[plan.table]? with
          | none =>
              refine .inl ⟨missingTable plan.table, none, ?_, .inr rfl⟩
              rw [same]
              simp only [subscribe, failing, prepare, selected, found]
          | some table =>
              refine .inr ⟨selection, table, rfl, rfl, ?_⟩
              simp only [subscribe, failing, prepare, selected, found]
              rfl

variable {selection : Selection} {table : Table}

theorem tables_opened (other : String) :
    (database.opened plan selection table).tables[other]? =
      if plan.table = other then some { table with
        feeds := table.feeds ++ [⟨database.feedRoom.next, selection,
          if selection.isWindowed then selection.run table.records else []⟩] }
      else database.tables[other]? := by
  simp only [opened, lookup_insert]

/-- The reader of a new feed finds the selected records between the markers. -/
theorem boxes_opened :
    (database.opened plan selection table).feedRoom.boxes[database.feedRoom.next]? =
      some ⟨(FeedEvent.initial :: ((selection.run table.records).map .inserted ++ [.ready])).map
        .ok, false⟩ := by
  change (database.feedRoom.openBox _).2.boxes[database.feedRoom.next]? = _
  rw [Mailroom.boxes_openBox, if_pos rfl]

/-- Opening a feed leaves all rows as they are. -/
private theorem rows_opened (found : database.tables[plan.table]? = some table) (name : String) :
    ((database.opened plan selection table).table name).rows = (database.table name).rows := by
  rw [Database.table, tables_opened]
  by_cases same : plan.table = name
  · subst same
    rw [if_pos rfl, Option.getD_some, table_of_found found]
  · rw [if_neg same, Database.table]

private theorem opened_spares (found : database.tables[plan.table]? = some table) :
    Spares none database (database.opened plan selection table) := by
  have kept (name : String) (held : Table) (there : database.tables[name]? = some held) :
      ∃ feeds, (database.opened plan selection table).tables[name]? = some ⟨held.rows, feeds⟩ ∧
        ∀ feed ∈ held.feeds, feed ∈ feeds := by
    rw [tables_opened]
    by_cases same : plan.table = name
    · subst same
      rw [if_pos rfl, ← Option.some.inj (found.symm.trans there)]
      exact ⟨_, rfl, fun feed member => List.mem_append_left _ member⟩
    · rw [if_neg same]
      exact ⟨held.feeds, there, fun _ member => member⟩
  refine ⟨fun other known _ => ⟨rfl, ?_, kept⟩, Nat.le_succ _, rfl, fun name held there => ?_,
    rows_opened found, id, fun _ => rfl⟩
  · change (database.feedRoom.openBox _).2.boxes[other]? = _
    rw [Mailroom.boxes_openBox, if_neg (Nat.ne_of_gt known)]
  · obtain ⟨feeds, after, _⟩ := kept name held there
    exact ⟨feeds, after⟩

private theorem opened_isTidy (tidy : database.IsTidy)
    (found : database.tables[plan.table]? = some table) :
    (database.opened plan selection table).IsTidy := by
  have former {name : String} {held : Table} {feed : Feed}
      (there : (database.opened plan selection table).tables[name]? = some held)
      (member : feed ∈ held.feeds) :
      feed.address = database.feedRoom.next ∧ name = plan.table ∨
        ∃ earlier : Table, database.tables[name]? = some earlier ∧ feed ∈ earlier.feeds := by
    rw [tables_opened] at there
    by_cases same : plan.table = name
    · rw [if_pos same] at there
      rw [← Option.some.inj there] at member
      rcases List.mem_append.mp member with earlier | new
      · exact .inr ⟨table, same ▸ found, earlier⟩
      · rw [List.mem_singleton.mp new]
        exact .inl ⟨rfl, same.symm⟩
    · rw [if_neg same] at there
      exact .inr ⟨held, there, member⟩
  constructor
  · intro name held there
    rw [tables_opened] at there
    by_cases same : plan.table = name
    · rw [if_pos same] at there
      rw [← Option.some.inj there]
      exact (tidy.tables plan.table table found).addFeed (fun windowed => if_pos windowed) rfl
    · rw [if_neg same] at there
      exact (tidy.tables name held there).mono (Nat.le_succ _)
  · intro first second left right there further feed member rest present same
    rcases former there member with ⟨new, named⟩ | ⟨earlier, held, inside⟩
    · rcases former further present with ⟨_, otherNamed⟩ | ⟨another, placed, within⟩
      · exact named.trans otherNamed.symm
      · have known := (tidy.tables second another placed).known rest within
        exact absurd (same.symm.trans new) (Nat.ne_of_lt known)
    · rcases former further present with ⟨new, _⟩ | ⟨another, placed, within⟩
      · have known := (tidy.tables first earlier held).known feed inside
        exact absurd (same.trans new) (Nat.ne_of_lt known)
      · exact tidy.apart first second earlier another held placed feed inside rest within same
  · intro address box placed
    have room : (database.feedRoom.openBox
        ((FeedEvent.initial :: ((selection.run table.records).map .inserted ++ [.ready])).map
          .ok)).2.boxes[address]? = some box := placed
    rw [Mailroom.boxes_openBox] at room
    by_cases same : database.feedRoom.next = address
    · exact same ▸ Nat.lt_succ_self _
    · rw [if_neg same] at room
      exact Nat.lt_succ_of_lt (tidy.boxes address box room)

/-- A new feed leads to the keys that its plan selects. -/
private theorem opened_serves (selected : Selection.ofPlan? plan = some selection)
    (plucks : selection.primaryKey = some database.primaryKey) (gathered : KeySet) :
    (database.opened plan selection table).Serves database.feedRoom.next plan
      (.collecting gathered) := by
  have held : (database.opened plan selection table).tables[plan.table]? = some { table with
      feeds := table.feeds ++ [⟨database.feedRoom.next, selection,
        if selection.isWindowed then selection.run table.records else []⟩] } := by
    rw [tables_opened, if_pos rfl]
  refine ⟨_, _, held, boxes_opened, .inr ⟨_, List.mem_append_right _ List.mem_cons_self, _, rfl, selected,
    plucks, rfl, .initial (selection.run table.records) ?_⟩⟩
  rw [withRecords_eq, Finset.empty_union]
  rfl

theorem query_isTidy (tidy : database.IsTidy) : (database.query plan).1.IsTidy := by
  rcases database.query_cases plan with same | same <;> rw [same]
  · exact tidy
  · exact ⟨tidy.tables, tidy.apart, tidy.boxes⟩

theorem rows_query (plan : Plan) (name : String) :
    ((database.query plan).1.table name).rows = (database.table name).rows := by
  rcases database.query_cases plan with same | same <;> rw [same]
  rfl

variable (database) in
/-- A query leaves every feed as it is. -/
theorem query_keepsFeed (plan : Plan) (address : Nat) :
    KeepsFeed address database (database.query plan).1 := by
  rcases database.query_cases plan with same | same <;> rw [same]
  · exact .refl address database
  · exact ⟨rfl, rfl, fun _ table found => ⟨table.feeds, found, fun _ => id⟩⟩

theorem query_spares (plan : Plan) : Spares none database (database.query plan).1 := by
  have keeps (other : Nat) := database.query_keepsFeed plan other
  rcases database.query_cases plan with same | same <;> rw [same] at keeps ⊢
  · exact .refl none database
  · exact ⟨fun other _ _ => keeps other, Nat.le_refl _, rfl,
      fun _ table found => ⟨table.feeds, found⟩, fun _ => rfl, fun _ => rfl, id⟩

theorem subscribe_isTidy (tidy : database.IsTidy) : (database.subscribe plan).1.IsTidy := by
  rcases database.subscribe_cases plan with ⟨_, _, refused, _⟩ | ⟨_, _, _, found, opened⟩
  · rw [refused]
    exact ⟨tidy.tables, tidy.apart, tidy.boxes⟩
  · rw [opened]
    exact opened_isTidy tidy found

theorem rows_subscribe (plan : Plan) (name : String) :
    ((database.subscribe plan).1.table name).rows = (database.table name).rows := by
  rcases database.subscribe_cases plan with ⟨_, _, refused, _⟩ | ⟨_, _, _, found, opened⟩
  · rw [refused]
    rfl
  · rw [opened, rows_opened found]

theorem subscribe_spares (plan : Plan) : Spares none database (database.subscribe plan).1 := by
  rcases database.subscribe_cases plan with ⟨_, failing, refused, same⟩ | ⟨_, _, _, found, opened⟩
  · rw [refused]
    exact ⟨fun other _ _ => ⟨rfl, rfl, fun _ table found => ⟨table.feeds, found, fun _ => id⟩⟩,
      Nat.le_refl _, rfl, fun _ table found => ⟨table.feeds, found⟩, fun _ => rfl, id,
      fun working => same.elim (·.trans working) id⟩
  · rw [opened]
    exact opened_spares found

theorem feedRoom_query (plan : Plan) : (database.query plan).1.feedRoom = database.feedRoom := by
  rcases database.query_cases plan with same | same <;> rw [same]

theorem query_ages (plan : Plan) : database.feedRoom.Ages (database.query plan).1.feedRoom := by
  rw [feedRoom_query]
  exact .refl _

theorem subscribe_ages (plan : Plan) :
    database.feedRoom.Ages (database.subscribe plan).1.feedRoom := by
  rcases database.subscribe_cases plan with ⟨_, _, refused, _⟩ | ⟨_, _, _, _, opened⟩
  · rw [refused]
    exact .refl _
  · rw [opened]
    exact Mailroom.openBox_ages _ _

/-- A box is opened for the feed that is granted, and no other one. -/
theorem isOpen_subscribe {address : Nat} (fresh : database.feedRoom.next ≤ address)
    (tidy : database.IsTidy)
    (isOpen : (database.subscribe plan).1.feedRoom.isOpen address = true) :
    (database.subscribe plan).2 = .ok address := by
  have former (earlier : database.feedRoom.isOpen address = true) : False := by
    obtain ⟨box, placed⟩ := (Mailroom.isOpen_iff _ _).mp earlier
    exact Nat.not_lt.mpr fresh (tidy.boxes address box placed)
  rcases database.subscribe_cases plan with ⟨_, _, refused, _⟩ | ⟨_, _, _, _, opened⟩
  · rw [refused] at isOpen
    exact (former isOpen).elim
  · rw [opened] at isOpen ⊢
    have placed : (database.feedRoom.openBox _).2.isOpen address = true := isOpen
    rw [Mailroom.isOpen_openBox, Bool.or_eq_true, decide_eq_true_eq] at placed
    rcases placed with same | earlier
    · rw [same]
    · exact (former earlier).elim

theorem query_isSound (sound : database.IsSound) : (database.query plan).1.IsSound :=
  (query_isTidy sound.toIsTidy).isSound sound (query_spares plan).primaryKey (rows_query plan)

theorem subscribe_isSound (sound : database.IsSound) : (database.subscribe plan).1.IsSound :=
  (subscribe_isTidy sound.toIsTidy).isSound sound (subscribe_spares plan).primaryKey
    (rows_subscribe plan)

/-- A feed that is opened has a new address and serves its session. -/
theorem subscribe_serves {address : Nat} (granted : (database.subscribe plan).2 = .ok address)
    (plucks : ∀ selection, Selection.ofPlan? plan = some selection →
      selection.primaryKey = some database.primaryKey) (gathered : KeySet) :
    address = database.feedRoom.next ∧
      (database.subscribe plan).1.Serves address plan (.collecting gathered) ∧
      ∀ box, (database.subscribe plan).1.feedRoom.boxes[address]? = some box →
        box.ended = false := by
  rcases database.subscribe_cases plan with
    ⟨_, _, refused, _⟩ | ⟨selection, table, selected, _, opened⟩
  · rw [refused] at granted
    exact nomatch granted
  · rw [opened] at granted ⊢
    obtain rfl := Except.ok.inj granted
    refine ⟨rfl, opened_serves selected (plucks selection selected) gathered, fun box placed => ?_⟩
    have room : (database.feedRoom.openBox ((FeedEvent.initial ::
        ((selection.run table.records).map .inserted ++ [.ready])).map .ok)).2.boxes[
          database.feedRoom.next]? = some box := placed
    rw [Mailroom.boxes_openBox, if_pos rfl] at room
    rw [← Option.some.inj room]

/-- A feed is opened unless the opening is made to fail. -/
theorem subscribe_answers {selection : Selection} {table : Table}
    (selected : Selection.ofPlan? plan = some selection)
    (found : database.tables[plan.table]? = some table) (working : database.failSubscribe = none) :
    (database.subscribe plan).2 = .ok database.feedRoom.next := by
  simp only [subscribe, working, prepare, selected, found]
  rfl

end Opening

end Database

end LiveSearch
