import LiveSearch.Proofs.Store.Sharing

/-! # What the reader of a changefeed receives

Between two moments the rows of a table stay as they are, or the row of one key is written. What a
feed of the table sends in between depends on nothing but its selection and the rows at the two
moments (`LiveSearch.Selection.Sends`). Whatever happens to a store and to the readers of its feeds,
short of breaking the feed or giving it up, the reader receives exactly this
(`LiveSearch.Database.Carries.act`); items that have been read and items that still wait are
received alike (`LiveSearch.Database.delivered`).
-/

namespace LiveSearch

namespace Selection

/-- What the feed of a selection sends when rows become others. -/
inductive Sends (selection : Selection) (before after : Std.TreeMap String Json) :
    List FeedEvent → Prop
  | nothing (same : after = before) : Sends selection before after []
  | comparison (windowed : selection.isWindowed = true) : Sends selection before after
      (Feed.windowEvents (selection.run before.values) (selection.run after.values))
  | record (unlimited : selection.isWindowed = false) (key : String)
      (differ : DifferAt key before after) :
      Sends selection before after (Feed.recordEvents selection before[key]? after[key]?)

namespace Sends

variable {selection : Selection} {field key : String} {before after : Std.TreeMap String Json}
  {events : List FeedEvent}

/-- A feed sends this of a write. -/
theorem of_afterWrite {feed : Feed} (current : feed.IsCurrent before.values)
    (differ : DifferAt key before after) :
    feed.selection.Sends before after
      (feed.afterWrite after.values before[key]? after[key]?).2 := by
  cases windowed : feed.selection.isWindowed with
  | true =>
      rw [Feed.afterWrite_windowed windowed current]
      exact .comparison windowed
  | false =>
      rw [Feed.afterWrite_unlimited windowed]
      exact .record windowed key differ

/-- With a limit, what is sent leads to the keys of the present window exactly if the windows agree
about zeros. -/
theorem leads_iff (sends : selection.Sends before after events) (filed : AreFiled field before)
    (later : AreFiled field after) (plucks : selection.primaryKey = some field)
    (windowed : selection.isWindowed = true) :
    FeedEvent.Leads field events (selection.keys field before.values)
      (selection.keys field after.values) ↔
        Feed.ZerosAgree field (selection.run before.values) (selection.run after.values) := by
  cases sends with
  | nothing same => exact same ▸ iff_of_true (.nil field _) (.inr (.inr rfl))
  | comparison =>
      exact Feed.windowEvents_leads_iff (isWindow_run filed plucks) (isWindow_run later plucks)
  | record unlimited => exact absurd (windowed.symm.trans unlimited) Bool.true_eq_false.mp

/-- With a limit, no more keys than the limit allows are ever present in between. -/
theorem stayWithin (sends : selection.Sends before after events) {limit : Nat}
    (limited : selection.limit = some limit)
    (leads : FeedEvent.Leads field events (selection.keys field before.values)
      (selection.keys field after.values)) :
    FeedEvent.StayWithin field limit (selection.keys field before.values) events := by
  have within : (selection.keys field before.values).card ≤ limit :=
    selection.card_keys_le limited before.values
  cases sends with
  | nothing same => exact within
  | comparison =>
      refine Feed.windowEvents_stayWithin within ?_
      exact leads.folded.symm ▸ selection.card_keys_le limited after.values
  | record unlimited =>
      rw [isWindowed, limited] at unlimited
      cases unlimited

/-- Without a limit, what is sent leads to the keys of the rows that pass the tests now. -/
theorem leads (sends : selection.Sends before after events) (filed : AreFiled field before)
    (later : AreFiled field after) (plucks : selection.primaryKey = some field)
    (unlimited : selection.isWindowed = false) :
    FeedEvent.Leads field events (selection.keys field before.values)
      (selection.keys field after.values) := by
  cases sends with
  | nothing same => exact same ▸ .nil field _
  | comparison windowed => exact absurd (windowed.symm.trans unlimited) Bool.true_eq_false.mp
  | record _ key differ => exact Feed.recordEvents_leads filed later plucks unlimited differ

/-- Without a limit nothing is sent unless a key comes in or leaves. -/
theorem eq_nil (sends : selection.Sends before after events) (filed : AreFiled field before)
    (later : AreFiled field after) (plucks : selection.primaryKey = some field)
    (unlimited : selection.isWindowed = false)
    (same : selection.keys field after.values = selection.keys field before.values) :
    events = [] := by
  cases sends with
  | nothing => rfl
  | comparison windowed => exact absurd (windowed.symm.trans unlimited) Bool.true_eq_false.mp
  | record _ key differ =>
      rcases Feed.recordEvents_cases filed later plucks unlimited differ with
        ⟨silent, _⟩ | ⟨_, _, _, absent, grown⟩ | ⟨_, _, _, present, shrunk⟩
      · exact silent
      · rw [← same, grown] at absent
        exact absurd (Finset.mem_insert_self key _) absent
      · rw [← same, shrunk] at present
        exact absurd present (Finset.notMem_erase key _)

/-- Only records are let in or taken out. -/
theorem isPure (sends : selection.Sends before after events) :
    ∀ event ∈ events, event.isPure = true := by
  cases sends with
  | nothing => exact fun event member => absurd member List.not_mem_nil
  | comparison => exact fun event member => Feed.isPure_of_mem_windowEvents member
  | record => exact fun event member => Feed.isPure_of_mem_recordEvents member

end Sends

end Selection

namespace Database

/-- What happens to a store and to the readers of its feeds. -/
inductive Act
  | request (request : Request)
  | query (plan : Plan)
  | subscribe (plan : Plan)
  /-- The next item is read at an address. -/
  | read (address : Nat)
  /-- Everything that waits is read at an address. -/
  | readAll (address : Nat)
  | release (address : Nat)

namespace Act

/-- The store behind an act. -/
def after (database : Database) : Act → Database
  | request asked => asked.perform database
  | query plan => (database.query plan).1
  | subscribe plan => (database.subscribe plan).1
  | read address => database.afterRead address
  | readAll address => (database.readFeed address).2.2
  | release address => database.release address

/-- What an act reads at an address. -/
def taken (database : Database) (address : Nat) : Act → List FeedItem
  | read other => if other = address then (database.feedRoom.read address).1.toList else []
  | readAll other => if other = address then (database.readFeed address).1 else []
  | _ => []

/-- An act that neither breaks the feeds of a table nor gives up the feed at an address. -/
def Spares (name : String) (address : Nat) : Act → Prop
  | request (.breakFeeds other _) => other ≠ name
  | release other => other ≠ address
  | _ => True

end Act

/-- The store behind several acts. -/
def run (database : Database) (acts : List Act) : Database := acts.foldl Act.after database

/-- What several acts read at an address. -/
def taken (database : Database) (address : Nat) : List Act → List FeedItem
  | [] => []
  | act :: rest => act.taken database address ++ (act.after database).taken address rest

/-- What has been sent to an address before or during several acts, whether it has been read or
waits. -/
def delivered (database : Database) (address : Nat) (acts : List Act) : List FeedItem :=
  database.taken address acts ++ (database.run acts).feedRoom.waiting address

/-- There is a feed of a table with this selection, and a reader at its address. -/
structure Carries (database : Database) (address : Nat) (name : String) (selection : Selection) :
    Prop where
  feed : ∃ feed ∈ (database.table name).feeds, feed.address = address ∧ feed.selection = selection
  box : ∃ box, database.feedRoom.boxes[address]? = some box

/-- From one store to another, while some items are read, the feed keeps its reader and sends what
has to be sent of the change of the rows. -/
structure Delivers (address : Nat) (name : String) (selection : Selection) (before : Database)
    (items : List FeedItem) (after : Database) : Prop where
  carries : after.Carries address name selection
  sent : ∃ events, selection.Sends (before.table name).rows (after.table name).rows events ∧
    items ++ after.feedRoom.waiting address = before.feedRoom.waiting address ++ events.map .ok

section Runs

variable (database : Database) (address : Nat) (acts : List Act) (act : Act)

theorem run_concat : database.run (acts ++ [act]) = act.after (database.run acts) :=
  List.foldl_concat ..

theorem taken_concat : database.taken address (acts ++ [act]) =
    database.taken address acts ++ act.taken (database.run acts) address := by
  induction acts generalizing database with
  | nil => exact List.append_nil _
  | cons first rest ih =>
      change first.taken database address ++ (first.after database).taken address (rest ++ [act]) =
        first.taken database address ++ (first.after database).taken address rest ++
          act.taken ((first.after database).run rest) address
      rw [ih, List.append_assoc]

end Runs

variable {database after : Database} {address : Nat} {name : String} {selection : Selection}

section Invariants

/-- Every request has an answer, whatever record it brings. -/
private theorem answered (database : Database) (request : Request) :
    Answer (fun _ => True) database request.isFault (request.perform database) :=
  database.perform_answer request fun _ _ => trivial

theorem Act.primaryKey_after (act : Act) :
    (act.after database).primaryKey = database.primaryKey := by
  cases act with
  | request request => exact (answered database request).primaryKey
  | query plan => exact (query_spares plan).primaryKey
  | subscribe plan => exact (subscribe_spares plan).primaryKey
  | read address => rfl
  | readAll address => rfl
  | release address => rfl

theorem Act.isTidy_after (tidy : database.IsTidy) (act : Act) : (act.after database).IsTidy := by
  cases act with
  | request request => exact (answered database request).isTidy tidy
  | query plan => exact query_isTidy tidy
  | subscribe plan => exact subscribe_isTidy tidy
  | read address => exact afterRead_isTidy address tidy
  | readAll address => exact readFeed_isTidy address tidy
  | release address => exact release_isTidy address tidy

/-- Whatever happens to a store, no address is given out a second time. -/
theorem Act.ages_after (database : Database) (act : Act) :
    database.feedRoom.Ages (act.after database).feedRoom := by
  cases act with
  | request request => exact (answered database request).ages
  | query plan => exact query_ages plan
  | subscribe plan => exact subscribe_ages plan
  | read address => exact afterRead_ages database address
  | readAll address =>
      exact .of_isOpen (Mailroom.next_readAll _ address) fun other isOpen =>
        (Mailroom.isOpen_readAll _ address other).symm.trans isOpen
  | release address => exact Mailroom.close_ages _ address

theorem Act.isFiled_after (filed : database.IsFiled) (act : Act) :
    (act.after database).IsFiled := by
  have kept (primaryKey : (act.after database).primaryKey = database.primaryKey)
      (rows : ∀ name, ((act.after database).table name).rows = (database.table name).rows) :
      (act.after database).IsFiled := by
    intro name
    rw [primaryKey, rows]
    exact filed name
  cases act with
  | request request => exact (answered database request).isFiled filed
  | query plan => exact kept (query_spares plan).primaryKey (rows_query plan)
  | subscribe plan => exact kept (subscribe_spares plan).primaryKey (rows_subscribe plan)
  | read address => exact kept rfl fun _ => rfl
  | readAll address => exact kept rfl fun _ => rfl
  | release address => exact kept rfl fun _ => rfl

end Invariants

section Carrying

/-- Feeds of other tables have other readers. -/
private theorem Carries.apart (carries : database.Carries address name selection)
    (tidy : database.IsTidy) {other : String} (different : other ≠ name) :
    ∀ feed ∈ (database.table other).feeds, feed.address ≠ address := by
  obtain ⟨⟨own, member, addressed, _⟩, _⟩ := carries
  intro feed further same
  exact different (tidy.apart other name _ _ (found_of_feed further) (found_of_feed member) feed
    further own member (same.trans addressed.symm))

/-- A feed whose table and whose box stay as they are sends nothing. -/
private theorem Carries.frame (carries : database.Carries address name selection)
    (keeps : KeepsFeed address database after) :
    Delivers address name selection database [] after := by
  obtain ⟨⟨feed, member, addressed, selected⟩, box, placed⟩ := carries
  obtain ⟨feeds, held, kept⟩ := keeps.tables name _ (found_of_feed member)
  have table := table_of_found held
  refine ⟨⟨⟨feed, table ▸ kept feed member, addressed, selected⟩, box, keeps.box.trans placed⟩,
    [], .nothing (by rw [table]), ?_⟩
  rw [List.nil_append, Mailroom.waiting, keeps.box, List.map_nil, List.append_nil, Mailroom.waiting]

/-- Where neither the table nor the box changes, nothing is sent. -/
private theorem Carries.untouched (carries : database.Carries address name selection)
    (table : after.table name = database.table name)
    (box : after.feedRoom.boxes[address]? = database.feedRoom.boxes[address]?) :
    Delivers address name selection database [] after := by
  refine ⟨⟨table ▸ carries.feed, box ▸ carries.box⟩, [], .nothing (by rw [table]), ?_⟩
  rw [List.nil_append, Mailroom.waiting, box, List.map_nil, List.append_nil, Mailroom.waiting]

/-- The reader of a feed receives what the feed sends of a write. -/
private theorem Carries.stored (carries : database.Carries address name selection)
    (tidy : database.IsTidy) (written key : String) {rows : Std.TreeMap String Json}
    {new : Option Json} (differ : DifferAt key (database.table written).rows rows)
    (is : rows[key]? = new) :
    Delivers address name selection database [] (database.stored written key rows new) := by
  by_cases same : written = name
  · subst same
    have table : (database.stored written key rows new).table written =
        ⟨rows, (database.reported written key rows new).1⟩ :=
      table_of_found (by rw [tables_stored, if_pos rfl])
    obtain ⟨⟨feed, member, rfl, rfl⟩, box, placed⟩ := carries
    obtain ⟨kept, received⟩ := Feed.boxes_publish rows.values (database.table written).rows[key]?
      new (database.table written).feeds database.feedRoom (tidy.table written).nodup member placed
    have sends := Selection.Sends.of_afterWrite ((tidy.table written).current feed member) differ
    rw [is] at sends
    have placedThen : (database.stored written key rows new).feedRoom.boxes[feed.address]? =
        some _ := received
    have present : ∃ further ∈ ((database.stored written key rows new).table written).feeds,
        further.address = feed.address ∧ further.selection = feed.selection := by
      rw [table]
      exact ⟨_, kept, Feed.address_afterWrite _, Feed.selection_afterWrite _⟩
    refine ⟨⟨present, _, placedThen⟩,
      (feed.afterWrite rows.values (database.table written).rows[key]? new).2, ?_, ?_⟩
    · rw [table]
      exact sends
    · rw [List.nil_append, Mailroom.waiting_of_box _ placedThen, Mailroom.waiting_of_box _ placed]
  · have table : (database.stored written key rows new).table name = database.table name := by
      rw [Database.table, tables_stored, if_neg same, Database.table]
    have box : (database.stored written key rows new).feedRoom.boxes[address]? =
        database.feedRoom.boxes[address]? :=
      Feed.boxes_publish_other _ _ _ _ _ (carries.apart tidy same)
    exact carries.untouched table box

/-- A request that is no fault makes the feed send what has to be sent. -/
private theorem Carries.answer (carries : database.Carries address name selection)
    (tidy : database.IsTidy) {admits : Json → Prop} (answer : Answer admits database false after) :
    Delivers address name selection database [] after := by
  cases answer with
  | unchanged => exact carries.frame (.refl address database)
  | created created => exact carries.frame (createTable_keepsFeed created address)
  | stored written key rows new filed differ is => exact carries.stored tidy written key differ is

/-- Feeds of other tables can be broken. -/
private theorem Carries.breakFeeds (carries : database.Carries address name selection)
    (tidy : database.IsTidy) {other : String} (different : other ≠ name)
    (failure : ServiceError) :
    Delivers address name selection database [] (database.breakFeeds other failure) := by
  cases found : database.tables[other]? with
  | none =>
      have same : database.breakFeeds other failure = database := by
        simp only [Database.breakFeeds, found]
      rw [same]
      exact carries.frame (.refl address database)
  | some broken =>
      have table : (database.breakFeeds other failure).table name = database.table name := by
        rw [Database.table, tables_breakFeeds other failure found, if_neg different, Database.table]
      have box : (database.breakFeeds other failure).feedRoom.boxes[address]? =
          database.feedRoom.boxes[address]? := by
        rw [feedRoom_breakFeeds other failure found, boxes_broken_other]
        exact table_of_found found ▸ carries.apart tidy different
      exact carries.untouched table box

/-- Reading takes nothing away from what is received. -/
private theorem Carries.read (carries : database.Carries address name selection)
    {items : List FeedItem} {feedRoom : Mailroom FeedItem}
    (box : ∃ box, feedRoom.boxes[address]? = some box)
    (conserved : items ++ feedRoom.waiting address = database.feedRoom.waiting address) :
    Delivers address name selection database items { database with feedRoom } :=
  ⟨⟨carries.feed, box⟩, [], .nothing rfl, conserved.trans (List.append_nil _).symm⟩

/-- Whatever happens, the reader of a feed that is neither broken nor given up receives what the
feed sends when the rows become others. -/
theorem Carries.act (carries : database.Carries address name selection) (tidy : database.IsTidy)
    {act : Act} (spares : act.Spares name address) :
    Delivers address name selection database (act.taken database address) (act.after database) := by
  have known : address < database.feedRoom.next := by
    obtain ⟨box, placed⟩ := carries.box
    exact tidy.boxes address box placed
  cases act with
  | request request =>
      cases request with
      | breakFeeds other failure => exact carries.breakFeeds tidy spares failure
      | failQuery failure =>
          exact carries.frame ⟨rfl, rfl, fun _ table found => ⟨table.feeds, found, fun _ => id⟩⟩
      | failSubscribe failure =>
          exact carries.frame ⟨rfl, rfl, fun _ table found => ⟨table.feeds, found, fun _ => id⟩⟩
      | createTable other => exact carries.answer tidy (answered database (.createTable other))
      | insert other record =>
          exact carries.answer tidy (answered database (.insert other record))
      | update other record =>
          exact carries.answer tidy (answered database (.update other record))
      | upsert other record =>
          exact carries.answer tidy (answered database (.upsert other record))
      | delete other key => exact carries.answer tidy (answered database (.delete other key))
  | query plan =>
      exact carries.frame ((query_spares plan).keeps address known (Option.some_ne_none _).symm)
  | subscribe plan =>
      exact carries.frame ((subscribe_spares plan).keeps address known (Option.some_ne_none _).symm)
  | read other =>
      by_cases same : other = address
      · subst same
        have box : ∃ box, (database.afterRead other).feedRoom.boxes[other]? = some box := by
          obtain ⟨box, placed⟩ := carries.box
          rw [afterRead, Mailroom.boxes_read, if_pos rfl, placed]
          exact ⟨_, rfl⟩
        rw [Act.taken, if_pos rfl]
        exact carries.read box (Mailroom.toList_read _ other)
      · rw [Act.taken, if_neg same]
        exact carries.frame (afterRead_keepsFeed database other same)
  | readAll other =>
      by_cases same : other = address
      · subst same
        have box : ∃ box, (database.feedRoom.readAll other).2.boxes[other]? = some box := by
          obtain ⟨box, placed⟩ := carries.box
          rw [Mailroom.boxes_readAll, if_pos rfl, placed]
          exact ⟨_, rfl⟩
        rw [Act.taken, if_pos rfl]
        exact carries.read box (Mailroom.readAll_append _ other)
      · rw [Act.taken, if_neg same]
        exact carries.frame (readFeed_keepsFeed database other same)
  | release other => exact carries.frame (release_keepsFeed database other spares)

/-- A feed that is opened has a reader, who finds the selected records between the markers. -/
theorem subscribe_carries {plan : Plan}
    (granted : (database.subscribe plan).2 = .ok address) :
    ∃ selection, Selection.ofPlan? plan = some selection ∧
      (database.subscribe plan).1.Carries address plan.table selection ∧
      (database.subscribe plan).1.feedRoom.waiting address =
        (FeedEvent.initial :: ((selection.run (database.table plan.table).rows.values).map
          .inserted ++ [.ready])).map .ok := by
  rcases database.subscribe_cases plan with
    ⟨_, _, refused, _⟩ | ⟨selection, table, selected, found, opened⟩
  · rw [refused] at granted
    exact nomatch granted
  · rw [opened] at granted ⊢
    obtain rfl := Except.ok.inj granted
    have present : ∃ feed ∈ ((database.opened plan selection table).table plan.table).feeds,
        feed.address = database.feedRoom.next ∧ feed.selection = selection := by
      rw [table_of_found (by rw [tables_opened, if_pos rfl])]
      exact ⟨_, List.mem_append_right _ List.mem_cons_self, rfl, rfl⟩
    refine ⟨selection, selected, ⟨present, _, boxes_opened⟩, ?_⟩
    rw [Mailroom.waiting_of_box _ boxes_opened, table_of_found found]
    rfl

end Carrying

end Database

end LiveSearch
