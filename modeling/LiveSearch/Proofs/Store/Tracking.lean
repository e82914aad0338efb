import LiveSearch.Proofs.Query.Plan
import LiveSearch.Proofs.Store.Delivery

/-! # Changefeeds keep track of what is selected

The reader of a changefeed can fold what it receives into a set of keys. Without a limit this is
always the set of the keys whose rows match (`LiveSearch.Database.tracks_matches`). With a limit it
is the set of the keys in the window as long as no write makes the window exchange zeros
(`LiveSearch.Database.tracks_window_iff`): the feed takes a row with the key minus zero for the row
with the key zero, and so does not report that one has taken the place of the other
(`LiveSearch.Database.window_exchanges_zeros`).
-/

namespace LiveSearch

namespace Selection

/-- The row of this key matches. -/
def Matches (selection : Selection) (rows : Std.TreeMap String Json) (key : String) : Prop :=
  ∃ record, rows[key]? = some record ∧ selection.accepts record = true

/-- The items lead, one after another, from no keys to those of the window, with at most as many
keys as the limit allows on the way. -/
def TracksWindow (selection : Selection) (field : String) (limit : Nat)
    (rows : Std.TreeMap String Json) (items : List FeedItem) : Prop :=
  ∃ events : List FeedEvent, items = events.map .ok ∧
    FeedEvent.Leads field events ∅ (selection.keys field rows.values) ∧
      FeedEvent.StayWithin field limit ∅ events

end Selection

namespace Database

/-- A store that has come about from the store without tables. -/
def IsReachable (field : String) (database : Database) : Prop :=
  ∃ acts, database = (Database.empty field).run acts

/-- A tidy store of filed records, in which a feed with this selection has a reader at an
address. -/
structure HasFeed (field : String) (address : Nat) (name : String) (selection : Selection)
    (database : Database) : Prop where
  primaryKey : database.primaryKey = field
  tidy : database.IsTidy
  filed : database.IsFiled
  carries : database.Carries address name selection

variable {field name : String} {address limit : Nat} {selection : Selection}
  {database start : Database} {acts : List Act}

/-- In a store that has come about, records are filed and readers are apart. -/
theorem IsReachable.invariants (reached : database.IsReachable field) :
    database.primaryKey = field ∧ database.IsTidy ∧ database.IsFiled := by
  obtain ⟨acts, rfl⟩ := reached
  induction acts using List.reverseRecOn with
  | nil =>
      have sound := isSound_empty field
      exact ⟨rfl, sound.toIsTidy, sound.filed⟩
  | append_singleton acts act ih =>
      obtain ⟨primaryKey, tidy, filed⟩ := ih
      rw [run_concat]
      exact ⟨act.primaryKey_after.trans primaryKey, act.isTidy_after tidy, act.isFiled_after filed⟩

namespace HasFeed

/-- The records of the table are filed. -/
theorem areFiled (feed : database.HasFeed field address name selection) :
    AreFiled field (database.table name).rows :=
  feed.primaryKey ▸ feed.filed name

theorem act (feed : database.HasFeed field address name selection) {act : Act}
    (spares : act.Spares name address) :
    (act.after database).HasFeed field address name selection where
  primaryKey := act.primaryKey_after.trans feed.primaryKey
  tidy := act.isTidy_after feed.tidy
  filed := act.isFiled_after feed.filed
  carries := (feed.carries.act feed.tidy spares).carries

/-- The feed lasts while it is neither broken nor given up. -/
theorem run (feed : database.HasFeed field address name selection) (acts : List Act)
    (spared : ∀ act ∈ acts, act.Spares name address) :
    (database.run acts).HasFeed field address name selection := by
  induction acts generalizing database with
  | nil => exact feed
  | cons act rest ih =>
      obtain ⟨first, others⟩ := List.forall_mem_cons.mp spared
      exact ih (feed.act first) others

theorem run_concat (feed : database.HasFeed field address name selection)
    (spared : ∀ act ∈ acts, act.Spares name address) {act : Act}
    (spares : act.Spares name address) :
    (database.run (acts ++ [act])).HasFeed field address name selection := by
  rw [Database.run_concat]
  exact (feed.run acts spared).act spares

/-- One act more makes the reader receive what the feed sends then. -/
theorem delivered_concat (feed : database.HasFeed field address name selection)
    (spared : ∀ act ∈ acts, act.Spares name address) {act : Act}
    (spares : act.Spares name address) :
    ∃ events, selection.Sends ((database.run acts).table name).rows
        ((database.run (acts ++ [act])).table name).rows events ∧
      database.delivered address (acts ++ [act]) =
        database.delivered address acts ++ events.map .ok := by
  have later := feed.run acts spared
  obtain ⟨events, sends, received⟩ := (later.carries.act later.tidy spares).sent
  refine ⟨events, Database.run_concat database acts act ▸ sends, ?_⟩
  rw [delivered, taken_concat, Database.run_concat, List.append_assoc, received,
    ← List.append_assoc, delivered]

end HasFeed

/-- A feed that is opened begins with the selected records between the markers. -/
theorem hasFeed_of_subscribe (reached : database.IsReachable field) {plan : Plan}
    (opened : database.subscribe plan = (start, .ok address)) :
    ∃ selection, Selection.ofPlan? plan = some selection ∧
      start.HasFeed field address plan.table selection ∧
      (start.table plan.table).rows = (database.table plan.table).rows ∧
      start.delivered address [] = (FeedEvent.initial ::
        ((selection.run (database.table plan.table).rows.values).map .inserted ++
          [.ready])).map .ok := by
  obtain ⟨primaryKey, tidy, filed⟩ := reached.invariants
  have granted : (database.subscribe plan).2 = .ok address := by rw [opened]
  obtain rfl : (database.subscribe plan).1 = start := by rw [opened]
  obtain ⟨selection, selected, carries, waiting⟩ := subscribe_carries granted
  refine ⟨selection, selected, ⟨?_, ?_, ?_, carries⟩, rows_subscribe plan plan.table, waiting⟩
  · exact (Act.primaryKey_after (.subscribe plan)).trans primaryKey
  · exact subscribe_isTidy tidy
  · exact Act.isFiled_after filed (.subscribe plan)

section Unlimited

/-- Without a limit, what is received after the ready marker leads from the keys of the rows that
matched at the beginning to those of the rows that match now. -/
private theorem HasFeed.deltas (feed : database.HasFeed field address name selection)
    (plucks : selection.primaryKey = some field) (unlimited : selection.isWindowed = false)
    (acts : List Act) (spared : ∀ act ∈ acts, act.Spares name address) :
    ∃ deltas, database.delivered address acts =
        database.delivered address [] ++ deltas.map .ok ∧
      (∀ event ∈ deltas, event.isPure = true) ∧
      FeedEvent.Leads field deltas (selection.keys field (database.table name).rows.values)
        (selection.keys field ((database.run acts).table name).rows.values) := by
  induction acts using List.reverseRecOn with
  | nil =>
      exact ⟨[], (List.append_nil _).symm, fun event member => absurd member List.not_mem_nil,
        .nil field _⟩
  | append_singleton acts act ih =>
      obtain ⟨others, last⟩ := List.forall_mem_append.mp spared
      obtain ⟨deltas, received, pure, leads⟩ := ih others
      obtain ⟨events, sends, more⟩ := feed.delivered_concat others (last act List.mem_cons_self)
      have later := feed.run acts others
      have final := feed.run_concat others (last act List.mem_cons_self)
      refine ⟨deltas ++ events, ?_, ?_, ?_⟩
      · rw [more, received, List.map_append, List.append_assoc]
      · intro event member
        rcases List.mem_append.mp member with before | sent
        · exact pure event before
        · exact sends.isPure event sent
      · exact leads.append (sends.leads later.areFiled final.areFiled plucks unlimited)

/-- Without a limit nothing is sent while the same rows match. -/
private theorem HasFeed.silent (feed : database.HasFeed field address name selection)
    (plucks : selection.primaryKey = some field) (unlimited : selection.isWindowed = false)
    (spared : ∀ act ∈ acts, act.Spares name address) {act : Act}
    (spares : act.Spares name address)
    (same : ∀ key, selection.Matches ((database.run acts).table name).rows key ↔
      selection.Matches ((database.run (acts ++ [act])).table name).rows key) :
    database.delivered address (acts ++ [act]) = database.delivered address acts := by
  obtain ⟨events, sends, more⟩ := feed.delivered_concat spared spares
  have later := (feed.run acts spared).areFiled
  have final := (feed.run_concat spared spares).areFiled
  have silent : events = [] := by
    apply sends.eq_nil later final plucks unlimited
    ext key
    rw [Selection.mem_keys_unlimited final plucks unlimited,
      Selection.mem_keys_unlimited later plucks unlimited]
    exact (same key).symm
  rw [more, silent, List.map_nil, List.append_nil]

/-- A changefeed without a limit keeps track of the rows that match: its items are the beginning,
the matching rows, the ready marker and changes; one after another they lead from no keys to those
of the rows that match now; and what does not change which rows match sends nothing. -/
theorem tracks_matches (reached : database.IsReachable field) {descriptor : Descriptor}
    (unlimited : descriptor.limit = none)
    (opened : database.subscribe (descriptor.plan field) = (start, .ok address))
    (spared : ∀ act ∈ acts, act.Spares descriptor.table address) :
    ∃ selection, Selection.ofPlan? (descriptor.plan field) = some selection ∧
      (∃ deltas keys, ∃ events : List FeedEvent,
        start.delivered address acts = events.map .ok ∧
        events = .initial ::
          ((selection.run (database.table descriptor.table).rows.values).map .inserted ++
            .ready :: deltas) ∧
        (∀ event ∈ deltas, event.isPure = true) ∧
        FeedEvent.Leads field events ∅ keys ∧
        ∀ key, key ∈ keys ↔ selection.Matches ((start.run acts).table descriptor.table).rows key) ∧
      ∀ act : Act, act.Spares descriptor.table address →
        (∀ key, selection.Matches ((start.run acts).table descriptor.table).rows key ↔
          selection.Matches ((start.run (acts ++ [act])).table descriptor.table).rows key) →
        start.delivered address (acts ++ [act]) = start.delivered address acts := by
  obtain ⟨selection, selected, feed, rows, opening⟩ := hasFeed_of_subscribe reached opened
  obtain ⟨plucks, limit⟩ := Descriptor.keeps_of_plan selected
  have endless : selection.isWindowed = false := by
    rw [Selection.isWindowed, limit, unlimited, Option.isSome_none]
  obtain ⟨deltas, received, pure, leads⟩ := feed.deltas plucks endless acts spared
  have window := Selection.isWindow_run (rows ▸ feed.areFiled) plucks
  have onward := (FeedEvent.opening_leads window).append (rows ▸ leads)
  rw [List.cons_append, List.append_assoc, List.singleton_append] at onward
  refine ⟨selection, selected, ⟨deltas, _, _, ?_, rfl, pure, onward, ?_⟩, ?_⟩
  · rw [received, opening, ← List.map_append, List.cons_append, List.append_assoc,
      List.singleton_append]
    rfl
  · intro key
    exact Selection.mem_keys_unlimited (feed.run acts spared).areFiled plucks endless
  · intro act spares same
    exact feed.silent plucks endless spared spares same

/-- A search for all books. -/
def allBooks : Descriptor := ⟨"books", [], none, false, none⟩

/-- A store with a table of books that holds none. -/
def bookStore : Database := (Database.empty "ds_id").createTable "books"

/-- A feed that is granted is granted at some store. -/
private theorem subscribe_of_granted {plan : Plan}
    (granted : (database.subscribe plan).2.toOption = some address) :
    database.subscribe plan = ((database.subscribe plan).1, .ok address) := by
  refine Prod.ext rfl ?_
  cases answer : (database.subscribe plan).2 with
  | error failure =>
      rw [answer] at granted
      exact nomatch granted
  | ok given =>
      rw [answer] at granted
      rw [Option.some.inj granted]

/-- A book with this key, written in this year. -/
def book (key : Json) (year : Nat) : Json := .object [("ds_id", key), ("year", .nat year)]

/-- A book comes and is replaced by one whose key is spelled in another way. -/
def respelling : List Act :=
  [.request (.insert "books" (book (.nat 1) 1605)),
    .request (.upsert "books" (book (.string "1") 1615))]

theorem tracks_matches_respelling : ∃ start, bookStore.subscribe (allBooks.plan "ds_id") =
      (start, .ok 0) ∧ ∃ (events : List FeedEvent) (keys : Finset String),
    start.delivered 0 respelling = events.map .ok ∧
      FeedEvent.Leads "ds_id" events ∅ keys ∧ "1" ∈ keys ∧ "2" ∉ keys := by
  have selected : Selection.ofPlan? (allBooks.plan "ds_id") =
      some ⟨"books", [], none, some "ds_id", none⟩ := rfl
  have opened : bookStore.subscribe (allBooks.plan "ds_id") = (_, .ok 0) :=
    subscribe_of_granted (by decide +kernel)
  have spared : ∀ act ∈ respelling, act.Spares allBooks.table 0 := by
    simp [respelling, Act.Spares]
  obtain ⟨selection, same, ⟨_, keys, events, received, _, _, leads, matching⟩, _⟩ :=
    tracks_matches ⟨[.request (.createTable "books")], rfl⟩ rfl opened spared
  obtain rfl := Option.some.inj (selected.symm.trans same)
  refine ⟨_, opened, events, keys, received, leads, ?_, ?_⟩
  · have present : (((((bookStore.subscribe (allBooks.plan "ds_id")).1.run respelling).table
        "books").rows)["1"]?).isSome = true := by decide +kernel
    obtain ⟨record, found⟩ := Option.isSome_iff_exists.mp present
    exact (matching "1").mpr ⟨record, found, rfl⟩
  · have absent : (((((bookStore.subscribe (allBooks.plan "ds_id")).1.run respelling).table
        "books").rows)["2"]?).isNone = true := by decide +kernel
    intro member
    obtain ⟨record, found, _⟩ := (matching "2").mp member
    exact nomatch (Option.isNone_iff_eq_none.mp absent).symm.trans found

end Unlimited

section Limited

/-- With a limit, a feed that has kept track of its window goes on doing so exactly if the windows
before and behind the next act agree about zeros. -/
private theorem HasFeed.tracks_concat_iff (feed : database.HasFeed field address name selection)
    (plucks : selection.primaryKey = some field) (limited : selection.limit = some limit)
    (spared : ∀ act ∈ acts, act.Spares name address) {act : Act}
    (spares : act.Spares name address)
    (tracks : selection.TracksWindow field limit ((database.run acts).table name).rows
      (database.delivered address acts)) :
    selection.TracksWindow field limit ((database.run (acts ++ [act])).table name).rows
        (database.delivered address (acts ++ [act])) ↔
      Feed.ZerosAgree field (selection.run ((database.run acts).table name).rows.values)
        (selection.run ((database.run (acts ++ [act])).table name).rows.values) := by
  obtain ⟨earlier, received, leads, within⟩ := tracks
  obtain ⟨events, sends, more⟩ := feed.delivered_concat spared spares
  have windowed : selection.isWindowed = true := by
    rw [Selection.isWindowed, limited, Option.isSome_some]
  have later := (feed.run acts spared).areFiled
  have final := (feed.run_concat spared spares).areFiled
  rw [← sends.leads_iff later final plucks windowed, more, received, ← List.map_append]
  constructor
  · rintro ⟨all, same, onward, _⟩
    have equal : earlier ++ events = all :=
      List.map_injective_iff.mpr (fun _ _ => Except.ok.inj) same
    exact (equal ▸ onward).of_append leads
  · intro onward
    refine ⟨earlier ++ events, rfl, leads.append onward, within.append ?_⟩
    rw [leads.folded]
    exact sends.stayWithin limited onward

/-- A feed that is opened begins with its window. -/
private theorem tracks_opening (reached : database.IsReachable field) {plan : Plan}
    (selected : Selection.ofPlan? plan = some selection)
    (plucks : selection.primaryKey = some field) (limited : selection.limit = some limit)
    (opened : database.subscribe plan = (start, .ok address)) :
    start.HasFeed field address plan.table selection ∧
      selection.TracksWindow field limit (start.table plan.table).rows
        (start.delivered address []) := by
  obtain ⟨other, same, feed, rows, opening⟩ := hasFeed_of_subscribe reached opened
  obtain rfl := Option.some.inj (selected.symm.trans same)
  have window := Selection.isWindow_run feed.areFiled plucks
  refine ⟨feed, _, rows ▸ opening, FeedEvent.opening_leads window, ?_⟩
  exact FeedEvent.opening_stayWithin (selection.card_keys_le limited _)

/-- A changefeed with a limit keeps track of its window, from its opening and through everything
that happens, exactly if the windows before and behind every act agree about zeros. -/
theorem tracks_window_iff (reached : database.IsReachable field) {plan : Plan}
    (selected : Selection.ofPlan? plan = some selection)
    (plucks : selection.primaryKey = some field) (limited : selection.limit = some limit)
    (opened : database.subscribe plan = (start, .ok address))
    (spared : ∀ act ∈ acts, act.Spares plan.table address) :
    (∀ earlier later, acts = earlier ++ later →
      selection.TracksWindow field limit ((start.run earlier).table plan.table).rows
        (start.delivered address earlier)) ↔
    ∀ earlier act later, acts = earlier ++ act :: later →
      Feed.ZerosAgree field
        (selection.run ((start.run earlier).table plan.table).rows.values)
        (selection.run ((start.run (earlier ++ [act])).table plan.table).rows.values) := by
  obtain ⟨feed, opening⟩ := tracks_opening reached selected plucks limited opened
  constructor
  · intro tracks earlier act later cut
    have parts := List.forall_mem_append.mp (cut ▸ spared)
    refine (feed.tracks_concat_iff plucks limited parts.1 (parts.2 act List.mem_cons_self)
      (tracks earlier (act :: later) cut)).mp (tracks (earlier ++ [act]) later ?_)
    rw [cut, List.append_assoc, List.singleton_append]
  · intro agree earlier
    -- The windows agree at every act of a prefix, so the feed keeps track act by act.
    induction earlier using List.reverseRecOn with
    | nil => exact fun _ _ => opening
    | append_singleton earlier act ih =>
        intro later cut
        rw [List.append_assoc, List.singleton_append] at cut
        have parts := List.forall_mem_append.mp (cut ▸ spared)
        exact (feed.tracks_concat_iff plucks limited parts.1 (parts.2 act List.mem_cons_self)
          (ih (act :: later) cut)).mpr (agree earlier act later cut)

/-- A search for the newest book. -/
def newestBook : Descriptor := ⟨"books", [], some "year", true, some 1⟩

/-- The selection of the search for the newest book. -/
def newest : Selection :=
  ⟨"books", [], some (Path.ofText "year", .descending), some "ds_id", some 1⟩

theorem selection_newestBook : Selection.ofPlan? (newestBook.plan "ds_id") = some newest := rfl

/-- The key zero, with a sign. -/
def zeroKey (negative : Bool) : Json := .number (.float (.zero negative))

/-- A store whose only book has this key. -/
def oneBook (key : Json) : Database :=
  (Database.empty "ds_id").run [.request (.insert "books" (book key 1605))]

/-- A newer book with the key zero comes. -/
def newerBook : Act := .request (.insert "books" (book (zeroKey false) 1615))

theorem tracks_window_arrival : ∃ start, (oneBook (.nat 1)).subscribe (newestBook.plan "ds_id") =
      (start, .ok 0) ∧
    newest.TracksWindow "ds_id" 1 ((start.run [newerBook]).table "books").rows
      (start.delivered 0 [newerBook]) := by
  have opened : (oneBook (.nat 1)).subscribe (newestBook.plan "ds_id") = (_, .ok 0) :=
    subscribe_of_granted (by decide +kernel)
  have spared : ∀ act ∈ [newerBook], act.Spares (newestBook.plan "ds_id").table 0 := by
    simp [newerBook, Act.Spares]
  refine ⟨_, opened, (tracks_window_iff ⟨_, rfl⟩ selection_newestBook rfl rfl opened spared).mpr
    ?_ [newerBook] [] rfl⟩
  intro earlier act later cut
  rcases List.cons_eq_append_iff.mp cut with ⟨rfl, same⟩ | ⟨rest, _, none⟩
  · obtain ⟨rfl, _⟩ := List.cons.inj same
    decide +kernel
  · exact absurd none.symm (List.append_ne_nil_of_right_ne_nil rest (List.cons_ne_nil act later))

/-- A book with the key zero takes the place of one with the key minus zero, and the reader of the
feed receives nothing. -/
theorem window_exchanges_zeros : ∃ start,
    (oneBook (zeroKey true)).IsReachable "ds_id" ∧
    Selection.ofPlan? (newestBook.plan "ds_id") = some newest ∧
    newest.primaryKey = some "ds_id" ∧ newest.limit = some 1 ∧
    (oneBook (zeroKey true)).subscribe (newestBook.plan "ds_id") = (start, .ok 0) ∧
    newerBook.Spares "books" 0 ∧
    ¬ newest.TracksWindow "ds_id" 1 ((start.run [newerBook]).table "books").rows
      (start.delivered 0 [newerBook]) := by
  have opened : (oneBook (zeroKey true)).subscribe (newestBook.plan "ds_id") = (_, .ok 0) :=
    subscribe_of_granted (by decide +kernel)
  obtain ⟨feed, opening⟩ := tracks_opening ⟨_, rfl⟩ selection_newestBook rfl rfl opened
  refine ⟨_, ⟨_, rfl⟩, selection_newestBook, rfl, rfl, opened, trivial, ?_⟩
  intro tracks
  have spares : newerBook.Spares "books" 0 := trivial
  have agree := (feed.tracks_concat_iff rfl rfl (List.forall_mem_nil _) spares opening).mp tracks
  revert agree
  decide +kernel

end Limited

end Database

end LiveSearch
