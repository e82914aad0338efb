import LiveSearch.Store.Record
import LiveSearch.Store.Table
import LiveSearch.Text.Visible

/-!
# The record store

Named tables of JSON objects, each stored under the text of its key.  A write is rejected before
anything changes.  The next query or the next changefeed can be made to fail, and all feeds of a
table can be broken.
-/

namespace LiveSearch

/-- A record store, with the boxes of the readers of its changefeeds. -/
structure Database where
  primaryKey : String
  tables : Std.TreeMap String Table
  feedRoom : Mailroom FeedItem
  failQuery : Option ServiceError
  failSubscribe : Option ServiceError

namespace Database

/-- The store without tables. -/
def empty (primaryKey : String) : Database := ⟨primaryKey, ∅, .empty, none, none⟩

/-- The table of a name; one without records if there is none. -/
def table (database : Database) (name : String) : Table := (database.tables[name]?).getD .empty

/-- Create a table if it does not exist. -/
def createTable (database : Database) (name : String) : Database :=
  { database with tables := database.tables.insert name (database.table name) }

/-- The names of the tables, in order. -/
def tableNames (database : Database) : List String := database.tables.keys

/-- The number of records of a table. -/
def size (database : Database) (name : String) : Nat := (database.table name).rows.size

/-- The record of a key. -/
def get? (database : Database) (name id : String) : Option Json := (database.table name).rows[id]?

/-- The number of changefeeds of a table that have a reader. -/
def feedCount (database : Database) (name : String) : Nat :=
  ((database.table name).feeds.filter fun feed => database.feedRoom.isOpen feed.address).length

/-- The key of a record, which has to be an object with a usable key. -/
def keyOf (database : Database) (record : Json) : Except ServiceError String :=
  if !record.isObject then .error (.query "records must be JSON objects")
  else match keyOf? database.primaryKey record with
    | some id => .ok id
    | none => .error (.query ("record has no primary key `" ++ database.primaryKey ++ "`"))

/-- The failure of a request to a table that does not exist. -/
def missingTable (name : String) : ServiceError := .query ("table `" ++ name ++ "` does not exist")

/-- Replace the records of a table and report the write to its feeds. -/
def store (database : Database) (name : String) (rows : Std.TreeMap String Json)
    (old new : Option Json) : Database :=
  let (feeds, feedRoom) :=
    Feed.publish rows.values old new (database.table name).feeds database.feedRoom
  { database with tables := database.tables.insert name ⟨rows, feeds⟩, feedRoom }

/-- Put a record under its key, whether the key is free or not. -/
def put (database : Database) (name id : String) (record : Json) : Database :=
  let rows := (database.table name).rows
  database.store name (rows.insert id record) rows[id]? (some record)

/-- Insert a new record; the table is created on first use. -/
def insert (database : Database) (name : String) (record : Json) :
    Database × Except ServiceError String :=
  match database.keyOf record with
  | .error failure => (database, .error failure)
  | .ok id =>
    if (database.table name).rows.contains id then
      (database, .error (.query ("duplicate primary key `" ++ id ++ "` in `" ++ name ++ "`")))
    else (database.put name id record, .ok id)

/-- Replace an existing record. -/
def update (database : Database) (name : String) (record : Json) :
    Database × Except ServiceError String :=
  match database.keyOf record with
  | .error failure => (database, .error failure)
  | .ok id =>
    if !database.tables.contains name then (database, .error (missingTable name))
    else if !(database.table name).rows.contains id then
      (database, .error (.query ("no record `" ++ id ++ "` in `" ++ name ++ "`")))
    else (database.put name id record, .ok id)

/-- Insert or replace a record; the table is created on first use. -/
def upsert (database : Database) (name : String) (record : Json) :
    Database × Except ServiceError String :=
  match database.keyOf record with
  | .error failure => (database, .error failure)
  | .ok id => (database.put name id record, .ok id)

/-- Delete a record; tell whether it existed. -/
def delete (database : Database) (name id : String) : Database × Bool :=
  let rows := (database.table name).rows
  match rows[id]? with
  | none => (database, false)
  | some old => (database.store name (rows.erase id) (some old) none, true)

/-- Make the next query fail. -/
def failNextQuery (database : Database) (failure : ServiceError) : Database :=
  { database with failQuery := some failure }

/-- Make the next opening of a changefeed fail. -/
def failNextSubscribe (database : Database) (failure : ServiceError) : Database :=
  { database with failSubscribe := some failure }

/-- Send a failure to the reader of every feed of a table and end the feeds. -/
def breakFeeds (database : Database) (name : String) (failure : ServiceError) : Database :=
  match database.tables[name]? with
  | none => database
  | some table =>
    { database with
      tables := database.tables.insert name { table with feeds := [] }
      feedRoom := table.feeds.foldl
        (fun room feed => (room.send feed.address [.error failure]).finish feed.address)
        database.feedRoom }

/-- The selection of a plan and its table. -/
def prepare (database : Database) (plan : Plan) : Except ServiceError (Selection × Table) :=
  match Selection.ofPlan? plan with
  | none => .error (.query "<regex>")
  | some selection =>
    match database.tables[plan.table]? with
    | none => .error (missingTable plan.table)
    | some table => .ok (selection, table)

/-- Run a plan once. -/
def query (database : Database) (plan : Plan) : Database × Except ServiceError (List Json) :=
  match database.failQuery with
  | some failure => ({ database with failQuery := none }, .error failure)
  | none =>
    match database.prepare plan with
    | .error failure => (database, .error failure)
    | .ok (selection, table) => (database, .ok (selection.run table.records))

/-- Open a changefeed; its reader finds the selected records between the two markers at once. -/
def subscribe (database : Database) (plan : Plan) : Database × Except ServiceError Nat :=
  match database.failSubscribe with
  | some failure => ({ database with failSubscribe := none }, .error failure)
  | none =>
    match database.prepare plan with
    | .error failure => (database, .error failure)
    | .ok (selection, table) =>
      let records := selection.run table.records
      let items := FeedEvent.initial :: (records.map .inserted ++ [.ready])
      let (address, feedRoom) := database.feedRoom.openBox (items.map .ok)
      let feed : Feed := ⟨address, selection, if selection.isWindowed then records else []⟩
      ({ database with
          tables := database.tables.insert plan.table { table with feeds := table.feeds ++ [feed] }
          feedRoom }, .ok address)

/-- What the reader of a changefeed finds, all of which it has read then, and whether the feed has
ended. -/
def readFeed (database : Database) (address : Nat) : List FeedItem × Bool × Database :=
  let (items, feedRoom) := database.feedRoom.readAll address
  (items, feedRoom.isFinished address, { database with feedRoom })

/-- Give up the reading of a changefeed. -/
def release (database : Database) (address : Nat) : Database :=
  { database with feedRoom := database.feedRoom.close address }

/-- A one-line summary of the store. -/
def summary (database : Database) : String :=
  "MemoryDatabase \x7b primary_key: " ++ Text.visible database.primaryKey ++ ", tables: [" ++
    ", ".intercalate (database.tableNames.map Text.visible) ++ "] \x7d"

end Database

end LiveSearch
