import LiveSearch.Proofs.Store.Tracking

/-! # What a store remembers

Whatever is asked of a store makes a remark on at most one row: a writer that has filed a record,
that this record is there now, and a deletion, that nothing is. A store that has come about from the
store without tables is a map from the keys of its tables to the records of the last remarks on
them, its answers depend on what is there, and what it rejects leaves it as it is
(`LiveSearch.Database.remembers`).
-/

namespace LiveSearch

/-- A remark on the row of a key: it is this record, or there is none. -/
structure Remark where
  table : String
  key : String
  record : Option Json

namespace Remark

/-- A remark is about the row of a key. -/
def isAbout (table key : String) (remark : Remark) : Bool :=
  remark.table == table && remark.key == key

theorem isAbout_iff {table key : String} {remark : Remark} :
    remark.isAbout table key = true ↔ remark.table = table ∧ remark.key = key := by
  rw [isAbout, Bool.and_eq_true, beq_iff_eq, beq_iff_eq]

/-- The record that the last remark on a row names. -/
def latest? (remarks : List Remark) (table key : String) : Option Json :=
  (remarks.reverse.find? (isAbout table key)).bind record

/-- One more remark counts for its own row only. -/
theorem latest?_concat (remarks : List Remark) (remark : Remark) (table key : String) :
    latest? (remarks ++ [remark]) table key =
      if remark.isAbout table key then remark.record else latest? remarks table key := by
  rw [latest?, List.reverse_append, List.reverse_singleton, List.singleton_append,
    List.find?_cons]
  cases remark.isAbout table key with
  | true => rfl
  | false => rfl

end Remark

namespace Request

/-- What is remarked when a writer has given its answer. -/
def filedRemark? (table : String) (record : Json) (answer : Except ServiceError String) :
    Option Remark :=
  answer.toOption.map fun key => ⟨table, key, some record⟩

/-- The remark of a request: a writer names the record that it has been given, unless it has refused
it, and a deletion no record. -/
def remark? (database : Database) : Request → Option Remark
  | insert name record => filedRemark? name record (database.insert name record).2
  | update name record => filedRemark? name record (database.update name record).2
  | upsert name record => filedRemark? name record (database.upsert name record).2
  | delete name id => some ⟨name, id, none⟩
  | _ => none

/-- A request is rejected if a writer refuses its record, or if there is nothing to delete. -/
def isRejected (database : Database) : Request → Bool
  | insert name record => !(database.insert name record).2.isOk
  | update name record => !(database.update name record).2.isOk
  | upsert name record => !(database.upsert name record).2.isOk
  | delete name id => !(database.delete name id).2
  | _ => false

end Request

namespace Database

/-- The remark of an act. -/
def Act.remark? (database : Database) : Act → Option Remark
  | request asked => asked.remark? database
  | _ => none

/-- The remarks of several acts, in their order. -/
def remarks (database : Database) : List Act → List Remark
  | [] => []
  | act :: rest => (act.remark? database).toList ++ (act.after database).remarks rest

theorem remarks_concat (database : Database) (acts : List Act) (act : Act) :
    database.remarks (acts ++ [act]) =
      database.remarks acts ++ (act.remark? (database.run acts)).toList := by
  induction acts generalizing database with
  | nil => exact List.append_nil _
  | cons first rest ih =>
      change (first.remark? database).toList ++ (first.after database).remarks (rest ++ [act]) = _
      rw [ih, ← List.append_assoc]
      rfl

section Steps

variable {database after : Database} {name key : String}

/-- Behind a remark the row that it is about is as it says, and all other rows are as before. -/
def Heeds (database : Database) (remark : Option Remark) (after : Database) : Prop :=
  ∀ table id, after.get? table id = remark.elim (database.get? table id) fun remark =>
    if remark.isAbout table id then remark.record else database.get? table id

private theorem heeds_silence
    (rows : ∀ table, (after.table table).rows = (database.table table).rows) :
    database.Heeds none after :=
  fun table id => congrArg (fun rows : Std.TreeMap String Json => rows[id]?) (rows table)

/-- A row that has been replaced or deleted is as is remarked. -/
private theorem heeds_stored {rows : Std.TreeMap String Json} {new : Option Json}
    (differ : DifferAt key (database.table name).rows rows) (is : rows[key]? = new) :
    database.Heeds (some ⟨name, key, new⟩) (database.stored name key rows new) := by
  intro table id
  rw [get?, get?, rows_stored, Option.elim_some, Remark.isAbout]
  by_cases here : name = table
  · subst here
    rw [if_pos rfl, beq_self_eq_true, Bool.true_and]
    by_cases own : key = id
    · subst own
      rw [beq_self_eq_true, if_pos rfl, is]
    · rw [beq_false_of_ne own, if_neg Bool.false_ne_true, differ id own]
  · rw [if_neg here, beq_false_of_ne here, Bool.false_and, if_neg Bool.false_ne_true]

private theorem heeds_filing {record : Json} {outcome : Database × Except ServiceError String}
    (filing : Filing database name record outcome) :
    database.Heeds (Request.filedRemark? name record outcome.2) outcome.1 := by
  cases filing with
  | refused failure => exact heeds_silence fun _ => rfl
  | filed key under =>
      refine heeds_stored (fun other different => ?_) Std.TreeMap.getElem?_insert_self
      rw [lookup_insert, if_neg different]

private theorem heeds_delete (database : Database) (name key : String) :
    database.Heeds (some ⟨name, key, none⟩) (database.delete name key).1 := by
  rw [delete]
  cases found : (database.table name).rows[key]? with
  | none =>
      -- There is no such row already.
      intro table id
      rw [Option.elim_some]
      cases about : Remark.isAbout table id ⟨name, key, none⟩ with
      | true =>
          obtain ⟨rfl, rfl⟩ := Remark.isAbout_iff.mp about
          exact found
      | false => rfl
  | some old =>
      dsimp only
      rw [← found]
      refine heeds_stored (fun other different => ?_) Std.TreeMap.getElem?_erase_self
      rw [lookup_erase, if_neg different]

/-- Every act makes the row that it remarks on what it says, and leaves all others as they are. -/
theorem Act.heeds (database : Database) (act : Act) :
    database.Heeds (act.remark? database) (act.after database) := by
  cases act with
  | request asked =>
      cases asked with
      | createTable name => exact heeds_silence (rows_createTable name)
      | insert name record => exact heeds_filing (insert_filing database name record)
      | update name record => exact heeds_filing (update_filing database name record)
      | upsert name record => exact heeds_filing (upsert_filing database name record)
      | delete name key => exact heeds_delete database name key
      | failQuery failure => exact heeds_silence fun _ => rfl
      | failSubscribe failure => exact heeds_silence fun _ => rfl
      | breakFeeds name failure => exact heeds_silence (rows_breakFeeds name failure)
  | query plan => exact heeds_silence (rows_query plan)
  | subscribe plan => exact heeds_silence (rows_subscribe plan)
  | read address => exact heeds_silence fun _ => rfl
  | readAll address => exact heeds_silence fun _ => rfl
  | release address => exact heeds_silence fun _ => rfl

/-- A row is what the last remark on it says. -/
theorem get?_run (field : String) (acts : List Act) (table key : String) :
    ((empty field).run acts).get? table key =
      Remark.latest? ((empty field).remarks acts) table key := by
  induction acts using List.reverseRecOn with
  | nil =>
      change (Database.table _ _).rows[key]? = none
      rw [Database.table, Database.empty, run, List.foldl_nil, Std.TreeMap.getElem?_emptyc]
      rfl
  | append_singleton acts act ih =>
      rw [run_concat, remarks_concat, Act.heeds, ih]
      cases act.remark? ((empty field).run acts) with
      | none => rw [Option.toList_none, List.append_nil, Option.elim_none]
      | some remark => rw [Option.toList_some, Option.elim_some, Remark.latest?_concat]

end Steps

section Rejection

variable {database : Database}

private theorem Filing.eq_of_rejected {name : String} {record : Json}
    {outcome : Database × Except ServiceError String} (filing : Filing database name record outcome)
    (rejected : (!outcome.2.isOk) = true) : outcome.1 = database := by
  cases filing with
  | refused failure => rfl
  | filed key under => exact absurd rejected Bool.false_ne_true

/-- A request that is rejected changes nothing. -/
theorem perform_of_isRejected {request : Request} (rejected : request.isRejected database = true) :
    request.perform database = database := by
  cases request with
  | insert name record => exact (insert_filing database name record).eq_of_rejected rejected
  | update name record => exact (update_filing database name record).eq_of_rejected rejected
  | upsert name record => exact (upsert_filing database name record).eq_of_rejected rejected
  | delete name key =>
      change (!(database.delete name key).2) = true at rejected
      change (database.delete name key).1 = database
      rw [delete] at rejected ⊢
      cases found : (database.table name).rows[key]? with
      | none => rfl
      | some old =>
          rw [found] at rejected
          exact absurd rejected Bool.false_ne_true
  | _ => exact absurd rejected Bool.false_ne_true

end Rejection

/-- A store with this key field that goes by what has been remarked. -/
structure Remembers (field : String) (remarks : List Remark) (database : Database) : Prop where
  /-- Every row is an object that is stored under its own key. -/
  filed : ∀ table key record, database.get? table key = some record →
    record.isObject = true ∧ keyOf? field record = some key
  /-- A row is the record of the last remark on it. -/
  latest : ∀ table key, database.get? table key = Remark.latest? remarks table key
  insert : ∀ table record key, (database.insert table record).2 = .ok key ↔
    (record.isObject = true ∧ keyOf? field record = some key) ∧ database.get? table key = none
  update : ∀ table record key, (database.update table record).2 = .ok key ↔
    (record.isObject = true ∧ keyOf? field record = some key) ∧ table ∈ database.tableNames ∧
      (database.get? table key).isSome = true
  upsert : ∀ table record key, (database.upsert table record).2 = .ok key ↔
    record.isObject = true ∧ keyOf? field record = some key
  delete : ∀ table key, (database.delete table key).2 = true ↔
    (database.get? table key).isSome = true
  /-- A request that is rejected leaves tables, rows, feeds and what waits for their readers as they
  are. -/
  rejected : ∀ request : Request, request.isRejected database = true →
    request.perform database = database

/-- **A store is a map under the keys of its records.** Whatever happens to a store that begins
without tables, its rows are filed under their own keys and are those of the last remarks on them,
its writers go by what is stored, and what they reject leaves no trace. -/
theorem remembers (field : String) (acts : List Act) :
    ((empty field).run acts).Remembers field ((empty field).remarks acts) := by
  have reached : ((empty field).run acts).IsReachable field := ⟨acts, rfl⟩
  obtain ⟨primaryKey, -, filed⟩ := reached.invariants
  generalize same : (empty field).run acts = database at primaryKey filed
  constructor
  · intro table key record found
    exact primaryKey ▸ Json.isFiled_iff.mp (filed table key record found)
  · intro table key
    rw [← same, get?_run]
  · intro table record key
    rw [insert_ok_iff, Json.isFiled_iff, primaryKey]
  · intro table record key
    rw [update_ok_iff, Json.isFiled_iff, primaryKey]
  · intro table record key
    rw [upsert_ok_iff, Json.isFiled_iff, primaryKey]
  · exact fun _ _ => delete_iff
  · exact fun _ => perform_of_isRejected

-- A number and a string with the same text are one key.
example : ((empty "id").run [
    .request (.insert "books" (.object [("id", .int 7)])),
    .request (.insert "books" (.object [("id", .string "7"), ("year", .int 1605)])),
    .request (.update "books" (.object [("id", .string "7"), ("year", .int 1615)]))]).get?
      "books" "7" = some (.object [("id", .string "7"), ("year", .int 1615)]) := rfl

end Database

end LiveSearch
