import LiveSearch.Proofs.Map
import LiveSearch.Proofs.Store.Keys
import LiveSearch.Store.Database

/-! # Writing records

Whatever a writer is given, it refuses the record and leaves the store alone, or it puts the record
under its own key (`LiveSearch.Database.Filing`). Which of the two it does depends on the key of the
record and on the row that is found there (`LiveSearch.Database.insert_ok_iff`,
`LiveSearch.Database.update_ok_iff`, `LiveSearch.Database.upsert_ok_iff`).
-/

namespace LiveSearch

namespace Database

variable {database : Database} {name id : String} {record : Json}

/-- A store gives a record the key under which the record is filed. -/
theorem keyOf_eq_ok_iff :
    database.keyOf record = .ok id ↔ record.IsFiled database.primaryKey id := by
  rw [Json.isFiled_iff, keyOf]
  cases record.isObject with
  | false => exact iff_of_false nofun fun ⟨object, _⟩ => absurd object Bool.false_ne_true
  | true =>
      cases keyOf? database.primaryKey record with
      | none => exact iff_of_false nofun fun ⟨_, listed⟩ => nomatch listed
      | some key => simp

/-- What becomes of a record that a writer is given: it is refused, and nothing changes, or it is
put under its key, which is the answer. -/
inductive Filing (database : Database) (name : String) (record : Json) :
    Database × Except ServiceError String → Prop
  | refused (failure : ServiceError) : Filing database name record (database, .error failure)
  | filed (key : String) (under : record.IsFiled database.primaryKey key) :
      Filing database name record (database.put name key record, .ok key)

section Writers

variable (database) (name) (record)

theorem insert_filing : Filing database name record (database.insert name record) := by
  unfold Database.insert
  cases accepted : database.keyOf record with
  | error failure => exact .refused failure
  | ok key =>
      dsimp only
      split
      · exact .refused _
      · exact .filed key (keyOf_eq_ok_iff.mp accepted)

theorem update_filing : Filing database name record (database.update name record) := by
  unfold Database.update
  cases accepted : database.keyOf record with
  | error failure => exact .refused failure
  | ok key =>
      dsimp only
      split
      · exact .refused _
      · split
        · exact .refused _
        · exact .filed key (keyOf_eq_ok_iff.mp accepted)

theorem upsert_filing : Filing database name record (database.upsert name record) := by
  unfold Database.upsert
  cases accepted : database.keyOf record with
  | error failure => exact .refused failure
  | ok key => exact .filed key (keyOf_eq_ok_iff.mp accepted)

end Writers

section Conditions

/-- A record that is refused for its key is filed under none. -/
theorem not_isFiled {failure : ServiceError}
    (refused : database.keyOf record = .error failure) :
    ¬ record.IsFiled database.primaryKey id :=
  fun filed => nomatch refused.symm.trans (keyOf_eq_ok_iff.mpr filed)

/-- A record is inserted exactly if its key is free. -/
theorem insert_ok_iff : (database.insert name record).2 = .ok id ↔
    record.IsFiled database.primaryKey id ∧ database.get? name id = none := by
  unfold Database.insert
  rw [get?]
  cases accepted : database.keyOf record with
  | error failure => exact iff_of_false nofun fun ⟨filed, _⟩ => not_isFiled accepted filed
  | ok key =>
      rw [← keyOf_eq_ok_iff, accepted]
      dsimp only
      rw [Std.TreeMap.contains_eq_isSome_getElem?]
      cases row : (database.table name).rows[key]? with
      | some old =>
          refine iff_of_false nofun fun ⟨same, free⟩ => ?_
          obtain rfl := Except.ok.inj same
          exact nomatch row.symm.trans free
      | none => exact ⟨fun same => ⟨same, Except.ok.inj same ▸ row⟩, And.left⟩

/-- A record is replaced exactly if its table exists and its key is taken. -/
theorem update_ok_iff : (database.update name record).2 = .ok id ↔
    record.IsFiled database.primaryKey id ∧ name ∈ database.tableNames ∧
      (database.get? name id).isSome = true := by
  unfold Database.update
  rw [get?, tableNames, Std.TreeMap.mem_keys]
  cases accepted : database.keyOf record with
  | error failure => exact iff_of_false nofun fun ⟨filed, _⟩ => not_isFiled accepted filed
  | ok key =>
      rw [← keyOf_eq_ok_iff, accepted, ← Std.TreeMap.contains_iff_mem]
      dsimp only
      cases database.tables.contains name with
      | false => exact iff_of_false nofun fun ⟨_, stands, _⟩ => absurd stands Bool.false_ne_true
      | true =>
          rw [Std.TreeMap.contains_eq_isSome_getElem?]
          cases row : (database.table name).rows[key]? with
          | some old =>
              exact ⟨fun same => ⟨same, rfl, by rw [← Except.ok.inj same, row, Option.isSome_some]⟩,
                And.left⟩
          | none =>
              refine iff_of_false nofun fun ⟨same, _, taken⟩ => ?_
              rw [← Except.ok.inj same, row] at taken
              exact nomatch taken

/-- A record is inserted or replaced exactly if it has a key. -/
theorem upsert_ok_iff :
    (database.upsert name record).2 = .ok id ↔ record.IsFiled database.primaryKey id := by
  unfold Database.upsert
  cases accepted : database.keyOf record with
  | error failure => exact iff_of_false nofun (not_isFiled accepted)
  | ok key => rw [← keyOf_eq_ok_iff, accepted]

/-- A record is deleted exactly if its key is taken. -/
theorem delete_iff :
    (database.delete name id).2 = true ↔ (database.get? name id).isSome = true := by
  rw [delete, get?]
  cases (database.table name).rows[id]? with
  | none => exact iff_of_false nofun nofun
  | some old => exact iff_of_true rfl rfl

end Conditions

end Database

end LiveSearch
