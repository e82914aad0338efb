import LiveSearch.Proofs.Query.StrictSorting
import LiveSearch.Proofs.Query.Transitivity
import LiveSearch.Proofs.Query.Trichotomy
import LiveSearch.Proofs.Store.Keys

/-! # Selections that rank rows

Rows are compared by the value at a path, in a direction, and then by their keys. Where no number in
a value at the path is a binary64 number, and the keys are strings and integers of which no two are
equal, this comparison is strict (`LiveSearch.isStrict_orderRecords`). So an ordered selection with
a limit keeps the least of the rows that match, and it does not depend on the order in which the
rows come (`LiveSearch.Selection.run_ranked`). With other numbers at the path the comparison is
still lawful where none of them is the rounding of two integers, and then all stable sorts select
the same rows (`LiveSearch.Selection.isDetermined_of_sortsBy`).
-/

namespace LiveSearch

namespace Number

/-- Whether a number is an integer. -/
def isInteger : Number → Bool
  | integer _ => true
  | float _ => false

/-- Integers meet no number that two of them are rounded to. -/
theorem roundsApart_isInteger : RoundsApart fun number => number.isInteger = true :=
  fun _ _ _ _ _ rounded => absurd rounded Bool.false_ne_true

end Number

namespace Json

/-- Whether every number that a comparison can reach is an integer. -/
def isWhole (value : Json) : Bool := value.numbers.all Number.isInteger

/-- Whether a value is a string or an integer. -/
def isExactKey : Json → Bool
  | string _ => true
  | number value => value.isInteger
  | _ => false

/-- A record that can be ranked: its key is a string or an integer, and at the path it has a value
whose numbers are integers, or none. -/
def IsRankable (path : Path) (field : String) (record : Json) : Prop :=
  (record.field? field).any isExactKey = true ∧ (path.resolve? record).all isWhole = true

instance (path : Path) (field : String) (record : Json) :
    Decidable (record.IsRankable path field) :=
  inferInstanceAs (Decidable (_ ∧ _))

theorem IsRankable.keyed {path : Path} {field : String} {record : Json}
    (rankable : record.IsRankable path field) :
    ∃ key, record.field? field = some key ∧ key.isExactKey = true :=
  (Option.any_eq_true _ _).mp rankable.1

theorem isWhole_of_isExactKey {key : Json} (exact : key.isExactKey = true) :
    key.isWhole = true := by
  cases key with
  | string text => rfl
  | number value =>
      rw [isWhole, numbers, List.all_cons, List.all_nil, Bool.and_true]
      exact exact
  | _ => exact absurd exact Bool.false_ne_true

theorem hasObject_of_isExactKey {key : Json} (exact : key.isExactKey = true) :
    key.hasObject = false := by
  cases key with
  | string text => rfl
  | number value => rfl
  | _ => exact absurd exact Bool.false_ne_true

section Keys

variable {left right : Json} (exact : left.isExactKey = true) (further : right.isExactKey = true)

include exact further

/-- Strings and integers are equal if they are equal up to numbers, and no integers are near each
other. -/
private theorem eq_of_equalUpTo {near : Number → Number → Prop}
    (apart : ∀ value other : Int, ¬ near (.integer value) (.integer other))
    (equal : EqualUpTo near left right) : left = right := by
  cases left with
  | string text =>
      cases right with
      | string other => exact congrArg string equal
      | _ => exact equal.elim
  | number value =>
      cases right with
      | number other =>
          cases value with
          | float value => exact absurd exact Bool.false_ne_true
          | integer value =>
              cases other with
              | float other => exact absurd further Bool.false_ne_true
              | integer other => rw [equal.resolve_right (apart value other)]
      | _ => exact equal.elim
  | _ => exact absurd exact Bool.false_ne_true

/-- Strings and integers compare as equal only if they are. -/
theorem eq_of_order_exactKey (equal : left.order right = .eq) : left = right :=
  eq_of_equalUpTo exact further (fun _ _ => id)
    ((order_eq_iff (hasObject_of_isExactKey exact)).mp equal)

/-- Strings and integers have the same structure only if they are equal. -/
theorem eq_of_same_exactKey (equal : left.same right = true) : left = right :=
  eq_of_equalUpTo exact further (fun _ _ => id)
    ((same_iff (hasObject_of_isExactKey exact)).mp equal)

end Keys

end Json

open Sorting

section Comparing

variable {values : List Json} {optional : List (Option Json)} {rows : List Json} {path : Path}
  {field : String} {allowed : Number → Prop}

/-- Values compare lawfully where no number in them is the rounding of two integers in them. -/
theorem isLawful_order (apart : Number.RoundsApart allowed)
    (known : ∀ value ∈ values, ∀ number ∈ value.numbers, allowed number) :
    IsLawful Json.order values where
  swap := Json.order_swap
  trans first one second two third three :=
    Json.order_trans apart (known first one) (known second two) (known third three)

/-- So do values that may be missing. -/
theorem isLawful_orderOptional (apart : Number.RoundsApart allowed)
    (known : ∀ value, some value ∈ optional → ∀ number ∈ value.numbers, allowed number) :
    IsLawful orderOptional optional where
  swap := orderOptional_swap
  trans first one second two third three low high := by
    have present {value : Json} (member : some value ∈ optional) :
        value ∈ optional.filterMap id :=
      List.mem_filterMap.mpr ⟨some value, member, rfl⟩
    have lawful : IsLawful Json.order (optional.filterMap id) := by
      apply isLawful_order apart
      intro value member
      obtain ⟨_, inside, rfl⟩ := List.mem_filterMap.mp member
      exact known value inside
    -- A missing value is not behind any, and only a missing one is not behind it.
    cases first with
    | none =>
        cases third with
        | none => exact (by decide : Ordering.eq ≠ .gt)
        | some third => exact (by decide : Ordering.lt ≠ .gt)
    | some first =>
        cases second with
        | none => exact absurd rfl low
        | some second =>
            cases third with
            | none => exact absurd rfl high
            | some third =>
                exact lawful.trans first (present one) second (present two) third (present three)
                  low high

/-- A direction does not matter for the laws. -/
theorem Sorting.IsLawful.apply {α : Type} {order : α → α → Ordering} {items : List α}
    (lawful : IsLawful order items) (direction : Direction) :
    IsLawful (fun left right => direction.apply (order left right)) items := by
  cases direction with
  | ascending => exact lawful
  | descending => exact lawful.opposite

/-- Rows compare lawfully where no number in their values at the path, and none in their keys, is
the rounding of two integers there. -/
theorem isLawful_orderRecords {allowedKey : Number → Prop} (apart : Number.RoundsApart allowed)
    (apartKeys : Number.RoundsApart allowedKey)
    (values : ∀ row ∈ rows, ∀ value, path.resolve? row = some value →
      ∀ number ∈ value.numbers, allowed number)
    (keys : ∀ row ∈ rows, ∀ key, row.field? field = some key →
      ∀ number ∈ key.numbers, allowedKey number) (direction : Direction) :
    IsLawful (orderRecords path direction (some field)) rows := by
  have byPath : IsLawful orderOptional (rows.map path.resolve?) := by
    apply isLawful_orderOptional apart
    intro value member
    obtain ⟨row, known, found⟩ := List.mem_map.mp member
    exact values row known value found
  have byKey : IsLawful Json.order (rows.map fun row => (row.field? field).getD .null) := by
    apply isLawful_order apartKeys
    intro value member
    obtain ⟨row, known, rfl⟩ := List.mem_map.mp member
    cases found : row.field? field with
    | none => exact fun number none => absurd none List.not_mem_nil
    | some key => exact keys row known key found
  exact (byPath.comap.apply direction).andThen byKey.comap

/-- Rows that can be ranked, no two of them with the same key, compare strictly. -/
theorem isStrict_orderRecords (rankable : ∀ row ∈ rows, row.IsRankable path field)
    (distinct : (rows.map (Json.field? field)).Nodup) (direction : Direction) :
    IsStrict (orderRecords path direction (some field)) rows := by
  have integers {value : Json} (whole : value.isWhole = true) :
      ∀ number ∈ value.numbers, number.isInteger = true := List.all_eq_true.mp whole
  refine ⟨isLawful_orderRecords Number.roundsApart_isInteger Number.roundsApart_isInteger
    (fun row known value found => integers ?_) (fun row known key found => integers ?_) direction,
    ?_⟩
  · have whole := (rankable row known).2
    rw [found, Option.all_some] at whole
    exact whole
  · obtain ⟨_, same, exact⟩ := (rankable row known).keyed
    obtain rfl := Option.some.inj (found.symm.trans same)
    exact Json.isWhole_of_isExactKey exact
  apply (List.pairwise_map.mp distinct).imp_of_mem
  intro left right one two differ equal
  obtain ⟨key, found, exact⟩ := (rankable left one).keyed
  obtain ⟨other, further, fine⟩ := (rankable right two).keyed
  have keys := (Ordering.then_eq_eq.mp equal).2
  rw [orderByKey, found, further] at keys
  apply differ
  rw [found, further, Json.eq_of_order_exactKey exact fine keys]

end Comparing

namespace Json

end Json

namespace Selection

variable {selection : Selection} {path : Path} {direction : Direction} {field : String}
  {count : Nat} {rows : List Json}

/-- What an ordered selection with a limit picks. -/
theorem picked_eq (ordered : selection.order = some (path, direction))
    (plucks : selection.primaryKey = some field) (limited : selection.limit = some count)
    (rows : List Json) : selection.picked rows =
      (stable (fun left right => orderRecords path direction (some field) left right == .lt)
        (rows.filter selection.accepts)).take count := by
  rw [picked, cut, sort, ordered, plucks, limited]

/-- A selection compares the rows that match strictly if it does so for all rows. -/
theorem isStrict_filter (rankable : ∀ row ∈ rows, row.IsRankable path field)
    (distinct : (rows.map (Json.field? field)).Nodup) (direction : Direction) :
    IsStrict (orderRecords path direction (some field)) (rows.filter selection.accepts) :=
  (isStrict_orderRecords rankable distinct direction).sublist List.filter_sublist

/-- **Ordered selections with a limit rank the rows.** If the keys of the rows are strings and
integers, no two of them equal, and no value at the path has a binary64 number in it (but for those
in objects, which do not differ), then the rows that match are cut into as many as the limit allows
and the rest: together they ascend, and each of the rest compares as greater than each one kept.
What is kept is projected, each record once. The order in which the rows come does not matter. -/
theorem run_ranked (ordered : selection.order = some (path, direction))
    (plucks : selection.primaryKey = some field) (limited : selection.limit = some count)
    (rankable : ∀ row ∈ rows, row.IsRankable path field)
    (distinct : (rows.map (Json.field? field)).Nodup) :
    ∃ kept rest, IsTop (orderRecords path direction (some field)) count
        (rows.filter selection.accepts) kept rest ∧
      selection.run rows = kept.map selection.project ∧ (selection.run rows).Nodup ∧
      ∀ others : List Json, others.Perm rows → selection.run others = selection.run rows := by
  have strict : IsStrict (orderRecords path direction (some field))
      (rows.filter selection.accepts) := isStrict_filter rankable distinct direction
  have run_eq (rows : List Json) : selection.run rows =
      (selection.picked rows).map selection.project := rfl
  refine ⟨_, _, strict.isTop_take count, ?_, ?_, ?_⟩
  · rw [run_eq, picked_eq ordered plucks limited]
  · have keys (row : Json) : (selection.project row).field? field = row.field? field :=
      row.field?_project plucks
    apply List.Nodup.of_map (Json.field? field)
    have same : Json.field? field ∘ selection.project = Json.field? field := funext keys
    rw [run_eq, List.map_map, same]
    exact selection.nodup_map_picked distinct
  · intro others same
    rw [run_eq, run_eq, picked_eq ordered plucks limited, picked_eq ordered plucks limited,
      strict.stable_congr (same.filter selection.accepts)]

/-- The last two editions, by their years. -/
def lastEditions : Selection :=
  ⟨"editions", [], some (Path.ofText "year", .descending), some "ds_id", some 2⟩

/-- Four editions: two of the same year, and one of which the year is not known. -/
def editions : List Json :=
  [.object [("ds_id", .string "b"), ("year", .nat 1605)], .object [("ds_id", .nat 2)],
    .object [("ds_id", .string "a"), ("year", .nat 1605)],
    .object [("ds_id", .nat 7), ("year", .nat 1615)]]

/-- The last edition and the one before it, which is the first by its key of those of its year,
whether the editions come in this order or in the opposite one. -/
theorem run_ranked_editions :
    (∀ row ∈ editions, row.IsRankable (Path.ofText "year") "ds_id") ∧
    (editions.map (Json.field? "ds_id")).Nodup ∧
    lastEditions.run editions = [.object [("ds_id", .nat 7)], .object [("ds_id", .string "a")]] ∧
    lastEditions.run editions.reverse = lastEditions.run editions := by
  have rankable : ∀ row ∈ editions, row.IsRankable (Path.ofText "year") "ds_id" := by
    decide +kernel
  have distinct : (editions.map (Json.field? "ds_id")).Nodup := by
    simp [editions, Json.field?, Json.lookup, Json.nat]
  obtain ⟨_, _, _, _, _, any⟩ :=
    run_ranked (rfl : lastEditions.order = some _) rfl rfl rankable distinct
  exact ⟨rankable, distinct, rfl, any _ editions.reverse_perm⟩

end Selection

end LiveSearch
