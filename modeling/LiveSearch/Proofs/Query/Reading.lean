import LiveSearch.Proofs.Json
import LiveSearch.Proofs.Query.Grammar
import LiveSearch.Proofs.Text.Blank

/-! # Reading subscription names

The reader of subscription names obeys their grammar. Each of its parts obeys its rules, and so does
the whole of them (`LiveSearch.Descriptor.ofJson_obeyed`). It returns a query exactly if the name
spells it, and reports a fault exactly if this is the fault of the first rule that the name breaks
(`LiveSearch.Descriptor.ofName_grammar`).
-/

namespace LiveSearch

open Rule (Obeyed)

namespace Operator

theorem ofName?_name (operator : Operator) : ofName? operator.name = some operator := by
  cases operator with
  | _ => decide

/-- The operator of a name is the one that has this name. -/
theorem ofName?_eq_some_iff {text : String} {operator : Operator} :
    ofName? text = some operator ↔ text = operator.name := by
  constructor
  · intro found
    have same := List.find?_some found
    exact (of_decide_eq_true same).symm
  · rintro rfl
    exact operator.ofName?_name

end Operator

namespace Path

/-- A path is empty if it has no segment. -/
theorem isEmpty_iff {path : Path} : path.isEmpty = true ↔ ¬ 1 ≤ path.depth := by
  rw [isEmpty, List.isEmpty_iff_length_eq_zero, depth, Nat.not_le, Nat.lt_one_iff]

end Path

namespace Descriptor

section Readers

variable {query : Json}

theorem parameter?_eq_some_iff {parameter : String} {value : Json} :
    parameter? parameter query = some value ↔ Gives query parameter value := by
  unfold parameter? Gives
  cases query.field? parameter with
  | none => simp only [reduceCtorEq, false_and]
  | some given =>
      cases given with
      | null =>
          refine iff_of_false nofun ?_
          rintro ⟨same, other⟩
          exact other (Option.some.inj same).symm
      | _ =>
          refine ⟨fun same => ⟨same, ?_⟩, And.left⟩
          rw [← Option.some.inj same]
          exact nofun

theorem isSome_parameter?_iff {parameter : String} :
    (parameter? parameter query).isSome = true ↔ ∃ value, Gives query parameter value := by
  simp only [← parameter?_eq_some_iff, Option.isSome_iff_exists]

variable (query)

/-- The table is read. -/
theorem readTable_obeyed :
    Obeyed [⟨∃ table, Gives query "table" (.string table) ∧ table ≠ "", .missingTable⟩]
      (readTable query) fun table => Gives query "table" (.string table) ∧ table ≠ "" := by
  unfold readTable
  simp only [← parameter?_eq_some_iff]
  refine .single (fun table => ?_) (fun fault => ?_) Iff.rfl
  · cases parameter? "table" query with
    | none => simp
    | some value =>
        cases value with
        | string text =>
            by_cases empty : text = ""
            · simp only [empty, ↓reduceIte]
              refine iff_of_false nofun ?_
              rintro ⟨same, named⟩
              exact named (Json.string.inj (Option.some.inj same)).symm
            · simp only [empty, ↓reduceIte, Except.ok.injEq, Option.some.injEq, Json.string.injEq]
              exact ⟨fun same => ⟨same, same ▸ empty⟩, And.left⟩
        | _ => simp
  · split
    · split
      · exact Except.error.inj
      · exact nofun
    · exact Except.error.inj

/-- The conditions are taken as they are written. -/
theorem readConditions_obeyed :
    Obeyed [⟨∃ conditions, Gives query "query" (.array conditions), .missingQuery⟩]
      (readConditions query) fun conditions => Gives query "query" (.array conditions) := by
  unfold readConditions
  simp only [← parameter?_eq_some_iff]
  refine .single (fun conditions => ?_) (fun fault => ?_) Iff.rfl
  · cases parameter? "query" query with
    | none => simp
    | some value =>
        cases value with
        | _ => simp
  · split
    · exact nofun
    · exact Except.error.inj

theorem checkWindow_obeyed :
    Obeyed [⟨(∃ value, Gives query "order" value) ↔ ∃ value, Gives query "limit" value,
      .orderLimitMismatch⟩] (checkWindow query) fun _ =>
        ((∃ value, Gives query "order" value) ↔ ∃ value, Gives query "limit" value) := by
  unfold checkWindow
  simp only [← isSome_parameter?_iff]
  refine .single (fun value => ?_) (fun fault => ?_) (by simp)
  · split
    · rename_i same
      simp [same]
    · rename_i different
      rw [Bool.eq_iff_iff] at different
      simp [different]
  · split
    · exact nofun
    · exact Except.error.inj

/-- A parameter that can be absent is read. -/
private theorem means_obeyed {α : Type} {parameter : String} {meaning : Json → α → Prop}
    {read : Except NameFault α} {default : α}
    (absent : parameter? parameter query = none → read = .ok default)
    (given : ∀ value, parameter? parameter query = some value →
      ∀ result, read = .ok result ↔ meaning value result)
    (only : ∀ fault, read = .error fault → .invalidParameter parameter = fault) :
    Obeyed [parameterRule query parameter meaning] read
      (Means query parameter meaning default) := by
  unfold parameterRule Means
  simp only [← parameter?_eq_some_iff]
  cases found : parameter? parameter query with
  | none =>
      refine .single (fun result => ?_) only ?_
      · rw [absent found]
        simp [eq_comm]
      · simp
  | some value =>
      refine .single (fun result => ?_) only ?_
      · rw [given value found]
        simp
      · simp

theorem readOrder_obeyed : Obeyed [parameterRule query "order" IsOrder] (readOrder query)
    (Means query "order" IsOrder none) := by
  refine means_obeyed query (fun absent => ?_) (fun value given order => ?_) fun fault => ?_
  · rw [readOrder, absent]
  · rw [readOrder, given]
    cases value with
    | string text =>
        by_cases empty : (Path.ofText text).isEmpty = true
        · simp only [empty, ↓reduceIte]
          refine iff_of_false nofun ?_
          rintro ⟨_, same, segments, _⟩
          exact Path.isEmpty_iff.mp empty (Json.string.inj same ▸ segments)
        · simp only [empty, Bool.false_eq_true, ↓reduceIte, Except.ok.injEq]
          refine ⟨fun same => ⟨text, rfl, ?_, same.symm⟩, ?_⟩
          · exact Classical.not_not.mp (mt Path.isEmpty_iff.mpr empty)
          · rintro ⟨_, same, _, rfl⟩
            rw [Json.string.inj same]
    | _ => simp [IsOrder]
  · unfold readOrder
    split
    · exact nofun
    · split
      · exact Except.error.inj
      · exact nofun
    · exact Except.error.inj

theorem readLimit_obeyed (fits : query.FitsWords) :
    Obeyed [parameterRule query "limit" IsLimit] (readLimit query)
      (Means query "limit" IsLimit none) := by
  refine means_obeyed query (fun absent => ?_) (fun value given limit => ?_) fun fault => ?_
  · rw [readLimit, absent]
  · have exact := fits.field? (parameter?_eq_some_iff.mp given).1
    rw [readLimit, given]
    cases value with
    | number number =>
        cases number with
        | float value => simp [IsLimit, Json.nat]
        | integer value =>
            have small : value < 0x10000000000000000 := exact.lt_of_int
            by_cases positive : 0 < value
            · simp only [positive, ↓reduceIte, Except.ok.injEq]
              constructor
              · rintro rfl
                refine ⟨value.toNat, ?_, by omega, by omega, rfl⟩
                rw [Json.nat, Int.toNat_of_nonneg (Int.le_of_lt positive)]
              · rintro ⟨count, same, _, _, rfl⟩
                obtain rfl := Number.integer.inj (Json.number.inj same)
                rw [Int.toNat_natCast]
            · simp only [positive, ↓reduceIte]
              refine iff_of_false nofun ?_
              rintro ⟨count, same, least, _⟩
              obtain rfl := Number.integer.inj (Json.number.inj same)
              omega
    | _ => simp [IsLimit, Json.nat]
  · unfold readLimit
    split
    · exact nofun
    · split
      · exact nofun
      · exact Except.error.inj
    · exact Except.error.inj

theorem readDescending_obeyed : Obeyed [parameterRule query "desc" IsDirection]
    (readDescending query) (Means query "desc" IsDirection false) := by
  refine means_obeyed query (fun absent => ?_) (fun value given descending => ?_) fun fault => ?_
  · rw [readDescending, absent]
  · rw [readDescending, given]
    cases value with
    | _ => simp [IsDirection]
  · unfold readDescending
    split
    · exact nofun
    · exact nofun
    · exact Except.error.inj

variable {query} (index : Nat)

theorem readOperator_obeyed (operator : Json) :
    Obeyed [⟨∃ known : Operator, operator = .string known.name,
      .unknownOperator operator.shown⟩] (readOperator operator) fun known =>
        operator = .string known.name := by
  refine .single (fun known => ?_) (fun fault => ?_) Iff.rfl
  · cases operator with
    | string text =>
        rw [Json.string.injEq, ← Operator.ofName?_eq_some_iff, readOperator]
        cases Operator.ofName? text with
        | _ => simp
    | _ => simp [readOperator]
  · unfold readOperator
    split
    · split
      · exact nofun
      · exact Except.error.inj
    · rename_i other
      cases operator with
      | string text => exact absurd rfl (other text)
      | _ => exact Except.error.inj

theorem checkLiteral_obeyed (operator : Operator) (value : Json) :
    Obeyed (literalRules index (.string operator.name) value) (checkLiteral index operator value)
      fun _ => Suits operator value := by
  unfold literalRules
  -- The operator tells which of the rules say anything, and the literal whether they hold.
  cases operator with
  | member =>
      cases value with
      | array values =>
          by_cases many : maxMembers < values.length
          · have broken : ¬ values.length ≤ 1000 := Nat.not_le.mpr many
            refine ⟨fun _ => ?_, fun fault => ?_⟩
            · simp [checkLiteral, many, Suits, broken]
            · simp [checkLiteral, many, Operator.name, broken]
          · have holds : values.length ≤ 1000 := Nat.not_lt.mp many
            refine ⟨fun _ => ?_, fun fault => ?_⟩
            · simp [checkLiteral, many, Suits, holds]
            · simp [checkLiteral, many, Operator.name, holds]
      | _ =>
          refine ⟨fun _ => ?_, fun fault => ?_⟩
          · simp [checkLiteral, Suits]
          · simp [checkLiteral, Operator.name]
  | matching =>
      cases value with
      | string pattern =>
          cases compiled : Pattern.compile? pattern with
          | _ =>
              refine ⟨fun _ => ?_, fun fault => ?_⟩
              · simp [checkLiteral, Suits, compiled]
              · simp [checkLiteral, Operator.name, Json.shown, compiled]
      | _ =>
          refine ⟨fun _ => ?_, fun fault => ?_⟩
          · simp [checkLiteral, Suits]
          · simp [checkLiteral, Operator.name, Json.shown]
  | _ =>
      refine ⟨fun _ => ?_, fun fault => ?_⟩
      · simp [checkLiteral, Suits]
      · simp [checkLiteral, Operator.name]

theorem readCondition_obeyed (written : Json) :
    Obeyed (conditionRules index written) (readCondition index written) (IsCondition written) := by
  unfold conditionRules
  split
  · rename_i field operator value
    refine .guard ?_ (fun condition is => ?_) fun path => ?_
    · rw [Bool.or_eq_true, Path.isEmpty_iff, decide_eq_true_eq, maxPathDepth]
      omega
    · have parts := is.parts
      simp only [Json.array.injEq, List.cons.injEq, Json.string.injEq] at parts
      rw [parts.1]
      exact is.path
    · have onward (known : Operator) (same : operator = .string known.name) :
          Obeyed (literalRules index operator value)
            (checkLiteral index known value >>= fun _ => .ok (Condition.mk field known value))
            fun condition => ∃ _ : Unit, Suits known value ∧
              condition = ⟨field, known, value⟩ := by
        rw [same]
        exact (checkLiteral_obeyed index known value).map fun _ => Condition.mk field known value
      refine ((readOperator_obeyed operator).bind onward).congr fun condition => ?_
      constructor
      · rintro ⟨known, rfl, _, suits, rfl⟩
        exact ⟨rfl, path, suits⟩
      · rintro ⟨parts, _, suits⟩
        obtain ⟨_, known, _⟩ := condition
        simp only [Json.array.injEq, List.cons.injEq, Json.string.injEq, and_true] at parts
        obtain ⟨rfl, rfl, rfl⟩ := parts
        exact ⟨known, rfl, (), suits, rfl⟩
  · rename_i malformed
    have unread : readCondition index written = .error (.malformedCondition index) := by
      unfold readCondition
      split
      · exact absurd rfl (malformed _ _ _)
      · rfl
    rw [unread]
    refine .single (fun condition => ?_) (fun _ => Except.error.inj) ?_
    · simp only [reduceCtorEq, false_iff]
      exact fun is => malformed _ _ _ is.parts
    · refine iff_of_false id ?_
      rintro ⟨condition, is⟩
      exact malformed _ _ _ is.parts

theorem readConditionList_obeyed (written : List Json) :
    Obeyed (conditionListRules index written) (readConditionList index written)
      (List.Forall₂ IsCondition written) := by
  induction written generalizing index with
  | nil =>
      refine (Obeyed.pure []).congr fun conditions => ?_
      rw [List.forall₂_nil_left_iff]
  | cons first rest ih =>
      rw [conditionListRules, List.zipIdx_cons, List.flatMap_cons]
      refine ((readCondition_obeyed index first).bind fun condition _ =>
        (ih (index + 1)).map (condition :: ·)).congr fun conditions => ?_
      constructor
      · rintro ⟨condition, is, others, are, rfl⟩
        exact .cons is are
      · intro are
        cases are with
        | cons is are => exact ⟨_, is, _, are, rfl⟩

/-- The conditions that a query gives are the ones that it writes. -/
theorem written_eq {conditions : List Json} (given : Gives query "query" (.array conditions)) :
    written query = conditions := by
  unfold written
  rw [given.1]

/-- The last part of a query is its conditions, of which there can be too many. -/
private theorem readRest_obeyed {conditions : List Json}
    (given : Gives query "query" (.array conditions)) (form : List Condition → Descriptor) :
    Obeyed (⟨(written query).length ≤ 64, .invalidParameter "query"⟩ ::
        conditionListRules 0 (written query))
      (if maxConditions < conditions.length then .error (.invalidParameter "query")
        else readConditionList 0 conditions >>= fun listed => .ok (form listed))
      fun descriptor => conditions.length ≤ 64 ∧
        ∃ listed, List.Forall₂ IsCondition conditions listed ∧ descriptor = form listed := by
  rw [written_eq given]
  refine .guard Nat.not_lt.symm (fun _ => And.left) fun few => ?_
  refine ((readConditionList_obeyed 0 conditions).map form).congr fun descriptor => ?_
  exact (and_iff_right few).symm

/-- A JSON object is read as the query that it states. -/
theorem ofJson_obeyed {fields : List (String × Json)} (fits : (Json.object fields).FitsWords) :
    Obeyed (rules (.object fields)) (ofJson (.object fields)) (States (.object fields)) := by
  unfold ofJson
  simp only [Json.isObject, Bool.not_true, Bool.false_eq_true, ↓reduceIte]
  generalize Json.object fields = query at *
  refine ((readTable_obeyed query).bind fun table _ => (readConditions_obeyed query).bind
    fun conditions given => (checkWindow_obeyed query).bind fun _ _ =>
    (readOrder_obeyed query).bind fun order _ => (readLimit_obeyed query fits).bind fun limit _ =>
    (readDescending_obeyed query).bind fun descending _ =>
    readRest_obeyed given fun listed => ⟨table, listed, order, descending, limit⟩).congr
      fun descriptor => ?_
  constructor
  · rintro ⟨table, named, conditions, given, _, together, order, ordered, limit, limited,
      descending, directed, few, listed, are, rfl⟩
    exact ⟨named, ⟨conditions, given, few, are⟩, together, ordered, limited, directed⟩
  · rintro ⟨named, ⟨conditions, given, few, are⟩, together, ordered, limited, directed⟩
    exact ⟨_, named, conditions, given, (), together, _, ordered, _, limited, _, directed, few, _,
      are, rfl⟩

end Readers

section Names

variable {name : String} {query : Json}

/-- The text behind the first question mark of a name is JSON for a value. -/
theorem encodes_iff : Encodes name query ↔
    ∃ text, encoded? name = some text ∧ Json.parse? text = some query := by
  unfold Encodes encoded?
  constructor
  · rintro ⟨before, text, same, fresh, read⟩
    have split : Text.splitFirst? (· = '?') name.toList = some (before, text) :=
      Text.splitFirst?_eq_some_iff.mpr ⟨'?', same, decide_eq_true rfl, fun char member =>
        decide_eq_false fun equal => fresh (equal ▸ member)⟩
    rw [split]
    exact ⟨String.ofList text, rfl, read⟩
  · rintro ⟨text, encoded, read⟩
    obtain ⟨⟨before, text⟩, split, rfl⟩ := Option.map_eq_some_iff.mp encoded
    obtain ⟨char, same, mark, fresh⟩ := Text.splitFirst?_eq_some_iff.mp split
    obtain rfl := of_decide_eq_true mark
    exact ⟨before, text, same, fun member => of_decide_eq_false (fresh '?' member) rfl, read⟩

theorem encoded?_eq_none_iff : encoded? name = none ↔ '?' ∉ name.toList := by
  rw [encoded?, Option.map_eq_none_iff, Text.splitFirst?_eq_none_iff]
  simp only [decide_eq_false_iff_not]
  exact ⟨fun others member => others '?' member rfl, fun absent char member equal =>
    absent (equal ▸ member)⟩

theorem Encodes.unique {other : Json} (first : Encodes name query) (second : Encodes name other) :
    query = other := by
  obtain ⟨text, encoded, read⟩ := encodes_iff.mp first
  obtain ⟨again, encodedAgain, readAgain⟩ := encodes_iff.mp second
  obtain rfl := Option.some.inj (encoded.symm.trans encodedAgain)
  exact Option.some.inj (read.symm.trans readAgain)

/-- What is read from a name is what it encodes. -/
theorem faultOrQuery_of_encodes {fields : List (String × Json)}
    (encodes : Encodes name (.object fields)) : faultOrQuery name = ofJson (.object fields) := by
  obtain ⟨text, encoded, read⟩ := encodes_iff.mp encodes
  rw [faultOrQuery, encoded]
  dsimp only
  rw [read]

/-- A name without a question mark, or without a JSON object behind it, is at fault. -/
theorem faultOrQuery_of_invalid (invalid : ∀ fields, ¬ Encodes name (.object fields)) :
    faultOrQuery name =
      .error (if '?' ∈ name.toList then .invalidEncoding else .missingSeparator) := by
  unfold faultOrQuery
  split
  · rename_i absent
    rw [if_neg (encoded?_eq_none_iff.mp absent)]
  · rename_i text encoded
    have present : '?' ∈ name.toList := Classical.byContradiction fun absent =>
      nomatch (encoded?_eq_none_iff.mpr absent).symm.trans encoded
    rw [if_pos present]
    split
    · rfl
    · rename_i query read
      cases query with
      | object fields => exact absurd (encodes_iff.mpr ⟨text, encoded, read⟩) (invalid fields)
      | _ => rfl

theorem Encodes.fitsWords (encodes : Encodes name query) : query.FitsWords := by
  obtain ⟨_, text, _, _, read⟩ := encodes
  exact Json.fitsWords_of_parse? read

/-- A name is read as the query that it spells. -/
theorem faultOrQuery_eq_ok_iff {descriptor : Descriptor} :
    faultOrQuery name = .ok descriptor ↔ Spells name descriptor := by
  by_cases valid : ∃ fields, Encodes name (.object fields)
  · obtain ⟨fields, encodes⟩ := valid
    rw [faultOrQuery_of_encodes encodes, (ofJson_obeyed encodes.fitsWords).ok]
    constructor
    · exact fun states => ⟨fields, encodes, states⟩
    · rintro ⟨others, again, states⟩
      rw [encodes.unique again]
      exact states
  · rw [faultOrQuery_of_invalid (not_exists.mp valid)]
    exact iff_of_false nofun fun ⟨fields, encodes, _⟩ => valid ⟨fields, encodes⟩

/-- A name is at fault by the first rule that it breaks. -/
theorem faultOrQuery_eq_error_iff {fault : NameFault} :
    faultOrQuery name = .error fault ↔ Breaks name fault := by
  by_cases valid : ∃ fields, Encodes name (.object fields)
  · obtain ⟨fields, encodes⟩ := valid
    rw [faultOrQuery_of_encodes encodes, (ofJson_obeyed encodes.fitsWords).error]
    constructor
    · exact fun first => .query fields encodes fault first
    · rintro (absent | ⟨_, invalid⟩ | ⟨others, again, _, first⟩)
      · obtain ⟨text, encoded, _⟩ := encodes_iff.mp encodes
        exact nomatch (encoded?_eq_none_iff.mpr absent).symm.trans encoded
      · exact absurd encodes (invalid fields)
      · rw [encodes.unique again]
        exact first
  · have invalid := not_exists.mp valid
    rw [faultOrQuery_of_invalid invalid]
    split
    · rename_i present
      constructor
      · intro same
        rw [← Except.error.inj same]
        exact .encoding present invalid
      · rintro (absent | _ | ⟨others, again, _, _⟩)
        · exact absurd present absent
        · rfl
        · exact absurd again (invalid others)
    · rename_i absent
      constructor
      · intro same
        rw [← Except.error.inj same]
        exact .separator absent
      · rintro (_ | ⟨present, _⟩ | ⟨others, again, _, _⟩)
        · rfl
        · exact absurd present absent
        · exact absurd again (invalid others)

/-- A name is read as a query if no fault is found in it. -/
theorem ofName_eq_ok_iff {descriptor : Descriptor} :
    ofName name = .ok descriptor ↔ faultOrQuery name = .ok descriptor := by
  unfold ofName
  cases faultOrQuery name with
  | ok found => rw [Except.ok.injEq, Except.ok.injEq]
  | error fault => exact ⟨nofun, nofun⟩

/-- A query that has been read has been stated. -/
theorem states_of_ofName {descriptor : Descriptor} (parsed : ofName name = .ok descriptor) :
    ∃ fields, States (.object fields) descriptor := by
  obtain ⟨fields, _, states⟩ := faultOrQuery_eq_ok_iff.mp (ofName_eq_ok_iff.mp parsed)
  exact ⟨fields, states⟩

end Names

/-- Only five parameters of a query are read. -/
theorem ofJson_congr {fields others : List (String × Json)}
    (agree : ∀ parameter ∈ ["table", "query", "order", "limit", "desc"],
      Json.lookup parameter fields = Json.lookup parameter others) :
    ofJson (.object fields) = ofJson (.object others) := by
  have same (parameter : String)
      (known : parameter ∈ ["table", "query", "order", "limit", "desc"]) :
      parameter? parameter (.object fields) = parameter? parameter (.object others) := by
    have given : (Json.object fields).field? parameter = (Json.object others).field? parameter :=
      agree parameter known
    unfold parameter?
    rw [given]
  unfold ofJson readTable readConditions checkWindow readOrder readLimit readDescending
  rw [same "table" (by simp), same "query" (by simp), same "order" (by simp),
    same "limit" (by simp), same "desc" (by simp)]
  rfl

/-- A name is read as a query exactly if it spells this query, and is rejected with a fault exactly
if this is the fault of the first rule that it breaks. What stands before the question mark and
other parameters than the five of a query do not matter. -/
theorem ofName_grammar (name : String) :
    (∀ descriptor, ofName name = .ok descriptor ↔ Spells name descriptor) ∧
    (∀ error, ofName name = .error error ↔ error.name = name ∧ Breaks name error.fault) ∧
    ∀ other fields others, Encodes name (.object fields) → Encodes other (.object others) →
      (∀ parameter ∈ ["table", "query", "order", "limit", "desc"],
        Json.lookup parameter fields = Json.lookup parameter others) →
      (∀ descriptor, ofName name = .ok descriptor ↔ ofName other = .ok descriptor) ∧
        ∀ fault, ofName name = .error ⟨name, fault⟩ ↔ ofName other = .error ⟨other, fault⟩ := by
  have ok (name : String) (descriptor : Descriptor) :
      ofName name = .ok descriptor ↔ faultOrQuery name = .ok descriptor := by
    unfold ofName
    cases faultOrQuery name with
    | _ => simp
  have error (name : String) (error : NameError) : ofName name = .error error ↔
      error.name = name ∧ faultOrQuery name = .error error.fault := by
    obtain ⟨given, fault⟩ := error
    unfold ofName
    cases faultOrQuery name with
    | _ => simp [eq_comm]
  refine ⟨fun descriptor => (ok name descriptor).trans faultOrQuery_eq_ok_iff,
    fun failure => (error name failure).trans (and_congr_right' faultOrQuery_eq_error_iff),
    fun other fields others encodes encodesOther agree => ?_⟩
  have same : faultOrQuery name = faultOrQuery other := by
    rw [faultOrQuery_of_encodes encodes, faultOrQuery_of_encodes encodesOther, ofJson_congr agree]
  refine ⟨fun descriptor => ?_, fun fault => ?_⟩
  · rw [ok, ok, same]
  · rw [error, error, same]
    exact and_congr_left' (iff_of_true rfl rfl)

/-- The same query under two names, one of which has another parameter besides. -/
theorem ofName_grammar_renamed : ∃ fields others,
    Encodes "a?\x7b\"table\":\"t\",\"query\":[]\x7d" (.object fields) ∧
    Encodes "b?\x7b\"query\":[],\"n\":1,\"table\":\"t\"\x7d" (.object others) ∧
    (∀ descriptor, ofName "a?\x7b\"table\":\"t\",\"query\":[]\x7d" = .ok descriptor ↔
      ofName "b?\x7b\"query\":[],\"n\":1,\"table\":\"t\"\x7d" = .ok descriptor) := by
  have first : Encodes "a?\x7b\"table\":\"t\",\"query\":[]\x7d"
      (.object [("query", .array []), ("table", .string "t")]) :=
    encodes_iff.mpr ⟨_, rfl, rfl⟩
  have second : Encodes "b?\x7b\"query\":[],\"n\":1,\"table\":\"t\"\x7d"
      (.object [("n", .int 1), ("query", .array []), ("table", .string "t")]) :=
    encodes_iff.mpr ⟨_, rfl, rfl⟩
  refine ⟨_, _, first, second, ((ofName_grammar _).2.2 _ _ _ first second ?_).1⟩
  simp [Json.lookup]

end Descriptor

end LiveSearch
