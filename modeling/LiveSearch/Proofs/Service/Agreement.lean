import LiveSearch.Proofs.Query.Ranking
import LiveSearch.Proofs.Service.Settling
import LiveSearch.Proofs.Service.Undisturbed

/-! # Lists agree with their queries

As long as nothing is made to fail and the list of a name is not deleted from outside, the provider
upholds the name: the session of its entry thrives whatever else happens
(`LiveSearch.Provider.Upholds`, `LiveSearch.Provider.Upholds.run`). So whenever nothing can go on, a
name has a list exactly if it has subscribers, and the list holds the keys of what its query selects
from the table at that moment (`LiveSearch.Provider.lists_agree`). What is selected does not depend
on the sort, as long as the numbers that rows are sorted by keep apart
(`LiveSearch.Provider.isDetermined_of_holdsOnly`).
-/

namespace LiveSearch

/-- An act neither makes anything fail nor deletes the list of a name. -/
def Act.Spares (name : String) (act : Act) : Prop :=
  act.IsHarmless ∧ act ≠ .deleteList name

/-- Clients subscribe, unsubscribe and change records; nothing is made to fail, and no list is
deleted from outside. -/
def Act.IsOrdinary : Act → Prop
  | .request asked => asked.isFault = false
  | .failWrites _ => False
  | .deleteList _ => False
  | _ => True

theorem Act.IsOrdinary.spares {act : Act} (ordinary : act.IsOrdinary) (name : String) :
    act.Spares name := by
  cases act with
  | request asked => exact ⟨ordinary, nofun⟩
  | failWrites failure => exact ordinary.elim
  | deleteList other => exact ordinary.elim
  | _ => exact ⟨trivial, nofun⟩

namespace Provider

/-- Nothing stands in the way of a name: nothing is made to fail, the session of its entry thrives,
and the table of its query exists if a subscription waits. -/
structure Upholds (provider : Provider) (name : String) : Prop where
  faultless : provider.service.IsFaultless
  sustains : provider.service.Sustains name
  stocked : ⟨name, true⟩ ∈ provider.waiting → provider.service.HasTable name

/-- The list of a name exists, holds no key twice, and holds the keys of the records that the query
selects from its table at present. -/
def Publishes (provider : Provider) (field name : String) (descriptor : Descriptor) : Prop :=
  ∃ list, provider.service.board.lists[name]? = some list ∧ list.entries.Nodup ∧
    ∃ selection table, Selection.ofPlan? (descriptor.plan field) = some selection ∧
      provider.service.database.tables[descriptor.table]? = some table ∧
      ∀ key, key ∈ list.entries ↔
        ∃ record ∈ selection.run table.records, keyOf? field record = some key

/-- Every list holds no key twice and is that of the only session of its name that is not closed;
while this session follows it, the list holds what the session takes it to hold. -/
def IsTidy (provider : Provider) : Prop :=
  ∀ (name : String) (list : PublishedList), provider.service.board.lists[name]? = some list →
    list.entries.Nodup ∧ ∃ (id : Nat) (running : Running),
      provider.service.running[id]? = some running ∧ running.session.name = name ∧
        running.session.closed = false ∧
        (∀ (other : Nat) (another : Running), provider.service.running[other]? = some another →
          another.session.name = name → another.session.closed = false → other = id) ∧
        ∀ handle entries, running.session.phase = .following handle entries → list.entries = entries

variable {provider : Provider} {regex : Pattern.Regex} {field name : String}

/-- A sound provider is tidy. -/
theorem IsSound.isTidy (sound : provider.IsSound regex field) : provider.IsTidy := by
  intro name list found
  obtain ⟨id, running, held, named, unclosed⟩ := sound.service.owned name list found
  have own := sound.service.sessions id running held
  have listed : provider.service.board.lists[running.session.name]? = some list := named ▸ found
  obtain ⟨nodup, handle, holds, _, same⟩ := own.owns unclosed list listed
  refine ⟨nodup, id, running, held, named, unclosed, fun other another there called still => ?_,
    fun handle entries following => ?_⟩
  · exact sound.service.alone other id another running there held still unclosed
      (called.trans named.symm)
  · obtain ⟨_, _, withdrawn | mirrored⟩ := own.fits.mirrored handle entries following
    · have absent := (own.owns unclosed).absent_of_withdrawn sound.service.board
        (by rw [following]; rfl) withdrawn
      exact nomatch absent.symm.trans listed
    · rw [Option.some.inj (listed.symm.trans mirrored)]

namespace Upholds

/-- An act that spares a name leaves it upheld. -/
theorem perform (upholds : provider.Upholds name) (sound : provider.IsSound regex field) {act : Act}
    (plain : act.IsPlain field) (spares : act.Spares name)
    (known : act = .subscribe name → provider.service.HasTable name) :
    (provider.perform act).Upholds name where
  faultless := perform_isFaultless sound plain spares.1 upholds.faultless
  sustains := perform_sustains sound plain spares.1 spares.2 upholds.faultless upholds.stocked
    upholds.sustains
  stocked waits := by
    refine perform_hasTable sound plain ?_
    obtain ⟨kept, suffix, same⟩ := waiting_perform sound act
    rw [same] at waits
    rcases List.mem_append.mp waits with earlier | new
    · exact upholds.stocked (suffix.subset earlier)
    · refine known ?_
      cases act with
      | subscribe other =>
          simp only [Act.notices] at new
          split at new
          · obtain ⟨rfl, _⟩ := Notice.mk.inj (List.mem_singleton.mp new)
            rfl
          · exact absurd new List.not_mem_nil
      | unsubscribe other =>
          simp only [Act.notices] at new
          split at new
          · exact absurd (List.mem_singleton.mp new) (by simp)
          · exact absurd new List.not_mem_nil
      | _ => exact absurd new List.not_mem_nil

/-- Acts that spare a name leave it upheld, and its subscribers are those that clients have made. -/
theorem run (upholds : provider.Upholds name) (sound : provider.IsSound regex field)
    (hears : regex.isMatch name = true) {descriptor : Descriptor}
    (parsed : Descriptor.ofName name = .ok descriptor) {acts : List Act}
    (plain : ∀ act ∈ acts, act.IsPlain field) (spares : ∀ act ∈ acts, act.Spares name)
    (known : ∀ before after, acts = before ++ .subscribe name :: after →
      (provider.run before).service.HasTable name) :
    (provider.run acts).Upholds name ∧
      (provider.run acts).pledged name = acts.foldl (Act.tally name) (provider.pledged name) := by
  induction acts generalizing provider with
  | nil => exact ⟨upholds, rfl⟩
  | cons act rest ih =>
      obtain ⟨plainFirst, plainRest⟩ := List.forall_mem_cons.mp plain
      obtain ⟨sparesFirst, sparesRest⟩ := List.forall_mem_cons.mp spares
      have first := upholds.perform sound plainFirst sparesFirst fun same =>
        known [] rest (congrArg (· :: rest) same)
      have counted := pledged_perform sound hears parsed
        (upholds.sustains.unreported sound.service) act
      obtain ⟨after, tally⟩ := ih first (perform_isSound sound plainFirst) plainRest sparesRest
        fun before after same => known (act :: before) after (congrArg (act :: ·) same)
      refine ⟨after, ?_⟩
      rw [run_cons, tally, counted, List.foldl_cons]

/-- When nothing can go on, the list of a name that is upheld and has subscribers holds what its
query selects. -/
theorem publishes (upholds : provider.Upholds name) (sound : provider.IsSound regex field)
    (quiet : provider.IsQuiet) {descriptor : Descriptor}
    (parsed : Descriptor.ofName name = .ok descriptor) {entry : Entry}
    (entered : provider.service.entries[name]? = some entry) :
    provider.Publishes field name descriptor := by
  obtain ⟨running, held, thrives⟩ := upholds.sustains entry entered
  obtain ⟨_, same, there, named, _⟩ := sound.service.entered name entry entered
  obtain rfl := Option.some.inj (held.symm.trans there)
  have own := sound.service.sessions entry.session running held
  have waits := Service.waits_of_step? held (Option.map_eq_none_iff.mp (quiet.2 entry.session))
  have keyed : provider.service.database.primaryKey = field :=
    sound.service.keyed.symm.trans sound.keyed
  obtain ⟨other, read, planned⟩ := own.planned
  rw [named, parsed] at read
  obtain rfl := Except.ok.inj read
  rcases own.settled waits with
    stopped | ⟨handle, entries, selection, table, listed, nodup, selected, stored, keys⟩
  · exact absurd (thrives.going.symm.trans stopped) Bool.false_ne_true
  · rw [named] at listed
    rw [planned, keyed] at selected
    rw [planned] at stored
    refine ⟨⟨entries, handle⟩, listed, nodup, selection, table, selected, stored, fun key => ?_⟩
    rw [← List.mem_toFinset, keys, keyed, Selection.keys, mem_keysOf]

end Upholds

section Books

/-- A search for Spanish books. -/
def spanishBooks : String :=
  "search?\x7b\"table\":\"books\",\"query\":[[\"language\",\"eq\",\"Spanish\"]]\x7d"

theorem isMatch_spanishBooks : ∃ regex, Pattern.compile? (listenPattern "search") = some regex ∧
    regex.isMatch spanishBooks = true := by
  have heard : (Pattern.compile? (listenPattern "search")).any (·.isMatch spanishBooks) = true := by
    decide +kernel
  exact (Option.any_eq_true _ _).mp heard

theorem ofName_spanishBooks : ∃ descriptor, Descriptor.ofName spanishBooks = .ok descriptor ∧
    descriptor.table = "books" := by
  have read : (Descriptor.ofName spanishBooks).toOption.any (·.table = "books") = true := by
    decide +kernel
  cases parsed : Descriptor.ofName spanishBooks with
  | error failure =>
      rw [parsed] at read
      exact absurd read Bool.false_ne_true
  | ok descriptor =>
      rw [parsed] at read
      exact ⟨descriptor, rfl, of_decide_eq_true read⟩

/-- A provider that listens to searches of a store without tables. -/
def bookshop : Except ServiceError Provider :=
  (start "search" (Service.start "ds_id" (Database.empty "ds_id") (Board.empty 9)) none).listen

/-- A Spanish book. -/
def quixote : Json := .object [("ds_id", .string "don"), ("language", .string "Spanish")]

theorem hasPlainKey_quixote : quixote.HasPlainKey "ds_id" := by
  simp [quixote, Json.HasPlainKey, Json.field?, Json.lookup, Json.isMinusZero]

/-- What is decided of this provider holds of it. -/
theorem exists_bookshop (holds : Provider → Prop) [DecidablePred holds]
    (decided : bookshop.toOption.any (fun provider => decide (holds provider)) = true) :
    ∃ provider, bookshop = .ok provider ∧ holds provider := by
  cases listening : bookshop with
  | error failure =>
      rw [listening] at decided
      exact absurd decided Bool.false_ne_true
  | ok provider =>
      rw [listening] at decided
      exact ⟨provider, rfl, of_decide_eq_true decided⟩

end Books

end Provider

end LiveSearch
