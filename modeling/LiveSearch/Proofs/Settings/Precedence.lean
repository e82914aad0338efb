import LiveSearch.Settings

/-! # Which layer of the settings counts

The highest layer that states a setting counts for it (`LiveSearch.Settings.layered`). Settings that
are not valid are refused, and this is asked twice: before and after the command line has been put
on top (`LiveSearch.Settings.loadAll_eq`). So a value that the command line replaces may be refused
although it does not count.
-/

namespace LiveSearch

deriving instance DecidableEq for Overrides

instance decidableEqResult {ε α : Type} [DecidableEq ε] [DecidableEq α] : DecidableEq (Except ε α)
  | .ok left, .ok right => decidable_of_iff (left = right) ⟨congrArg _, Except.ok.inj⟩
  | .error left, .error right => decidable_of_iff (left = right) ⟨congrArg _, Except.error.inj⟩
  | .ok _, .error _ => isFalse nofun
  | .error _, .ok _ => isFalse nofun

namespace Settings

/-- For each setting the value of the first layer that states one, else the default. -/
def layered (layers : List Overrides) : Settings where
  listPrefix := (layers.findSome? (·.listPrefix)).getD default.listPrefix
  primaryKey := (layers.findSome? (·.primaryKey)).getD default.primaryKey
  logLevel := (layers.findSome? (·.logLevel)).getD default.logLevel
  logDir := (layers.findSome? (·.logDir)).or default.logDir

/-- Putting a layer above the settings puts it before the other layers. -/
theorem override_layered (layers : List Overrides) (layer : Overrides) :
    (layered layers).override layer = layered (layer :: layers) := by
  obtain ⟨listPrefix, primaryKey, logLevel, logDir⟩ := layer
  simp only [layered, override, List.findSome?_cons]
  congr 1
  · cases listPrefix <;> rfl
  · cases primaryKey <;> rfl
  · cases logLevel <;> rfl
  · cases logDir <;> rfl

section Validity

variable {settings : Settings}

/-- What a provider can work with: a prefix, a primary key and one of the five log levels, in
letters of either case. -/
structure IsValid (settings : Settings) : Prop where
  listPrefix : settings.listPrefix ≠ ""
  primaryKey : settings.primaryKey ≠ ""
  logLevel : ∃ level : Log.Level,
    level.setting = String.ofList (Text.lowerAscii settings.logLevel.toList)

theorem isSome_ofSetting?_iff (text : String) : (Log.Level.ofSetting? text).isSome = true ↔
    ∃ level : Log.Level, level.setting = String.ofList (Text.lowerAscii text.toList) := by
  have every (level : Log.Level) : level ∈ Log.Level.all := by cases level <;> decide
  rw [Log.Level.ofSetting?, List.find?_isSome]
  constructor
  · rintro ⟨level, -, same⟩
    exact ⟨level, of_decide_eq_true same⟩
  · rintro ⟨level, same⟩
    exact ⟨level, every level, decide_eq_true same⟩

/-- Valid settings are accepted. -/
theorem IsValid.validate (valid : settings.IsValid) : validate settings = .ok () := by
  rw [Settings.validate, if_neg valid.listPrefix, if_neg valid.primaryKey, if_neg]
  rw [Option.isNone_iff_eq_none, ← ne_eq, ← Option.isSome_iff_ne_none]
  exact (isSome_ofSetting?_iff _).mpr valid.logLevel

/-- All others are refused as settings. -/
theorem validate_of_not_isValid (invalid : ¬settings.IsValid) :
    ∃ text, validate settings = .error (.config text) := by
  unfold validate
  split
  · exact ⟨_, rfl⟩
  · split
    · exact ⟨_, rfl⟩
    · split
      · exact ⟨_, rfl⟩
      · next prefixed keyed known =>
        refine absurd ⟨prefixed, keyed, (isSome_ofSetting?_iff _).mp ?_⟩ invalid
        rwa [Option.isNone_iff_eq_none, ← ne_eq, ← Option.isSome_iff_ne_none] at known

theorem validated_eq_ok_iff {result : Settings} :
    (do validate settings; return settings) = Except.ok result ↔
      settings.IsValid ∧ result = settings := by
  by_cases valid : settings.IsValid
  · rw [valid.validate]
    exact ⟨fun same => ⟨valid, (Except.ok.inj same).symm⟩, fun ⟨_, same⟩ => same ▸ rfl⟩
  · obtain ⟨text, refused⟩ := validate_of_not_isValid valid
    rw [refused]
    exact ⟨nofun, fun ⟨accepted, _⟩ => absurd accepted valid⟩

theorem validated_eq_error_iff :
    (∃ text, (do validate settings; return settings) = Except.error (.config text)) ↔
      ¬settings.IsValid := by
  by_cases valid : settings.IsValid
  · rw [valid.validate]
    exact ⟨nofun, fun refused => absurd valid refused⟩
  · obtain ⟨text, refused⟩ := validate_of_not_isValid valid
    rw [refused]
    exact ⟨fun _ => valid, fun _ => ⟨text, rfl⟩⟩

end Validity

section Loading

variable (arguments : Overrides) (argument : Option String) (getVar? : String → Option String)
  (read? : String → Option (List UInt8))

/-- The layer of the settings file of a name. -/
def namedLayer (name : String) : Except Failure Overrides :=
  match (read? name).bind fun bytes => String.fromUTF8? ⟨bytes.toArray⟩ with
  | none => .error (.unreadable name)
  | some text => fileLayer text

/-- The layer of the settings file, which states nothing if there is none. -/
def statedLayer : Except Failure Overrides :=
  match chosenFile argument getVar? fun name => (read? name).isSome with
  | none => .ok ⟨none, none, none, none⟩
  | some name => namedLayer read? name

theorem ofFile_eq (name : String) :
    ofFile name read? = (fun file => layered [file]) <$> namedLayer read? name := by
  have below : default.override = fun file => layered [file] := funext (override_layered [])
  unfold ofFile namedLayer mergeFile
  rw [below]
  cases (read? name).bind fun bytes => String.fromUTF8? ⟨bytes.toArray⟩ <;> rfl

theorem load_eq : load argument getVar? read? = do
    let file ← statedLayer argument getVar? read?
    validate (layered [environmentLayer getVar?, file])
    return layered [environmentLayer getVar?, file] := by
  unfold load statedLayer
  cases chosenFile argument getVar? fun name => (read? name).isSome with
  | none =>
      have unstated : default = layered [⟨none, none, none, none⟩] := rfl
      dsimp only
      rw [unstated, pure_bind, override_layered]
      rfl
  | some name =>
      dsimp only
      rw [ofFile_eq, bind_map_left]
      simp only [override_layered]

/-- The layers below the command line are validated on their own before all layers are. -/
theorem loadAll_eq : loadAll arguments argument getVar? read? = do
    let file ← statedLayer argument getVar? read?
    validate (layered [environmentLayer getVar?, file])
    validate (layered [arguments, environmentLayer getVar?, file])
    return layered [arguments, environmentLayer getVar?, file] := by
  rw [loadAll, load_eq, bind_assoc]
  refine bind_congr fun file => ?_
  rw [bind_assoc]
  refine bind_congr fun _ => ?_
  rw [pure_bind, override_layered]

/-- The layers count in their order, no matter what the lower ones state, unless what they state
together is not valid while all layers together are. -/
theorem loadAll_honours_layers_iff (file : Overrides)
    (stated : statedLayer argument getVar? read? = .ok file) :
    let settings := layered [arguments, environmentLayer getVar?, file]
    ((∀ result, loadAll arguments argument getVar? read? = .ok result ↔
        settings.IsValid ∧ result = settings) ∧
      ((∃ text, loadAll arguments argument getVar? read? = .error (.config text)) ↔
        ¬settings.IsValid)) ↔
    (settings.IsValid → (layered [environmentLayer getVar?, file]).IsValid) := by
  intro settings
  have outcome : loadAll arguments argument getVar? read? = do
      validate (layered [environmentLayer getVar?, file])
      validate settings
      return settings := by
    rw [loadAll_eq, stated]
    rfl
  rw [outcome]
  by_cases below : (layered [environmentLayer getVar?, file]).IsValid
  · rw [below.validate]
    exact ⟨fun _ _ => below, fun _ => ⟨fun _ => validated_eq_ok_iff, validated_eq_error_iff⟩⟩
  · obtain ⟨text, refused⟩ := validate_of_not_isValid below
    rw [refused]
    constructor
    · -- Valid settings of all layers would have to be the result.
      rintro ⟨results, -⟩ valid
      exact nomatch (results settings).mpr ⟨valid, rfl⟩
    · intro fromBelow
      have invalid : ¬settings.IsValid := fun valid => below (fromBelow valid)
      exact ⟨fun result => ⟨nofun, fun ⟨valid, _⟩ => absurd valid invalid⟩,
        fun _ => invalid, fun _ => ⟨text, rfl⟩⟩

end Loading

section Instances

/-- An environment that sets nothing but the log level. -/
def levelVariable (level : String) (name : String) : Option String :=
  if name = "SEARCH_PROVIDER_LOG_LEVEL" then some level else none

/-- A directory that holds nothing but the usual settings file. -/
def usualFile (text : String) (name : String) : Option (List UInt8) :=
  if name = fileName then some text.toUTF8.toList else none

/-- An unknown log level of the file does not matter below one of the environment. -/
theorem loadAll_honours_layers_environment :
    statedLayer none (levelVariable "debug") (usualFile "log_level = \"loud\"\n") =
      .ok ⟨none, none, some "loud", none⟩ ∧
    loadAll ⟨none, none, none, none⟩ none (levelVariable "debug")
      (usualFile "log_level = \"loud\"\n") = .ok { default with logLevel := "debug" } := by
  have stated : statedLayer none (levelVariable "debug") (usualFile "log_level = \"loud\"\n") =
      .ok ⟨none, none, some "loud", none⟩ := by decide +kernel
  have valid : IsValid { default with logLevel := "debug" } :=
    ⟨by decide, by decide, .debug, by decide +kernel⟩
  have honoured := (loadAll_honours_layers_iff ⟨none, none, none, none⟩ none _ _ _ stated).mpr
    fun _ => valid
  exact ⟨stated, (honoured.1 _).mpr ⟨valid, rfl⟩⟩

/-- An unknown log level of the environment is refused below a known one of the command line. -/
theorem loadAll_refuses_replaced :
    let arguments : Overrides := ⟨none, none, some "info", none⟩
    let file : Overrides := ⟨none, none, none, none⟩
    statedLayer none (levelVariable "loud") (fun _ => none) = .ok file ∧
    (layered [arguments, environmentLayer (levelVariable "loud"), file]).IsValid ∧
    loadAll arguments none (levelVariable "loud") (fun _ => none) =
      .error (.config "unknown log level loud") :=
  ⟨rfl, ⟨by decide, by decide, .info, by decide +kernel⟩, rfl⟩

end Instances

end Settings

end LiveSearch
