import LiveSearch.Error
import LiveSearch.Log
import LiveSearch.Pattern
import LiveSearch.Query.Descriptor
import LiveSearch.Settings.Toml

/-!
# Settings

Settings come in layers: defaults, a settings file, environment variables and command-line
arguments, each above the one before.  Validation refuses an empty prefix, an empty primary key
and an unknown log level.
-/

namespace LiveSearch

/-- The settings of a provider. -/
structure Settings where
  /-- Lists whose names start with this and a question mark are searches. -/
  listPrefix : String
  /-- The field of a record that is published as a list entry. -/
  primaryKey : String
  logLevel : String
  /-- The directory of the log files; without one the console receives the records. -/
  logDir : Option String
deriving DecidableEq

/-- Values that a layer of settings gives; the others come from below. -/
structure Overrides where
  listPrefix : Option String
  primaryKey : Option String
  logLevel : Option String
  logDir : Option String

namespace Settings

/-- The settings without any other layer. -/
def default : Settings := ⟨"search", defaultPrimaryKey, "info", none⟩

/-- Put a layer above the settings. -/
def override (settings : Settings) (layer : Overrides) : Settings where
  listPrefix := layer.listPrefix.getD settings.listPrefix
  primaryKey := layer.primaryKey.getD settings.primaryKey
  logLevel := layer.logLevel.getD settings.logLevel
  logDir := layer.logDir.or settings.logDir

/-- The keys of settings files. -/
def fileKeys : List String := ["list_prefix", "primary_key", "log_level", "log_dir"]

/-- The layer that a settings file states. -/
def fileLayer (text : String) : Except Failure Overrides :=
  match Toml.entries? text with
  | none => .error (.invalidToml "not a settings file")
  | some entries =>
    if entries.all fun entry => fileKeys.contains entry.1 then
      .ok ⟨entries.lookup "list_prefix", entries.lookup "primary_key", entries.lookup "log_level",
        entries.lookup "log_dir"⟩
    else .error (.invalidToml "unknown key")

/-- Put a settings file above the settings. -/
def mergeFile (settings : Settings) (text : String) : Except Failure Settings :=
  settings.override <$> fileLayer text

/-- The environment variable that names the settings file. -/
def fileVariable : String := "SEARCH_PROVIDER_CONFIG"

/-- The settings file that is used if no other one is named and it exists. -/
def fileName : String := "search-provider.toml"

/-- The layer of the environment, which does not set the log directory. -/
def environmentLayer (getVar? : String → Option String) : Overrides where
  listPrefix := getVar? "SEARCH_PROVIDER_PREFIX"
  primaryKey := getVar? "SEARCH_PROVIDER_PRIMARY_KEY"
  logLevel := getVar? "SEARCH_PROVIDER_LOG_LEVEL"
  logDir := none

/-- Refuse settings that a provider cannot work with. -/
def validate (settings : Settings) : Except Failure Unit :=
  if settings.listPrefix = "" then .error (.config "list_prefix must not be empty")
  else if settings.primaryKey = "" then .error (.config "primary_key must not be empty")
  else if (Log.Level.ofSetting? settings.logLevel).isNone then
    .error (.config ("unknown log level " ++ settings.logLevel))
  else .ok ()

/-- The file that gives settings: the one named by an argument, else the one named by the
environment, else the usual one if it exists. -/
def chosenFile (argument : Option String) (getVar? : String → Option String)
    (exists? : String → Bool) : Option String :=
  argument.or ((getVar? fileVariable).or (if exists? fileName then some fileName else none))

/-- The settings file of a name on top of the defaults. -/
def ofFile (name : String) (read? : String → Option (List UInt8)) : Except Failure Settings :=
  match (read? name).bind fun bytes => String.fromUTF8? ⟨bytes.toArray⟩ with
  | none => .error (.unreadable name)
  | some text => default.mergeFile text

/-- The settings of all layers below the command line.  A file that is named has to be readable. -/
def load (argument : Option String) (getVar? : String → Option String)
    (read? : String → Option (List UInt8)) : Except Failure Settings := do
  let fromFile ← match chosenFile argument getVar? fun name => (read? name).isSome with
    | none => pure default
    | some name => ofFile name read?
  let settings := fromFile.override (environmentLayer getVar?)
  validate settings
  return settings

/-- The settings of all layers, the command line included. -/
def loadAll (arguments : Overrides) (argument : Option String)
    (getVar? : String → Option String) (read? : String → Option (List UInt8)) :
    Except Failure Settings := do
  let below ← load argument getVar? read?
  let settings := below.override arguments
  validate settings
  return settings

/-- The settings as a settings file. -/
def toToml (settings : Settings) : String :=
  Toml.writeEntry "list_prefix" settings.listPrefix ++
  Toml.writeEntry "primary_key" settings.primaryKey ++
  Toml.writeEntry "log_level" settings.logLevel ++
  match settings.logDir with
  | none => ""
  | some directory => Toml.writeEntry "log_dir" directory

end Settings

/-- The pattern of the names of searches: the prefix, a question mark, and anything. -/
def listenPattern (listPrefix : String) : String :=
  "^" ++ Pattern.escape listPrefix ++ "[\\?].*"

end LiveSearch
