import LiveSearch.Program.Usage
import LiveSearch.Query.Outline
import LiveSearch.Shell

/-!
# The program

The program describes a subscription name, prints the settings in force, or runs a shell over
tables that are filled from files.  What it finds around it, the environment and files, is given
to it as `Surroundings`.
-/

namespace LiveSearch

/-- What the program finds around it. -/
structure Surroundings where
  getVar? : String → Option String
  /-- The content of a file that can be read. -/
  file? : String → Option (List UInt8)
  /-- Whether a directory exists or can be made. -/
  admits : String → Bool

/-- What a run of the program shows: its exit code, the text on its output, and the lines of its
messages. -/
structure Report where
  code : Nat
  output : String
  messages : List String

/-- A program that has got its arguments: it is done, or its shell takes input now. -/
inductive Launch
  | done (report : Report)
  | shell (shell : Shell) (messages : List String)

namespace Program

/-- The end of a run that has failed. -/
def failed (output : String) (messages : List String) (failure : Failure) : Report :=
  ⟨1, output, messages ++ ["error: " ++ failure.message]⟩

/-- Lines as a text. -/
def joinLines (lines : List String) : String := String.join (lines.map (· ++ "\n"))

/-- Fill a table from a file; tell so. -/
def seed (surroundings : Surroundings) (database : Database) (argument : String) :
    Except Failure (Database × String) := do
  let (table, file) ← parseSeed argument
  match surroundings.file? file with
  | none => throw (.unreadable file)
  | some bytes =>
    match database.load table bytes with
    | (_, .error failure) => throw failure
    | (filled, .ok count) =>
      return (filled,
        "seeded " ++ table ++ " with " ++ toString count ++ " records from " ++ file)

/-- Fill tables from files one after another; the first failure ends the run. -/
def seedAll (surroundings : Surroundings) :
    Database → List String → List String → Except Report (Database × List String)
  | database, messages, [] => .ok (database, messages)
  | database, messages, argument :: rest =>
    match seed surroundings database argument with
    | .error failure => .error (failed "" messages failure)
    | .ok (filled, message) => seedAll surroundings filled (messages ++ [message]) rest

/-- Whether the settings allow to log. -/
def checkLog (surroundings : Surroundings) (settings : Settings) : Except Report Unit :=
  match settings.logDir with
  | none => .ok ()
  | some directory =>
    if surroundings.admits directory then .ok ()
    else .error (failed "" [] (.unreadable directory))

/-- Start a shell over tables that are filled from files. -/
def startShell (surroundings : Surroundings) (settings : Settings) (seeds : List String)
    (json : Bool) : Except Report (Shell × List String) := do
  checkLog surroundings settings
  let (database, messages) ← seedAll surroundings (.empty settings.primaryKey) [] seeds
  let greeted := messages ++ ["Type 'help' for commands. 'quit' to exit."]
  match Shell.open? settings database (.empty Board.defaultCapacity) json with
  | .error failure => throw (failed "" greeted (.service failure))
  | .ok shell => return (shell, greeted)

/-- Describe a name: how it is read, and what plan it leads to. -/
def describe (settings : Settings) (name : String) : Report :=
  match Descriptor.describe name settings.primaryKey with
  | .error error => failed "" [] (.name error)
  | .ok text => ⟨0, joinLines [text], []⟩

/-- Act on arguments. -/
def act (surroundings : Surroundings) (arguments : Arguments) : Launch :=
  match Settings.loadAll arguments.options.layer arguments.options.file surroundings.getVar?
    surroundings.file? with
  | .error failure => .done (failed "" [] failure)
  | .ok settings =>
    match arguments.action with
    | .parse name => .done (describe settings name)
    | .config => .done ⟨0, settings.toToml, []⟩
    | .shell seeds json =>
      match startShell surroundings settings seeds json with
      | .error report => .done report
      | .ok (shell, messages) => .shell shell messages

/-- The files that the program may read. -/
def filesWanted (getVar? : String → Option String) (arguments : List String) : List String :=
  match Arguments.ofList arguments with
  | .error _ => []
  | .ok arguments =>
    let seeds := match arguments.action with
      | .shell seeds _ => seeds.filterMap fun seed => (parseSeed seed).toOption.map Prod.snd
      | _ => []
    arguments.options.file.toList ++ (getVar? Settings.fileVariable).toList ++
      Settings.fileName :: seeds

/-- The directory that the program logs to. -/
def directoryWanted (surroundings : Surroundings) (arguments : List String) : Option String := do
  let arguments ← (Arguments.ofList arguments).toOption
  let settings ← (Settings.loadAll arguments.options.layer arguments.options.file
    surroundings.getVar? surroundings.file?).toOption
  match arguments.action with
  | .shell _ _ => settings.logDir
  | _ => none

/-- What is shown instead of acting on arguments. -/
def interrupted : Interruption → Report
  | .help topic => ⟨0, joinLines (Usage.help topic), []⟩
  | .version => ⟨0, joinLines [Usage.versionLine], []⟩
  | .misuse => ⟨2, "", Usage.help .program⟩

/-- Start the program. -/
def launch (surroundings : Surroundings) (arguments : List String) : Launch :=
  match Arguments.ofList arguments with
  | .error interruption => .done (interrupted interruption)
  | .ok arguments => act surroundings arguments

/-- The end of a run whose shell has ended. -/
def report (messages : List String) (transcript : Transcript) : Report :=
  let output := joinLines transcript.lines
  match transcript.result with
  | .ok _ => ⟨0, output, messages⟩
  | .error failure => failed output messages failure

/-- Run the program on a whole input. -/
def run (surroundings : Surroundings) (arguments : List String) (input : List UInt8) : Report :=
  match launch surroundings arguments with
  | .done report => report
  | .shell shell messages => report messages (shell.run input)

end Program

end LiveSearch
