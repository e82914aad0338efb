import LiveSearch.Json.Printer
import LiveSearch.Service.Bounded
import LiveSearch.Service.Numbering
import LiveSearch.Shell.Command
import LiveSearch.Store.Load

/-!
# The shell

The shell runs a provider over a record store and a board in memory and obeys commands, one to a
line.  Before it reads a line it lets everything run that can go on.  On `quit` and at the end of
the input it shuts the provider down; a line that is not text ends it at once.
-/

namespace LiveSearch

/-- The shell: its provider, whether it prints lists and sessions as JSON, and the numbers of the
sessions that it has shown. -/
structure Shell where
  schedule : Schedule BoundedProvider
  json : Bool
  numbering : Numbering

/-- What a shell that has ended leaves behind: itself, the lines that it has printed, and how it
ended. -/
structure Transcript where
  shell : Shell
  lines : List String
  result : Except Failure Unit

namespace Shell

/-- The provider of a shell. -/
def provider (shell : Shell) : Provider := shell.schedule.state.provider

/-- The service behind a shell. -/
def service (shell : Shell) : Service := shell.provider.service

/-- Start a provider and a shell for it. -/
def open? (settings : Settings) (database : Database) (board : Board) (json : Bool) :
    Except ServiceError Shell :=
  let service := Service.start settings.primaryKey database board
  (Provider.start settings.listPrefix service none).listen.map fun provider =>
    ⟨⟨.ofProvider provider, []⟩, json, .empty⟩

/-- Change the service. -/
def act (shell : Shell) (change : Service → Service) : Shell :=
  { shell with
    schedule := BoundedProvider.taskSystem.act
      (fun bounded => { bounded with
        provider := { bounded.provider with service := change bounded.provider.service } })
      shell.schedule }

/-- Change the board. -/
def actOnBoard (shell : Shell) (change : Board → Board) : Shell :=
  shell.act fun service => service.withBoard (change service.board)

/-- Let everything run that can go on. -/
def settle (shell : Shell) : Shell :=
  { shell with schedule := BoundedProvider.taskSystem.settle shell.schedule }

/-- The name of a session that has been shown. -/
def label (shell : Shell) (id : Nat) : String :=
  "#" ++ toString ((shell.numbering.number? id).getD 0)

/-- The shell after it has shown a session. -/
def note (shell : Shell) (id : Nat) : Shell :=
  { shell with numbering := shell.numbering.note id }

/-- The word for the state of a session. -/
def stateText : SessionState → String
  | .bootstrapping => "bootstrapping"
  | .ready => "ready"
  | .failed error => "failed (" ++ error.message ++ ")"
  | .closed => "closed"

/-- The line about a list. -/
def listLine (json : Bool) (name : String) (entries : List String) : String :=
  if json then
    (Json.ofFields [("list", .string name), ("entries", .array (entries.map .string))]).text
  else name ++ ": " ++ ", ".intercalate entries

/-- The line about a session. -/
def sessionLine (json : Bool) (summary : Service.Summary) (label state : String) : String :=
  if json then
    (Json.ofFields [("name", .string summary.name), ("id", .string label),
      ("subscribers", .nat summary.subscribers), ("state", .string state)]).text
  else
    summary.name ++ " subscribers=" ++ toString summary.subscribers ++ " state=" ++ state ++
      " id=" ++ label

/-- The lines about all lists. -/
def listLines (shell : Shell) : List String :=
  shell.service.board.lists.toList.map fun (name, list) => listLine shell.json name list.entries

/-- The lines about sessions, and the shell that has shown them. -/
def showSessions (shell : Shell) (summaries : List Service.Summary) : Shell × List String :=
  let after := summaries.foldl (fun shell summary => shell.note summary.session) shell
  (after, summaries.map fun summary =>
    sessionLine shell.json summary (after.label summary.session)
      (stateText (shell.service.stateOf summary.session)))

/-- The JSON value of an argument. -/
def parseRecord (text : String) : Except Failure Json :=
  match Json.parse? text with
  | some record => .ok record
  | none => .error (.invalidJson "not a JSON value")

/-- Write a record with one of the operations of the record store, and say so. -/
def write (shell : Shell) (verb table body : String)
    (operation : Database → String → Json → Database × Except ServiceError String) :
    Except Failure (Shell × List String) := do
  let record ← parseRecord body
  match operation shell.service.database table record with
  | (_, .error failure) => throw (.service failure)
  | (database, .ok id) =>
    return (shell.act (·.withDatabase database), [verb ++ " " ++ table ++ "/" ++ id])

/-- Obey a command; tell what is printed. -/
def obey (shell : Shell) : Command → Except Failure (Shell × List String)
  | .subscribe name => .ok (shell.actOnBoard (·.subscribe name), ["subscribed " ++ name])
  | .unsubscribe name => .ok (shell.actOnBoard (·.unsubscribe name), ["unsubscribed " ++ name])
  | .insert table body => shell.write "inserted" table body Database.insert
  | .update table body => shell.write "updated" table body Database.update
  | .delete table id =>
    let (database, existed) := shell.service.database.delete table id
    .ok (shell.act (·.withDatabase database),
      [(if existed then "deleted " else "not found ") ++ table ++ "/" ++ id])
  | .dropList name =>
    let (board, existed) := shell.service.board.deleteList name
    .ok (shell.act (·.withBoard board), [(if existed then "dropped " else "no list ") ++ name])
  | .lists => .ok (shell, shell.listLines)
  | .sessions => .ok (shell.showSessions shell.provider.status)
  | .help => .ok (shell, [Command.helpText])
  | .quit => .ok (shell, [])

/-- Shut the provider down and wait until it has returned. -/
def leave (shell : Shell) : Transcript :=
  let final := { shell.schedule.state with
    provider := shell.provider.requestShutdown.awaitReturn }
  ⟨{ shell with schedule := ⟨final, []⟩ }, [], (final.result?).getD (.ok ())⟩

/-- Put lines in front of those of a transcript. -/
def printed (lines : List String) (transcript : Transcript) : Transcript :=
  { transcript with lines := lines ++ transcript.lines }

/-- What a line of input leads to: the shell goes on, or it ends. -/
inductive Turn
  | goOn (shell : Shell) (lines : List String)
  | finish (transcript : Transcript)

/-- Obey the command of a line, unless the provider has returned. -/
def takeText (shell : Shell) (text : String) : Turn :=
  if (shell.provider.result?).isSome then .finish (printed ["provider stopped"] shell.leave)
  else match Command.ofLine text with
    | .error failure => .goOn shell [failure.message]
    | .ok none => .goOn shell []
    | .ok (some .quit) => .finish shell.leave
    | .ok (some command) =>
      match shell.obey command with
      | .ok (next, lines) => .goOn next lines
      | .error failure => .goOn shell ["error: " ++ failure.message]

/-- Take a line of input. -/
def takeLine (shell : Shell) (line : List UInt8) : Turn :=
  match lineText? line with
  | none => .finish ⟨shell, [], .error (.unreadable "stream did not contain valid UTF-8")⟩
  | some text => shell.takeText text

/-- Take lines of input until the shell ends. -/
def runLines (shell : Shell) : List (List UInt8) → Transcript
  | [] => shell.settle.leave
  | line :: rest =>
    match shell.settle.takeLine line with
    | .finish transcript => transcript
    | .goOn next lines => printed lines (next.runLines rest)

/-- Take a whole input. -/
def run (shell : Shell) (input : List UInt8) : Transcript := shell.runLines (splitLines input)

end Shell

end LiveSearch
