import LiveSearch.Error
import LiveSearch.Text.Blank

/-!
# Shell commands

One line of shell input is one command: a word in any case and, for most commands, arguments.  All
white space around the line and between the words is free.  The last argument runs to the end of
the line and may contain white space itself.
-/

namespace LiveSearch

/-- A command. -/
inductive Command
  | subscribe (name : String)
  | unsubscribe (name : String)
  | insert (table body : String)
  | update (table body : String)
  | delete (table id : String)
  | dropList (name : String)
  | lists
  | sessions
  | help
  | quit
deriving DecidableEq

namespace Command

/-- The text up to the first white space, and the trimmed text behind it. -/
def splitWord (text : List Char) : List Char × List Char :=
  match Text.splitFirst? Text.isBlank text with
  | none => (text, [])
  | some (word, rest) => (word, Text.trim rest)

/-- The only argument of a command. -/
def oneArgument (word : String) (rest : List Char) : Except Failure String :=
  if rest = [] then .error (.command (word ++ ": missing argument")) else .ok (String.ofList rest)

/-- The two arguments of a command; the second one may contain white space. -/
def twoArguments (word : String) (rest : List Char) : Except Failure (String × String) :=
  match splitWord rest with
  | (first, second) =>
    if second = [] then .error (.command (word ++ ": expected two arguments"))
    else .ok (String.ofList first, String.ofList second)

/-- The command that a word begins, given the text behind the word. -/
def ofWord (word : List Char) (rest : List Char) : Except Failure Command :=
  let head := String.ofList word
  let name := String.ofList (Text.lowerAscii word)
  if name = "sub" ∨ name = "subscribe" then subscribe <$> oneArgument head rest
  else if name = "unsub" ∨ name = "unsubscribe" then unsubscribe <$> oneArgument head rest
  else if name = "insert" then (fun found => insert found.1 found.2) <$> twoArguments head rest
  else if name = "update" then (fun found => update found.1 found.2) <$> twoArguments head rest
  else if name = "delete" then (fun found => delete found.1 found.2) <$> twoArguments head rest
  else if name = "drop-list" then dropList <$> oneArgument head rest
  else if name = "lists" then .ok lists
  else if name = "sessions" then .ok sessions
  else if name = "help" then .ok help
  else if name = "quit" ∨ name = "exit" then .ok quit
  else .error (.command ("unrecognized: " ++ name))

/-- The command of a line; blank lines and comments, which begin with a hash sign, have none. -/
def ofLine (line : String) : Except Failure (Option Command) :=
  match Text.trim line.toList with
  | [] => .ok none
  | '#' :: _ => .ok none
  | text =>
    let (word, rest) := splitWord text
    some <$> ofWord word rest

/-- The summary of all commands. -/
def helpText : String := "\n".intercalate [
  "Commands:",
  "  sub <name>                 subscribe to a search list",
  "  unsub <name>               drop one subscription",
  "  insert <table> <json>      insert a record",
  "  update <table> <json>      replace a record with the same key",
  "  delete <table> <id>        delete a record",
  "  drop-list <name>           delete a published list from outside",
  "  lists                      print published lists",
  "  sessions                   print live searches",
  "  quit"]

end Command

/-- The table and the file that a seed argument such as `books=books.ndjson` names. -/
def parseSeed (argument : String) : Except Failure (String × String) :=
  let failure : Failure := .command ("expected table=file, got " ++ argument)
  match Text.splitFirst? (· = '=') argument.toList with
  | some (table, file) =>
    if table = [] ∨ file = [] then .error failure
    else .ok (String.ofList table, String.ofList file)
  | none => .error failure

end LiveSearch
