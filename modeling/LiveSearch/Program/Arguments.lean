import LiveSearch.Settings

/-!
# Command-line arguments

Options of the program stand before the name of an action, each at most once and with a value of
its own; options of the action stand behind it.  Two hyphens end the options.  Arguments are read
one by one from left to right, and the first help option, version option or mistake decides.
-/

namespace LiveSearch

/-- What the program is asked to do. -/
inductive Action
  /-- Run a shell over tables that are filled from files. -/
  | shell (seeds : List String) (json : Bool)
  /-- Describe a name. -/
  | parse (name : String)
  /-- Print the settings. -/
  | config
deriving DecidableEq

/-- What help is asked about. -/
inductive Topic
  | program
  | shell
  | parse
  | config
  | help
deriving DecidableEq

/-- Why there are no arguments to act on. -/
inductive Interruption
  | help (topic : Topic)
  | version
  | misuse
deriving DecidableEq

/-- Options of the program. -/
structure ProgramOptions where
  file : Option String
  layer : Overrides

/-- Complete arguments. -/
structure Arguments where
  options : ProgramOptions
  action : Action

/-- An argument as it stands. -/
inductive Word
  /-- Two hyphens. -/
  | escape
  /-- Two hyphens and a name, perhaps with an equals sign and a value. -/
  | long (name : String) (value : Option String)
  /-- A hyphen and letters. -/
  | short (letter : Char)
  | plain (text : String)

namespace Word

/-- Tell what an argument looks like. -/
def ofText (text : String) : Word :=
  match text.toList with
  | ['-', '-'] => escape
  | '-' :: '-' :: rest =>
    match Text.splitFirst? (· = '=') rest with
    | some (name, value) => long (String.ofList name) (some (String.ofList value))
    | none => long (String.ofList rest) none
  | '-' :: letter :: _ => short letter
  | _ => plain text

/-- Whether an argument can be the value of the option before it. -/
def isValue (text : String) : Bool :=
  match ofText text with
  | plain _ => true
  | _ => false

end Word

namespace ProgramOptions

/-- The options before any argument. -/
def none : ProgramOptions := ⟨.none, ⟨.none, .none, .none, .none⟩⟩

/-- Set an option that is not set yet. -/
def setOnce (present : Option String) (value : String) : Except Interruption (Option String) :=
  if present.isSome then .error .misuse else .ok (some value)

/-- Set an option that is not set yet to the name of a file or directory. -/
def setPath (present : Option String) (value : String) : Except Interruption (Option String) :=
  if value = "" then .error .misuse else setOnce present value

/-- Set an option. -/
def set (options : ProgramOptions) (name value : String) : Except Interruption ProgramOptions := do
  let layer := options.layer
  if name = "config" then
    return { options with file := ← setPath options.file value }
  else if name = "prefix" then
    return { options with
      layer := { layer with listPrefix := ← setOnce layer.listPrefix value } }
  else if name = "primary-key" then
    return { options with
      layer := { layer with primaryKey := ← setOnce layer.primaryKey value } }
  else if name = "log-level" then
    return { options with layer := { layer with logLevel := ← setOnce layer.logLevel value } }
  else if name = "log-dir" then
    return { options with layer := { layer with logDir := ← setPath layer.logDir value } }
  else throw .misuse

end ProgramOptions

/-- What has been read so far. -/
inductive Reading
  /-- Options of the program; `awaiting` is one whose value comes next. -/
  | options (options : ProgramOptions) (awaiting : Option String)
  /-- Arguments of a shell; `awaiting` says that the value of a seed option comes next. -/
  | shell (options : ProgramOptions) (seeds : List String) (json awaiting escaped : Bool)
  /-- Arguments of a description. -/
  | parse (options : ProgramOptions) (name : Option String) (escaped : Bool)
  /-- Arguments of the printing of settings. -/
  | config (options : ProgramOptions) (escaped : Bool)
  /-- What help is asked about. -/
  | help (topic : Topic)

namespace Reading

/-- The reading behind the name of an action. -/
def ofAction (given : ProgramOptions) (name : String) : Except Interruption Reading :=
  if name = "shell" then .ok (.shell given [] false false false)
  else if name = "parse" then .ok (.parse given none false)
  else if name = "config" then .ok (.config given false)
  else if name = "help" then .ok (.help .program)
  else .error .misuse

/-- Read an option of the program or the name of an action. -/
def stepOptions (given : ProgramOptions) : Word → Except Interruption Reading
  | .plain name => ofAction given name
  | .long "help" none => .error (.help .program)
  | .long "version" none => .error .version
  | .short 'h' => .error (.help .program)
  | .short 'V' => .error .version
  | .long name (some value) => (given.set name value).map fun given => .options given none
  | .long name none => .ok (.options given (some name))
  | _ => .error .misuse

/-- Read an option of a shell. -/
def stepShell (given : ProgramOptions) (seeds : List String) (json : Bool) :
    Word → Except Interruption Reading
  | .escape => .ok (.shell given seeds json false true)
  | .long "seed" (some value) => .ok (.shell given (seeds ++ [value]) json false false)
  | .long "seed" none => .ok (.shell given seeds json true false)
  | .long "json" none =>
    if json then .error .misuse else .ok (.shell given seeds true false false)
  | .long "help" none => .error (.help .shell)
  | .short 'h' => .error (.help .shell)
  | _ => .error .misuse

/-- Take the name that is to be described. -/
def takeName (given : ProgramOptions) (present : Option String) (escaped : Bool)
    (name : String) : Except Interruption Reading :=
  if present.isSome then .error .misuse else .ok (.parse given (some name) escaped)

/-- Read an argument of a description. -/
def stepParse (given : ProgramOptions) (name : Option String) :
    Word → Except Interruption Reading
  | .escape => .ok (.parse given name true)
  | .plain text => takeName given name false text
  | .long "help" none => .error (.help .parse)
  | .short 'h' => .error (.help .parse)
  | _ => .error .misuse

/-- Read an argument of the printing of settings. -/
def stepConfig (given : ProgramOptions) : Word → Except Interruption Reading
  | .escape => .ok (.config given true)
  | .long "help" none => .error (.help .config)
  | .short 'h' => .error (.help .config)
  | _ => .error .misuse

/-- Read what help is asked about. -/
def stepHelp (topic : Topic) (name : String) : Except Interruption Reading :=
  if topic ≠ .program ∧ topic ≠ .help then .error .misuse
  else if name = "shell" then .ok (.help .shell)
  else if name = "parse" then .ok (.help .parse)
  else if name = "config" then .ok (.help .config)
  else if name = "help" then .ok (.help .help)
  else .error .misuse

/-- Read one argument. -/
def step (reading : Reading) (text : String) : Except Interruption Reading :=
  match reading with
  | .options given none => stepOptions given (.ofText text)
  | .options given (some name) =>
    if Word.isValue text then (given.set name text).map fun given => .options given none
    else .error .misuse
  | .shell given seeds json true _ =>
    if Word.isValue text then .ok (.shell given (seeds ++ [text]) json false false)
    else .error .misuse
  | .shell _ _ _ false true => .error .misuse
  | .shell given seeds json false false => stepShell given seeds json (.ofText text)
  | .parse given name true => takeName given name true text
  | .parse given name false => stepParse given name (.ofText text)
  | .config _ true => .error .misuse
  | .config given false => stepConfig given (.ofText text)
  | .help topic => stepHelp topic text

/-- The arguments that have been read completely. -/
def result : Reading → Except Interruption Arguments
  | .shell given seeds json false _ => .ok ⟨given, .shell seeds json⟩
  | .parse given (some name) _ => .ok ⟨given, .parse name⟩
  | .config given _ => .ok ⟨given, .config⟩
  | .help topic => .error (.help topic)
  | _ => .error .misuse

end Reading

/-- Read arguments. -/
def Arguments.ofList (arguments : List String) : Except Interruption Arguments := do
  let reading ← arguments.foldlM Reading.step (.options .none none)
  reading.result

end LiveSearch
