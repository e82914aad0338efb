import LiveSearch.Text.Blank

/-!
# Logging to files

Two files receive the records of a program: one everything, the other what concerns sessions.
Both keep records up to one level.  A record belongs to a logger if its target is the logger's
name or lies below it in the hierarchy that double colons spell.
-/

namespace LiveSearch

namespace Log

/-- How important a record is. -/
inductive Level
  | error
  | warn
  | info
  | debug
  | trace
deriving DecidableEq

namespace Level

/-- The place of a level, the most important first. -/
def rank : Level → Nat
  | error => 1
  | warn => 2
  | info => 3
  | debug => 4
  | trace => 5

/-- The name of a level in records. -/
def name : Level → String
  | error => "ERROR"
  | warn => "WARN"
  | info => "INFO"
  | debug => "DEBUG"
  | trace => "TRACE"

/-- The name of a level in settings. -/
def setting : Level → String
  | error => "error"
  | warn => "warn"
  | info => "info"
  | debug => "debug"
  | trace => "trace"

/-- All levels. -/
def all : List Level := [error, warn, info, debug, trace]

/-- The level that a setting names, letters of either case. -/
def ofSetting? (text : String) : Option Level :=
  all.find? (·.setting = String.ofList (Text.lowerAscii text.toList))

/-- The level of a setting; anything unknown counts as `info`. -/
def ofSetting (text : Option String) : Level := (text.bind ofSetting?).getD info

end Level

/-- A logger other than the root: its name, the least important level it keeps, the files it
writes to, and whether the root receives its records as well. -/
structure Logger where
  name : String
  level : Level
  appenders : List String
  additive : Bool

/-- Where records go. -/
structure Setup where
  rootLevel : Level
  rootAppenders : List String
  appenders : List String
  loggers : List Logger

/-- The target of records about sessions. -/
def sessionTarget : String := "search_provider::sessions"

/-- Everything goes to one file, and records about sessions to a second one as well. -/
def Setup.files (level : Option String) : Setup where
  rootLevel := .ofSetting level
  rootAppenders := ["app"]
  appenders := ["app", "sessions"]
  loggers := [⟨sessionTarget, .ofSetting level, ["sessions"], true⟩]

/-- A record. -/
structure Record where
  target : String
  level : Level
  text : String

/-- The line of a record behind its date and time. -/
def Record.line (record : Record) : String :=
  "[" ++ record.level.name ++ "] " ++ record.target ++ " - " ++ record.text

/-- Whether a target is the name of a logger or lies below it. -/
def isBelow (target name : String) : Bool :=
  target == name || (name ++ "::").toList.isPrefixOf target.toList

/-- The files that receive a record: those of its logger, and the root's unless the logger keeps
its records to itself. -/
def Setup.receivers (setup : Setup) (record : Record) : List String :=
  let keeps (level : Level) : Bool := record.level.rank ≤ level.rank
  match setup.loggers.find? fun logger => isBelow record.target logger.name with
  | none => if keeps setup.rootLevel then setup.rootAppenders else []
  | some logger =>
    if !keeps logger.level then []
    else (if logger.additive then setup.rootAppenders else []) ++ logger.appenders

/-- The lines of a file after some records. -/
def Setup.lines (setup : Setup) (file : String) (records : List Record) : List String :=
  (records.filter fun record => (setup.receivers record).contains file).map Record.line

end Log

end LiveSearch
