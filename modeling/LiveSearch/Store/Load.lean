import LiveSearch.Error
import LiveSearch.Json.Parser
import LiveSearch.Store.Database
import LiveSearch.Text.Blank

/-!
# Loading records

A stream of bytes holds one record to a line.  The records are stored one after another, replacing
those with the same key; blank lines are skipped, and the first line that holds no record ends the
loading.
-/

namespace LiveSearch

/-- The lines of a stream without their line feeds; nothing behind the last line feed is no line. -/
def splitLines : List UInt8 → List (List UInt8)
  | [] => []
  | byte :: rest =>
    if byte = 10 then [] :: splitLines rest
    else match splitLines rest with
      | [] => [[byte]]
      | line :: later => (byte :: line) :: later

/-- The text of a line, unless it is not UTF-8. -/
def lineText? (line : List UInt8) : Option String := String.fromUTF8? ⟨line.toArray⟩

namespace Database

/-- The record of a line; blank lines have none. -/
def lineRecord (line : List UInt8) : Except Failure (Option Json) :=
  match lineText? line with
  | none => .error (.unreadable "stream did not contain valid UTF-8")
  | some text =>
    match Text.trim text.toList with
    | [] => .ok none
    | chars =>
      match Json.parseWithin? Json.depthLimit chars with
      | none => .error (.invalidJson "not a JSON value")
      | some record => .ok (some record)

/-- Store the records of lines, counting them. -/
def loadLines (name : String) :
    Database → Nat → List (List UInt8) → Database × Except Failure Nat
  | database, loaded, [] => (database, .ok loaded)
  | database, loaded, line :: rest =>
    match lineRecord line with
    | .error failure => (database, .error failure)
    | .ok none => loadLines name database loaded rest
    | .ok (some record) =>
      match database.upsert name record with
      | (after, .error failure) => (after, .error (.service failure))
      | (after, .ok _) => loadLines name after (loaded + 1) rest

/-- Create a table and store the records of a stream in it. -/
def load (database : Database) (name : String) (bytes : List UInt8) :
    Database × Except Failure Nat :=
  loadLines name (database.createTable name) 0 (splitLines bytes)

end Database

end LiveSearch
