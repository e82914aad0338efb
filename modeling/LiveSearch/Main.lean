import LiveSearch.Program

/-!
# The executable

Looks up the variables and files that the program wants, and carries input to it and reports back,
line by line while its shell runs.
-/

namespace LiveSearch

namespace Console

/-- Read a file; a file that cannot be read has no content. -/
def readFile? (name : String) : IO (Option (List UInt8)) := do
  try return some (← IO.FS.readBinFile name).toList
  catch _ => return none

/-- Make a directory; tell whether it is there. -/
def makeDirectory (name : String) : IO Bool := do
  try
    if name ≠ "" then IO.FS.createDirAll name
    return true
  catch _ => return false

/-- Look up what the program may ask for. -/
def survey (arguments : List String) : IO Surroundings := do
  let names := ["SEARCH_PROVIDER_PREFIX", "SEARCH_PROVIDER_PRIMARY_KEY",
    "SEARCH_PROVIDER_LOG_LEVEL", Settings.fileVariable]
  let found ← names.mapM fun name => return (name, ← IO.getEnv name)
  let getVar? := fun name => (found.lookup name).join
  let files ← (Program.filesWanted getVar? arguments).mapM fun name =>
    return (name, ← readFile? name)
  let reachable : Surroundings := ⟨getVar?, fun name => (files.lookup name).join, fun _ => true⟩
  match Program.directoryWanted reachable arguments with
  | none => return reachable
  | some directory =>
    let made ← makeDirectory directory
    return { reachable with admits := fun _ => made }

/-- Show a report. -/
def present (report : Report) : IO UInt32 := do
  IO.print report.output
  for message in report.messages do IO.eprintln message
  return report.code.toUInt32

/-- Read a line without its line feed; nothing at the end of the input. -/
partial def readLine? (input : IO.FS.Stream) (line : List UInt8) : IO (Option (List UInt8)) := do
  match (← input.read 1).toList with
  | [] => return if line = [] then none else some line.reverse
  | byte :: _ => if byte = 10 then return some line.reverse else readLine? input (byte :: line)

/-- Show the end of a shell. -/
def close (transcript : Transcript) : IO UInt32 := present (Program.report [] transcript)

/-- Carry lines to a shell until it ends. -/
partial def converse (input : IO.FS.Stream) (shell : Shell) : IO UInt32 := do
  match ← readLine? input [] with
  | none => close shell.settle.leave
  | some line =>
    match shell.settle.takeLine line with
    | .finish transcript => close transcript
    | .goOn next lines =>
      IO.print (Program.joinLines lines)
      (← IO.getStdout).flush
      converse input next

end Console

end LiveSearch

open LiveSearch in
/-- Run the program. -/
def main (arguments : List String) : IO UInt32 := do
  match Program.launch (← Console.survey arguments) arguments with
  | .done report => Console.present report
  | .shell shell messages =>
    for message in messages do IO.eprintln message
    Console.converse (← IO.getStdin) shell
