import QuestionBank.Command.Run
import Std.Time.Format

/-!
# The program

The program reads the files that its arguments name, runs the command on them, and writes
what the run leaves behind. All decisions are those of `Command.run`.
-/

namespace QuestionBank.Command

/-- The result of an action, or nothing where no file is; `directory` takes its place where
a directory is. -/
def readingFile {α : Type} (directory : Option α) (action : IO α) : IO (Option α) := do
  try
    return some (← action)
  catch e =>
    match e with
    | .noFileOrDirectory .. => return none
    | .inappropriateType .. => return directory
    | e => throw e

/-- The text at a path. A directory is shown as a path that goes on after it. -/
def textAt (path : String) : IO (List (String × String)) := do
  let found ← readingFile (some (path ++ "/", "")) do return (path, ← IO.FS.readFile path)
  return found.toList

/-- The bytes of the file at a path. -/
def bytesAt (path : String) : IO (Option (List UInt8)) :=
  readingFile none do return (← IO.FS.readBinFile path).toList

/-- The time as reports give it. -/
def currentTime : IO String := do
  let now ← Std.Time.Timestamp.now
  return (Std.Time.DateTime.ofTimestampWithZone now .UTC).format
    "uuuu-MM-dd'T'HH:mm:ss.SSSSSSxxx"

/-- Writes the files that differ from those before. -/
def writeChanges (before after : Files) : IO Unit :=
  for (path, text) in after.entries do
    unless before.read? path == some text do
      IO.FS.createDirAll (parentPath path)
      IO.FS.writeFile path text

/-- Runs the command on arguments and gives its exit code. -/
def runProgram (arguments : List String) : IO UInt32 := do
  let options := match Options.ofArguments arguments with
    | .ok o => o
    | .error _ => {}
  let texts ← (options.template.toList ++ options.output.toList).mapM textAt
  let bytes ← match options.input with
    | some path => bytesAt path
    | none => pure none
  let files : Files := ⟨texts.flatten⟩
  match run arguments (fun _ => bytes) files (← currentTime) with
  | .error stop => throw (IO.userError stop.message)
  | .ok outcome =>
    writeChanges files outcome.files
    IO.print outcome.stdout
    IO.eprint (outcome.log ++ outcome.stderr)
    return outcome.exit.toUInt32

end QuestionBank.Command

/-- The program. -/
def main (arguments : List String) : IO UInt32 := QuestionBank.Command.runProgram arguments
