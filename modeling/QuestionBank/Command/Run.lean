import QuestionBank.Command.Options
import QuestionBank.Import.Run

/-!
# Runs of the command

A run imports one document. The records go to a bank in a file, checked, or to the
standard output as they are; the summary goes where the records do not. A document
that cannot be read ends the run with a word in the log only.
-/

namespace QuestionBank.Command

open QuestionBank.Document

/-- The beginning of the help text. -/
def usage : String :=
  "usage: qml-import [-h] [-o OUTPUT] [--variables VARIABLES] [--lang LANG]\n" ++
  "                  [--workers WORKERS] [--report REPORT] [--strict] [-v]\n" ++
  "                  [--version]\n" ++
  "                  input\n"

/-- The help text. -/
def help : String :=
  usage ++
  "\nImport Questionmark QML questions as question-bank records\n" ++
  "\npositional arguments:\n" ++
  "  input                 QML document to import\n" ++
  "\noptions:\n" ++
  "  -h, --help            show this help message and exit\n" ++
  "  -o OUTPUT, --output OUTPUT\n" ++
  "                        Append records to this JSONL file (default: write\n" ++
  "                        records to stdout)\n" ++
  "  --variables VARIABLES\n" ++
  "                        JSON object of template variables\n" ++
  "  --lang LANG           Message language (default: en)\n" ++
  "  --workers WORKERS     Questions converted in parallel\n" ++
  "  --report REPORT       Write a JSON diagnostics report here\n" ++
  "  --strict              Validate every record against the full JSON schema\n" ++
  "  -v, --verbose         Debug logging\n" ++
  "  --version             show program's version number and exit\n"

/-- The version of the command. -/
def versionText : String := "qml-import 0.1.0\n"

/-- What a run leaves behind. The log stands before the standard error. -/
structure Outcome where
  exit : Nat
  stdout : String := ""
  log : String := ""
  stderr : String := ""
  files : Files

/-- The outcome of wrong arguments. -/
def usageOutcome (files : Files) (e : UsageError) : Outcome :=
  { exit := 2, log := usage, stderr := "qml-import: error: " ++ e.message ++ "\n", files }

/-- Tells whether a path is that of a directory with files in it. -/
def isDirectory (files : Files) (path : String) : Bool :=
  path == "." || files.entries.any fun e => (path ++ "/").toList.isPrefixOf e.1.toList

/-- The template variables in a file. -/
def loadTemplate (files : Files) (path : String) : Except UsageError Template :=
  match files.read? path with
  | none =>
    .error (if isDirectory files path then .templateDirectory path else .templateMissing path)
  | some text =>
    match Json.ofChars (Text.withLineFeeds text.toList) with
    | .error e => .error (.templateUnreadable e.message)
    | .ok (.obj members) =>
      match Template.ofMembers members with
      | .ok t => .ok t
      | .error e => .error (.setting e.message)
    | .ok _ => .error (.templateNotObject path)

/-- The configuration that options ask for. -/
def configOf (files : Files) (o : Options) : Except UsageError Config :=
  let template := match o.template with
    | some path => loadTemplate files path
    | none => .ok {}
  match template with
  | .error e => .error e
  | .ok template =>
    let c : Config :=
      { language := o.lang, template, workers := o.workers, strict := o.strict }
    match c.checked with
    | .ok c => .ok c
    | .error e => .error (.setting e.message)

/-- The files with the report, if one is asked for. -/
def withReport (o : Options) (time : String) (d : Diagnostics) (files : Files) : Files :=
  match o.report with
  | some path => files.write path (d.reportText time)
  | none => files

/-- Imports into a bank in a file. -/
def runToFile (c : Config) (o : Options) (path time : String) (files : Files) (source : Source) :
    Except ImportStop Outcome :=
  (importSource c (Sink.file path c.strict) { files } none source).map fun p =>
    { exit := 0
      stdout := p.summary ++ "\n"
      files := withReport o time p.diagnostics p.sink.files }

/-- Imports and writes the records to the standard output. -/
def runToOutput (c : Config) (o : Options) (time : String) (files : Files) (source : Source) :
    Except ImportStop Outcome :=
  (importSource c Sink.memory [] none source).bind fun p =>
    match p.sink.mapM fun r => bankLine r.toJson with
    | .error breach => .error (.broken breach)
    | .ok lines =>
      .ok
        { exit := 0
          stdout := String.join lines
          stderr := p.summary ++ "\n"
          files := withReport o time p.diagnostics files }

/-- Runs the command on its arguments and the files at a time. `bytesOf` gives the bytes of
the document at a path. -/
def run (arguments : List String) (bytesOf : String → Option (List UInt8)) (files : Files)
    (time : String) : Except ImportStop Outcome :=
  match Options.ofArguments arguments with
  | .error .help => .ok { exit := 0, stdout := help, files }
  | .error .version => .ok { exit := 0, stdout := versionText, files }
  | .error (.error e) => .ok (usageOutcome files e)
  | .ok o =>
    let input := o.input.getD ""
    match bytesOf input with
    | none => .ok (usageOutcome files (.inputMissing input))
    | some bytes =>
      match configOf files o with
      | .error e => .ok (usageOutcome files e)
      | .ok c =>
        let source : Source := ⟨fileName input, bytes⟩
        let result := match o.output with
          | some path => runToFile c o path time files source
          | none => runToOutput c o time files source
        match result with
        | .error (.document refusal) =>
          .ok { exit := 1, log := (ImportStop.document refusal).message ++ "\n", files }
        | result => result

end QuestionBank.Command
