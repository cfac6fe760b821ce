import QuestionBank.Bank.Files
import QuestionBank.Failure
import QuestionBank.Json.Printer
import QuestionBank.Json.Reader
import QuestionBank.Question.Load
import QuestionBank.Text.Lines

/-!
# Records in files

A question bank is a file with one record a line, written as JSON text. Records are
added at the end, each as a whole line. Blank lines are skipped when a file is read.
-/

namespace QuestionBank

/-- A value as a line of a bank. -/
def bankLine (j : Json) : Except Breach String :=
  if j.isWritable then .ok (j.render ++ "\n") else .error .integerTooLong

/-- Adds values to a bank, all of them or none; a bank to which nothing is added is left
alone. -/
def Files.appendValues (files : Files) (path : String) (values : List Json) :
    Except Breach Files :=
  (values.mapM bankLine).map fun lines =>
    if lines.isEmpty then files else files.append path (String.join lines)

/-- The lines of values up to the first that cannot be written, and how the writing ends. -/
def writtenLines : List Json → String × Except Breach Unit
  | [] => ("", .ok ())
  | j :: values =>
    match bankLine j with
    | .error breach => ("", .error breach)
    | .ok line =>
      let (text, result) := writtenLines values
      (line ++ text, result)

/-- Writes questions to a bank, one by one, in place of what it held. -/
def Files.saveRecords (files : Files) (path : String) (records : List Record) :
    Files × Except Breach Unit :=
  let (text, result) := writtenLines (records.map Record.toJson)
  (files.write path text, result)

/-- Why a bank cannot be loaded. -/
inductive LoadFault where
  | missingFile (path : String)
  | record (fault : RecordFault)
  | numeralTooLong (digits : Nat)

/-- The wording of a load fault. -/
def LoadFault.message : LoadFault → String
  | missingFile path => "Questions file not found: " ++ path
  | record fault => fault.message
  | numeralTooLong digits => Number.numeralTooLong digits

/-- The value of a line that is not blank. -/
def valueOfLine (number : Nat) (line : String) : Except LoadFault Json :=
  match Json.read line with
  | .ok (.obj members) => .ok (.obj members)
  | .ok _ => .error (.record (.invalid (.lineWithoutObject number)))
  | .error e =>
    match e.cause with
    | .integerTooLong digits => .error (.numeralTooLong digits)
    | cause => .error (.record (.invalid (.unreadableLine number cause.message)))

/-- The values of lines, counted from 1. -/
def valuesOfLines (text : String) : Except LoadFault (List Json) :=
  let lines := (Text.lines text).zipIdx.map fun (line, i) => (i + 1, Text.strip line)
  (lines.filter fun entry => !entry.2.isEmpty).mapM fun (number, line) => valueOfLine number line

/-- The values of a bank. -/
def Files.loadValues (files : Files) (path : String) : Except LoadFault (List Json) :=
  match files.read? path with
  | some text => valuesOfLines text
  | none => .error (.missingFile path)

/-- The records of a bank, each checked first if `checked`. -/
def Files.loadRecords (files : Files) (path : String) (checked : Bool) :
    Except LoadFault (List Record) :=
  (files.loadValues path).bind fun values =>
    values.mapM fun j =>
      match Record.ofStored checked j with
      | .ok r => .ok r
      | .error fault => .error (.record fault)

end QuestionBank
