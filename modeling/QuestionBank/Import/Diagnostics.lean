import QuestionBank.Failure
import QuestionBank.Json.Printer
import QuestionBank.Question.Validation

/-!
# Diagnostics of an import

Diagnostics collect what happens to the questions of one or more documents. A report
counts the issues by kind and lists them by the position of their question.
-/

namespace QuestionBank

/-- The kind of an issue. -/
inductive IssueKind where
  | failed
  | unsupported
  | notice
  deriving DecidableEq

/-- The name of an issue kind in reports. -/
def IssueKind.name : IssueKind → String
  | failed => "failed"
  | unsupported => "unsupported"
  | notice => "notice"

/-- The name of a cause in reports. -/
def Cause.name : Cause → String
  | condition .. => "ConditionParseError"
  | noCredit _ => "ZeroCorrectAnswersError"
  | missing _ => "MissingNodeError"
  | unsupported _ => "UnsupportedQuestionError"
  | markup _ => "ClozeSyntaxError"

/-- The question that an issue concerns. -/
structure QuestionLabel where
  position : Int
  id : String
  name : String
  deriving DecidableEq

/-- Something that happened to a question. -/
structure QuestionIssue where
  kind : IssueKind
  question : QuestionLabel
  message : String
  error : String := ""
  condition : String := ""
  deriving DecidableEq

/-- An issue in a report. -/
def QuestionIssue.toJson (i : QuestionIssue) : Json :=
  .obj ([("issue_type", .str i.kind.name), ("position", .int i.question.position),
      ("question_id", .str i.question.id), ("question_name", .str i.question.name),
      ("message", .str i.message)]
    ++ (if i.error.isEmpty then [] else [("error", .str i.error)])
    ++ (if i.condition.isEmpty then [] else [("condition", .str i.condition)]))

/-- What happened so far, in the order in which it was recorded. -/
structure Diagnostics where
  sourceName : String := ""
  recorded : List QuestionIssue := []
  imported : Int := 0
  deriving DecidableEq

namespace Diagnostics

/-- Records an issue. -/
def add (d : Diagnostics) (i : QuestionIssue) : Diagnostics :=
  { d with recorded := d.recorded ++ [i] }

/-- Records that a question is not converted. -/
def addFailure (d : Diagnostics) (q : QuestionLabel) (f : Failure) : Diagnostics :=
  d.add ⟨.failed, q, f.message, f.cause.name, f.condition⟩

/-- Records that a question is converted and refused. -/
def addViolation (d : Diagnostics) (q : QuestionLabel) (v : Violation) : Diagnostics :=
  d.add ⟨.failed, q, v.message, "ValidationError", ""⟩

/-- Records that a question is of a kind that is not supported. -/
def addUnsupported (d : Diagnostics) (q : QuestionLabel) (message : String) : Diagnostics :=
  d.add ⟨.unsupported, q, message, "", ""⟩

/-- Records what the user is told of a question. -/
def addNotice (d : Diagnostics) (q : QuestionLabel) (message : String) : Diagnostics :=
  d.add ⟨.notice, q, message, "", ""⟩

/-- Counts imported questions. -/
def addImported (d : Diagnostics) (count : Int) : Diagnostics :=
  { d with imported := d.imported + count }

/-- The issues by the position of their question; those of one position in the order in
which they were recorded. -/
def issues (d : Diagnostics) : List QuestionIssue :=
  d.recorded.mergeSort fun a b => decide (a.question.position ≤ b.question.position)

/-- The number of issues of a kind. -/
def count (d : Diagnostics) (kind : IssueKind) : Nat := d.recorded.countP fun i => i.kind == kind

/-- The number of imported questions and of issues of each kind. -/
def summary (d : Diagnostics) : Json :=
  .obj (("imported", .int d.imported) ::
    [IssueKind.failed, .unsupported, .notice].map fun k => (k.name, .int (d.count k)))

/-- The report without the time when it was made. -/
def reportMembers (d : Diagnostics) : List (String × Json) :=
  [("source", .str d.sourceName), ("summary", d.summary),
    ("total_issues", .int d.recorded.length), ("issues", .arr (d.issues.map QuestionIssue.toJson))]

/-- The text of the report, made at a time. -/
def reportText (d : Diagnostics) (time : String) : String :=
  (Json.obj (("generated_at", .str time) :: d.reportMembers)).indented

end Diagnostics

end QuestionBank
