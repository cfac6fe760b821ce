import QuestionBank.Question.Basic
import QuestionBank.Schema.Basic
import QuestionBank.Text.Replace

/-!
# Valid records

A record names the version of its form, a kind that can be stored and a name. A
strict check also applies the schema of records, and gives every violation.
-/

namespace QuestionBank

open QuestionBank.Schema

/-! ## The schema of records -/

/-- A text. -/
def textRules : List Rule := [.type [.string]]

/-- The rules for an answer of a question. -/
def answerRules : List Rule :=
  [.type [.object], .required ["fraction"],
   .properties
    [("text", textRules), ("value", [.type [.number]]),
     ("tolerance", [.type [.number], .atLeast 0]),
     ("fraction", [.type [.number], .atLeast (-1), .atMost 1]), ("feedback", textRules)]]

/-- The rules for a pair of a matching question. -/
def pairRules : List Rule :=
  [.type [.object], .required ["question_text", "answer_text"],
   .properties [("question_text", textRules), ("answer_text", [.type [.string], .nonEmptyText])]]

/-- The rules for an answer of an embedded question. -/
def embeddedAnswerRules : List Rule :=
  [.type [.object], .required ["text", "correct"],
   .properties
    [("text", textRules), ("correct", [.type [.boolean]]), ("feedback", textRules),
     ("tolerance", [.type [.number], .atLeast 0])]]

/-- The rules for an embedded question. -/
def subquestionRules : List Rule :=
  [.type [.object], .required ["position", "kind", "weight", "answers"],
   .properties
    [("position", [.type [.integer], .atLeast 1]),
     ("kind", [.among (Cloze.Kind.all.map fun k => .str k.tag)]),
     ("weight", [.type [.integer], .atLeast 1]),
     ("answers", [.type [.array], .nonEmptyList, .items embeddedAnswerRules])]]

/-- The rules for a text with embedded questions. -/
def embeddedRules : List Rule :=
  [.type [.object, .null], .required ["text", "subquestions"],
   .properties
    [("text", textRules),
     ("subquestions", [.type [.array], .nonEmptyList, .items subquestionRules])]]

/-- The tags of the kinds that can be stored. -/
def storedTags : List Scalar := (Kind.all.filter (· != .unknown)).map fun k => .str k.tag

/-- The kinds that have a list of answers. -/
def answerKinds : List Kind :=
  [.multichoice, .shortAnswer, .shortAnswers, .numerical, .numericalRange]

/-- Their tags. -/
def answerTags : List Scalar := answerKinds.map fun k => .str k.tag

/-- The names that every record has. -/
def requiredNames : List String := ["schema_version", "kind", "name"]

/-- The rules for the members of a record, by their names. -/
def memberRules : List (String × List Rule) :=
  [("schema_version", [.type [.integer], .atLeast 1]),
   ("kind", [.type [.string], .among storedTags]),
   ("name", [.type [.string], .nonEmptyText]), ("question_text", textRules),
   ("question_text_format", [.type [.integer], .among [.int 0, .int 1, .int 2]]),
   ("general_feedback", textRules), ("source_id", textRules),
   ("answers", [.type [.array], .items answerRules]),
   ("subquestions", [.type [.array], .items pairRules]), ("embedded", embeddedRules),
   ("single", [.type [.boolean]]), ("correct_answer", [.type [.boolean]]),
   ("use_case", [.type [.boolean]]), ("blank_count", [.type [.integer], .atLeast 2]),
   ("response_field_lines", [.type [.integer], .atLeast 1])]

/-- A member has to be there, and a list with items. -/
def filledRules (name : String) : List Rule :=
  [.required [name], .properties [(name, [.nonEmptyList])]]

/-- A member has to be there, and an object. -/
def presentRules (name : String) : List Rule :=
  [.required [name], .properties [(name, [.type [.object]])]]

/-- The rules for the kinds that need a member. -/
def kindRules : List Rule :=
  [.whenMember "kind" answerTags (filledRules "answers"),
   .whenMember "kind" [.str Kind.matching.tag] (filledRules "subquestions"),
   .whenMember "kind" [.str Kind.multianswer.tag] (presentRules "embedded")]

/-- The rules for a record. -/
def recordRules : List Rule :=
  .type [.object] :: .required requiredNames :: .properties memberRules :: kindRules

/-! ## What is wrong with a record -/

/-- Why a record, or a line that should hold one, is not valid. -/
inductive Violation where
  | missingFields (names : List String)
  | version (found : Json)
  | unstorable
  | schema (first : Issue) (others : List Issue)
  | unreadableLine (number : Nat) (reason : String)
  | lineWithoutObject (number : Nat)

namespace Violation

/-- The wording of a violation. -/
def message : Violation → String
  | missingFields names => "Missing required fields: " ++ Text.quotedList names
  | version found =>
    "Unsupported record schema version: " ++ found.display ++ " (expected 1)"
  | unstorable => "Unknown questions cannot be stored"
  | schema first _ => "Schema validation failed: " ++ first.message
  | unreadableLine number reason =>
    "Invalid JSON on line " ++ Number.showInt number ++ ": " ++ reason
  | lineWithoutObject number => "Line " ++ Number.showInt number ++ " is not a JSON object"

/-- The place of a violation. -/
def path : Violation → String
  | missingFields _ => ""
  | version _ => "schema_version"
  | unstorable => "kind"
  | schema first _ => first.pathText
  | unreadableLine number _ => "line " ++ Number.showInt number
  | lineWithoutObject number => "line " ++ Number.showInt number

/-- All that is wrong, where there is more than one thing to say. -/
def errors : Violation → List String
  | missingFields names => names.map ("Missing field: " ++ ·)
  | schema first others => (first :: others).map Issue.message
  | _ => []

end Violation

/-- Why a value is not taken as a record. -/
inductive RecordFault where
  | invalid (violation : Violation)
  | unknownKind (kind : Json)
  | unknownFormat (format : Json)
  | unknownEmbeddedKind (kind : Json)
  | missingMember (name : String)
  | misshapen
  | withoutMembers

/-- The wording of a fault of a value in a record. -/
def RecordFault.message : RecordFault → String
  | invalid violation => violation.message
  | unknownKind kind => "Unknown question kind in record: " ++ kind.shown
  | unknownFormat format => format.shown ++ " is not a valid TextFormat"
  | unknownEmbeddedKind kind => kind.shown ++ " is not a valid ClozeKind"
  | missingMember name => Text.quoted name
  | misshapen => ""
  | withoutMembers => ""

/-- What is wrong with the members of a record. -/
def violation? (strict : Bool) (members : List (String × Json)) : Option Violation :=
  let missing := requiredNames.filter fun name => (members.lookup name).isNone
  if !missing.isEmpty then some (.missingFields missing)
  else
    let version := (members.lookup "schema_version").getD .null
    let isCurrent :=
      match version with
      | .bool b => b
      | v => (Scalar.int 1).equals v
    if !isCurrent then some (.version version)
    else if (members.lookup "kind").map (fun k => (Scalar.str Kind.unknown.tag).equals k) =
        some true then some .unstorable
    else if strict then
      match violations recordRules (.obj members) with
      | [] => none
      | first :: others => some (.schema first others)
    else none

/-- Checks a value as a record. A text or a list is searched for the required names as
if they were members, but it has none. -/
def validate (strict : Bool) (j : Json) : Except RecordFault Unit :=
  let search (holds : String → Bool) : Except RecordFault Unit :=
    match requiredNames.filter fun name => !holds name with
    | [] => .error .withoutMembers
    | missing => .error (.invalid (.missingFields missing))
  match j with
  | .obj members =>
    match violation? strict members with
    | some violation => .error (.invalid violation)
    | none => .ok ()
  | .arr items => search fun name => items.any fun item => (Scalar.str name).equals item
  | .str s => search fun name => Text.occursIn name.toList s.toList
  | _ => .error .misshapen

end QuestionBank
