import QuestionBank.Json.Basic
import QuestionBank.Question.Basic

/-!
# Records

A record is the stored form of a question: its kind and its fields in order. The
fields of a kind are listed with their defaults in `Kind.fields`; the same list
serves to write a question and to read it back.
-/

namespace QuestionBank

open QuestionBank.Json

/-- A member of an answer in a record, with the value that it takes when it is left
out. -/
structure Part where
  name : String
  default : Option Json := none

/-- The form of a field. -/
inductive FieldForm where
  | any
  | format
  | answers (parts : List Part)
  | embedded

/-- A field of a record, with the value that it takes when it is left out. -/
structure Field where
  name : String
  form : FieldForm := .any
  default : Option Json := some (.str "")

/-- The parts of a choice. -/
def choiceParts : List Part :=
  [⟨"text", none⟩, ⟨"fraction", none⟩, ⟨"feedback", some (.str "")⟩]

/-- The parts of an accepted text. -/
def textParts : List Part :=
  [⟨"text", none⟩, ⟨"fraction", some (.float .one)⟩, ⟨"feedback", some (.str "")⟩]

/-- The parts of an accepted number. -/
def numericParts : List Part :=
  [⟨"value", none⟩, ⟨"tolerance", some (.float (.zero false))⟩, ⟨"fraction", some (.float .one)⟩,
   ⟨"feedback", some (.str "")⟩]

/-- The parts of a pair. -/
def pairParts : List Part := [⟨"question_text", none⟩, ⟨"answer_text", none⟩]

/-- The fields of every record. -/
def headerFields : List Field :=
  [⟨"name", .any, none⟩, ⟨"question_text", .any, some (.str "")⟩,
   ⟨"question_text_format", .format, some (.int 1)⟩, ⟨"general_feedback", .any, some (.str "")⟩,
   ⟨"source_id", .any, some (.str "")⟩]

/-- The field of a list of answers. -/
def answersField (parts : List Part) : Field := ⟨"answers", .answers parts, some (.arr [])⟩

/-- The fields of a record of a kind after those of every record. -/
def Kind.ownFields : Kind → List Field
  | .multichoice =>
    [answersField choiceParts, ⟨"single", .any, some (.bool true)⟩,
     ⟨"shuffle_answers", .any, some (.bool false)⟩, ⟨"answer_numbering", .any, some (.str "abc")⟩,
     { name := "correct_feedback" }, { name := "partially_correct_feedback" },
     { name := "incorrect_feedback" }]
  | .trueFalse =>
    [⟨"correct_answer", .any, some (.bool true)⟩, { name := "feedback_true" },
     { name := "feedback_false" }]
  | .shortAnswer => [answersField textParts, ⟨"use_case", .any, some (.bool false)⟩]
  | .shortAnswers =>
    [answersField textParts, ⟨"use_case", .any, some (.bool false)⟩,
     ⟨"blank_count", .any, some (.int 2)⟩]
  | .numerical => [answersField numericParts]
  | .numericalRange => [answersField numericParts]
  | .essay =>
    [⟨"response_format", .any, some (.str "editor")⟩,
     ⟨"response_field_lines", .any, some (.int 15)⟩, { name := "grader_info" }]
  | .matching =>
    [⟨"subquestions", .answers pairParts, some (.arr [])⟩,
     ⟨"shuffle_answers", .any, some (.bool true)⟩, { name := "correct_feedback" },
     { name := "incorrect_feedback" }]
  | .multianswer => [⟨"embedded", .embedded, some .null⟩]
  | .category => []
  | .unknown => [{ name := "qtype" }]

/-- The fields of a record of a kind, in order. -/
def Kind.fields (k : Kind) : List Field := headerFields ++ k.ownFields

/-- The stored form of a question. -/
structure Record where
  kind : Kind
  members : List (String × Json)

namespace Record

/-- The value of a member, `null` when there is none. -/
def get (r : Record) (name : String) : Json := (r.members.lookup name).getD .null

/-- A record without the version of its form. -/
def body (r : Record) : Json := .obj (("kind", .str r.kind.tag) :: r.members)

/-- The version of the form of records. -/
def version : Int := 1

/-- A record as it is stored. -/
def toJson (r : Record) : Json :=
  .obj (("schema_version", .int version) :: ("kind", .str r.kind.tag) :: r.members)

end Record

/-! ## Questions as records -/

/-- A choice in a record. -/
def ChoiceAnswer.toJson (a : ChoiceAnswer) : Json :=
  .obj [("text", .str a.text), ("fraction", .float a.fraction), ("feedback", .str a.feedback)]

/-- An accepted text in a record. -/
def TextAnswer.toJson (a : TextAnswer) : Json :=
  .obj [("text", .str a.text), ("fraction", .float a.fraction), ("feedback", .str a.feedback)]

/-- An accepted number in a record. -/
def Scoring.NumericAnswer.toJson (a : Scoring.NumericAnswer) : Json :=
  .obj [("value", .float a.value), ("tolerance", .float a.tolerance),
    ("fraction", .float a.fraction), ("feedback", .str a.feedback)]

/-- A pair in a record. -/
def MatchPair.toJson (p : MatchPair) : Json :=
  .obj [("question_text", .str p.stem), ("answer_text", .str p.answer)]

/-- An answer of an embedded question in a record; only a number has a tolerance. -/
def Cloze.Answer.toJson (a : Cloze.Answer) : Json :=
  .obj ([("text", .str a.text), ("correct", .bool a.correct), ("feedback", .str a.feedback)] ++
    (a.tolerance.map fun x => ("tolerance", Json.float x)).toList)

/-- An embedded question in a record. -/
def Cloze.Subquestion.toJson (s : Cloze.Subquestion) : Json :=
  .obj [("position", .int s.position), ("kind", .str s.kind.tag), ("weight", .int s.weight),
    ("answers", .arr (s.answers.map Cloze.Answer.toJson))]

/-- A text with embedded questions in a record. -/
def Cloze.Embedded.toJson (e : Cloze.Embedded) : Json :=
  .obj [("text", .str e.text),
    ("subquestions", .arr (e.subquestions.map Cloze.Subquestion.toJson))]

/-- The header of a question in a record. -/
def Header.members (h : Header) : List (String × Json) :=
  [("name", .str h.name), ("question_text", .str h.text),
   ("question_text_format", .int h.format.code), ("general_feedback", .str h.generalFeedback),
   ("source_id", .str h.sourceId)]

/-- The body of a question in a record. -/
def Body.members : Body → List (String × Json)
  | multichoice answers single shuffled numbering correct part incorrect =>
    [("answers", .arr (answers.map ChoiceAnswer.toJson)), ("single", .bool single),
     ("shuffle_answers", .bool shuffled), ("answer_numbering", .str numbering),
     ("correct_feedback", .str correct), ("partially_correct_feedback", .str part),
     ("incorrect_feedback", .str incorrect)]
  | trueFalse correct feedbackTrue feedbackFalse =>
    [("correct_answer", .bool correct), ("feedback_true", .str feedbackTrue),
     ("feedback_false", .str feedbackFalse)]
  | shortAnswer answers caseSensitive =>
    [("answers", .arr (answers.map TextAnswer.toJson)), ("use_case", .bool caseSensitive)]
  | shortAnswers answers caseSensitive blanks =>
    [("answers", .arr (answers.map TextAnswer.toJson)), ("use_case", .bool caseSensitive),
     ("blank_count", .int blanks)]
  | numerical answers _ => [("answers", .arr (answers.map Scoring.NumericAnswer.toJson))]
  | essay responseFormat fieldLines graderInfo =>
    [("response_format", .str responseFormat), ("response_field_lines", .int fieldLines),
     ("grader_info", .str graderInfo)]
  | matching pairs shuffled correct incorrect =>
    [("subquestions", .arr (pairs.map MatchPair.toJson)), ("shuffle_answers", .bool shuffled),
     ("correct_feedback", .str correct), ("incorrect_feedback", .str incorrect)]
  | multianswer embedded => [("embedded", embedded.toJson)]
  | category => []
  | unknown tag => [("qtype", .str tag)]

/-- A question as a record. -/
def Question.toRecord (q : Question) : Record := ⟨q.kind, q.header.members ++ q.body.members⟩

end QuestionBank
