import QuestionBank.Cloze.Basic
import QuestionBank.Scoring.Numeric

/-!
# Questions

A question has a header, which is the same for all kinds, and a body that depends
on its kind. A category marker is a question without content: its name is the path
of the category for the questions that follow. A question of a kind that is not
supported keeps its tag only.
-/

namespace QuestionBank

/-- The kind of a question. -/
inductive Kind where
  | multichoice
  | trueFalse
  | shortAnswer
  | shortAnswers
  | numerical
  | numericalRange
  | essay
  | matching
  | multianswer
  | category
  | unknown
  deriving DecidableEq, Inhabited

namespace Kind

/-- The tag of a kind in records. -/
def tag : Kind → String
  | multichoice => "multichoice"
  | trueFalse => "truefalse"
  | shortAnswer => "shortanswer"
  | shortAnswers => "shortanswer_multi"
  | numerical => "numerical"
  | numericalRange => "numerical_ranged"
  | essay => "essay"
  | matching => "match"
  | multianswer => "multianswer"
  | category => "category"
  | unknown => "unknown"

/-- All kinds. -/
def all : List Kind :=
  [multichoice, trueFalse, shortAnswer, shortAnswers, numerical, numericalRange, essay, matching,
    multianswer, category, unknown]

/-- The kind with a tag. -/
def ofTag? (s : String) : Option Kind := all.find? fun k => k.tag = s

end Kind

/-- The format of a question text. -/
inductive TextFormat where
  | automatic
  | html
  | plain
  deriving DecidableEq, Inhabited

/-- The code of a format in records. -/
def TextFormat.code : TextFormat → Nat
  | automatic => 0
  | html => 1
  | plain => 2

/-- What questions of all kinds have. -/
structure Header where
  name : String
  text : String := ""
  format : TextFormat := .html
  generalFeedback : String := ""
  sourceId : String := ""
  deriving DecidableEq

/-- A choice with its share of credit. -/
structure ChoiceAnswer where
  text : String
  fraction : Binary64
  feedback : String := ""
  deriving DecidableEq

/-- An accepted text with its share of credit. -/
structure TextAnswer where
  text : String
  fraction : Binary64 := .one
  feedback : String := ""
  deriving DecidableEq

/-- A stem and its answer. An answer without a stem is a distractor. -/
structure MatchPair where
  stem : String
  answer : String
  deriving DecidableEq

/-- What a question has by its kind. -/
inductive Body where
  | multichoice (answers : List ChoiceAnswer) (single shuffled : Bool) (numbering : String)
      (correctFeedback partialFeedback incorrectFeedback : String)
  | trueFalse (correct : Bool) (feedbackTrue feedbackFalse : String)
  | shortAnswer (answers : List TextAnswer) (caseSensitive : Bool)
  | shortAnswers (answers : List TextAnswer) (caseSensitive : Bool) (blanks : Nat)
  | numerical (answers : List Scoring.NumericAnswer) (ranged : Bool)
  | essay (responseFormat : String) (fieldLines : Int) (graderInfo : String)
  | matching (pairs : List MatchPair) (shuffled : Bool) (correctFeedback incorrectFeedback : String)
  | multianswer (embedded : Cloze.Embedded)
  | category
  | unknown (tag : String)
  deriving DecidableEq

/-- The kind of a body. -/
def Body.kind : Body → Kind
  | multichoice .. => .multichoice
  | trueFalse .. => .trueFalse
  | shortAnswer .. => .shortAnswer
  | shortAnswers .. => .shortAnswers
  | numerical _ ranged => if ranged then .numericalRange else .numerical
  | essay .. => .essay
  | matching .. => .matching
  | multianswer _ => .multianswer
  | category => .category
  | unknown _ => .unknown

/-- A question. -/
structure Question where
  header : Header
  body : Body
  deriving DecidableEq

namespace Question

/-- The name of a question. -/
def name (q : Question) : String := q.header.name

/-- The kind of a question. -/
def kind (q : Question) : Kind := q.body.kind

/-- The marker of the category for a topic. -/
def categoryMarker (topic : String) : Question :=
  ⟨{ name := "$course$/" ++ Text.strip topic }, .category⟩

end Question

end QuestionBank
