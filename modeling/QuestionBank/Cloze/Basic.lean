import QuestionBank.Number.Binary64

/-!
# Embedded questions

An embedded question is a text in which numbered places stand for questions of
their own. Each of these has a kind, a weight and its answers in order.
-/

namespace QuestionBank.Cloze

/-- The kind of an embedded question. -/
inductive Kind where
  | multichoice
  | numerical
  | shortAnswer
  | shortAnswerCase
  deriving DecidableEq, Inhabited

namespace Kind

/-- The tag of a kind in markup. -/
def tag : Kind → String
  | multichoice => "MULTICHOICE"
  | numerical => "NUMERICAL"
  | shortAnswer => "SHORTANSWER"
  | shortAnswerCase => "SHORTANSWER_C"

/-- All kinds. -/
def all : List Kind := [multichoice, numerical, shortAnswer, shortAnswerCase]

/-- The kind with a tag. -/
def ofTag? (s : String) : Option Kind := all.find? fun k => k.tag = s

/-- Tells whether the answers of a kind are numbers. -/
def isNumeric (k : Kind) : Bool := k == numerical

end Kind

/-- One answer of an embedded question. A number has a tolerance. -/
structure Answer where
  text : String
  correct : Bool
  feedback : String := ""
  tolerance : Option Binary64 := none
  deriving DecidableEq

/-- A question at a numbered place of a text. Places are counted from 1. -/
structure Subquestion where
  position : Nat
  kind : Kind
  weight : Nat
  answers : List Answer
  deriving DecidableEq

/-- The correct answers. -/
def Subquestion.correctAnswers (s : Subquestion) : List Answer := s.answers.filter Answer.correct

/-- A text with numbered places and the questions that stand there. -/
structure Embedded where
  text : String
  subquestions : List Subquestion
  deriving DecidableEq

namespace Embedded

/-- The sum of the weights. -/
def totalWeight (e : Embedded) : Nat :=
  e.subquestions.foldl (fun total s => total + s.weight) 0

/-- Every answer with the place of its question. -/
def answers (e : Embedded) : List (Nat × Answer) :=
  e.subquestions.flatMap fun s => s.answers.map fun a => (s.position, a)

end Embedded

end QuestionBank.Cloze
