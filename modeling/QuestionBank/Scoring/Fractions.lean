import QuestionBank.Condition.Basic
import QuestionBank.Failure
import QuestionBank.Scoring.Outcome

/-!
# Credit for choices

The correct choices of a question share full credit equally. A wrong choice
gives nothing where one choice may be selected; where several may be, it takes
away what a correct one gives. Shares are exact rational numbers.
-/

namespace QuestionBank.Scoring

open QuestionBank.Condition

/-- What a condition says of a choice. -/
structure ChoiceMark where
  key : String
  correct : Bool
  deriving DecidableEq

/-- Marks the choice of a comparison, unless it was marked before. -/
def mark (marks : List ChoiceMark) (c : Comparison) : List ChoiceMark :=
  if marks.any fun m => m.key == c.left then marks else marks ++ [⟨c.left, !c.negated⟩]

/-- The marks of an expression in order; the first mark of a choice counts. -/
def choiceMarks (e : Expression) : List ChoiceMark := e.comparisons.foldl mark []

/-- Tells whether a choice is marked as correct. -/
def isCorrect (e : Expression) (c : Choice) : Bool :=
  (choiceMarks e).any fun m => m.key == c.key && m.correct

/-- The share of credit of each choice. -/
def shares (e : Expression) (choices : List Choice) (single : Bool) :
    Except Failure (List Rat) :=
  let count := (choices.filter (isCorrect e)).length
  if count = 0 then
    let text := if e.source.isEmpty then e.text else e.source
    .error ⟨.noCredit (.condition text), none⟩
  else
    let worth : Rat := mkRat 1 count
    let penalty : Rat := if single then 0 else -worth
    .ok (choices.map fun c => if isCorrect e c then worth else penalty)

/-- The share of credit of each choice as a floating-point number. -/
def fractions (e : Expression) (choices : List Choice) (single : Bool) :
    Except Failure (List Binary64) :=
  (shares e choices single).map fun qs => qs.map .ofRat

end QuestionBank.Scoring
