import QuestionBank.Conversion.Header
import QuestionBank.Scoring.Aggregate
import QuestionBank.Scoring.Fractions

/-!
# Questions with choices

Multiple-choice questions take the correct choices from one condition for all
choices. True/false questions have two outcomes, of which the first belongs to
"true" if the first choice says so.
-/

namespace QuestionBank

open QuestionBank.Scoring QuestionBank.Text

/-- A text, or the text of a message if it is empty. -/
def orMessage (m : Message) (text : String) : String := if text.isEmpty then m.text [] else text

/-- The feedback of an outcome that may not be there. -/
def feedbackOf (o : Option Outcome) : String := (o.map Outcome.feedback).getD ""

/-! ## Multiple choice -/

/-- The feedback of outcomes that belong to one choice each, by position. Only
non-empty feedback counts. -/
def positionFeedback (outcomes : List Outcome) (position : Nat) : Option String :=
  let scoring := scoringOutcomes outcomes
  match scoring with
  | [] => none
  | first :: _ =>
    if Condition.isBareReference first.condition then
      (scoring[position]?.map Outcome.feedback).filter fun s => !s.isEmpty
    else none

/-- A choice with its share of credit. -/
def choiceAnswer (outcomes : List Outcome) (choice : Choice) (fraction : Binary64) :
    ChoiceAnswer :=
  { text := choice.content
    fraction
    feedback := (positionFeedback outcomes choice.index).getD
      (if fraction.isPositive then Message.correct.text [] else Message.incorrect.text []) }

/-- The condition for all choices. -/
def choiceCondition (q : SourceQuestion) : Except Failure Condition.Expression :=
  match combinedCondition q.outcomes with
  | .error e => .error e
  | .ok text => Condition.read text none (some q.id)

/-- The draft of a multiple-choice question. -/
def multichoiceDraft (q : SourceQuestion) : Except Obstacle Draft :=
  if q.choices.isEmpty then .error (q.failed (.missing .multichoiceChoice))
  else
    let single := upperTag q.tag == "MC"
    match (choiceCondition q).bind fun e => fractions e q.choices single with
    | .error e => .error (.failed e)
    | .ok shares =>
      .ok fun header => .ok
        { header
          body := .multichoice
            ((q.choices.zip shares).map fun (c, x) => choiceAnswer q.outcomes c x)
            single q.shuffled "abc"
            (orMessage .correct (feedbackOf (q.outcomes.find? Outcome.isRight)))
            (Message.partlyCorrect.text [])
            (orMessage .incorrect (feedbackOf (findCatchAll q.outcomes))) }

/-! ## True or false -/

/-- Tells whether a choice means "true". -/
def meansTrue (c : Choice) : Bool := ["true", "yes"].contains (lowerAscii (strip c.content))

/-- The draft of a true/false question. -/
def trueFalseDraft (q : SourceQuestion) : Except Obstacle Draft :=
  let lacks (part : String) : Except Obstacle Draft :=
    .error (q.failed (.missing (.node
      (Message.missingNode.text [("a", q.displayName), ("b", part)]))))
  match q.choices with
  | [] => lacks "CHOICE"
  | choice :: _ =>
    match q.outcomes.filter fun o => !o.isAlways with
    | first :: second :: _ =>
      let (yes, no) := if meansTrue choice then (first, second) else (second, first)
      .ok fun header => .ok { header, body := .trueFalse (0 < yes.score) yes.feedback no.feedback }
    | _ => lacks "OUTCOME"

end QuestionBank
