import QuestionBank.Number.Reader
import QuestionBank.Scoring.Matches

/-!
# Numeric answers

The alternatives of a numeric stem are values or bounds. The two bounds of one
outcome make a range, which is stored as its middle and half its width.
-/

namespace QuestionBank.Scoring

open QuestionBank.Condition QuestionBank.Text

/-- An accepted number with its tolerance and share of credit. -/
structure NumericAnswer where
  value : Binary64
  tolerance : Binary64 := .zero false
  fraction : Binary64 := .one
  feedback : String := ""
  deriving DecidableEq

/-- The layout of numbers in answers. -/
def numberLayout : Number.Layout :=
  { lowest := -4, highest := 15, exponentWidth := 2, nan := "nan", infinity := "inf" }

/-- The text of a number: without a point when it is whole. -/
def formatNumber (x : Binary64) : String :=
  match x.toInt? with
  | some i => Number.showInt i
  | none => numberLayout.render x

/-- The best score that a stem can give. -/
def bestScore (rule : StemRule) (set : OutcomeSet) : Int :=
  match set.right with
  | some right => right.score
  | none =>
    match rule.alternatives.map fun a => a.outcome.score with
    | [] => 0
    | s :: r => r.foldl max s

/-- A share of credit, at most full either way. -/
def limitShare (q : Rat) : Rat := if q < -1 then -1 else if 1 < q then 1 else q

/-- The share of credit of an outcome: full where a right outcome decides, else its
score by the best one, at most full either way. -/
def shareOf (o : Outcome) (set : OutcomeSet) (best : Int) : Except Obstacle Binary64 :=
  match set.mode with
  | .combined => .ok .one
  | .perStem =>
    let quotient := mkRat o.score best.toNat
    if Binary64.ofRat quotient = .infinite (quotient < 0) then .error (.broken .quotientTooLarge)
    else .ok (.ofRat (limitShare quotient))

/-- The number that a comparison names. -/
def operandOf (question : Option String) (a : Alternative) : Except Obstacle Binary64 :=
  match Number.readBinary64? (strip a.comparison.right) with
  | some x => .ok x
  | none =>
    .error (.failed ⟨.condition (.operandNotNumeric a.comparison.right) a.outcome.condition
      (some a.outcome.id), question⟩)

/-- The bounds that an outcome gives; the last bound of a side counts. -/
structure Bounds where
  outcome : Outcome
  low : Option Binary64 := none
  high : Option Binary64 := none

/-- Sets one bound of an outcome, by the outcome's name. -/
def setBound (o : Outcome) (isLower : Bool) (x : Binary64) : List Bounds → List Bounds
  | [] => [if isLower then ⟨o, some x, none⟩ else ⟨o, none, some x⟩]
  | b :: r =>
    if b.outcome.id = o.id then
      (if isLower then ⟨o, some x, b.high⟩ else ⟨o, b.low, some x⟩) :: r
    else b :: setBound o isLower x r

/-- The feedback of an answer: that of the right outcome, if there is one. -/
def answerFeedback (set : OutcomeSet) (o : Outcome) : String := (set.right.getD o).feedback

/-- Sorts alternatives into values, which are answers at once, and bounds. -/
def sortAlternatives (question : Option String) (set : OutcomeSet) (best : Int) :
    List Alternative → List Bounds → Except Obstacle (List NumericAnswer × List Bounds)
  | [], bounds => .ok ([], bounds)
  | a :: r, bounds =>
    match operandOf question a with
    | .error e => .error e
    | .ok x =>
      let op := a.comparison.operator
      if op.isRange then
        sortAlternatives question set best r (setBound a.outcome op.isLowerBound x bounds)
      else
        match shareOf a.outcome set best with
        | .error e => .error e
        | .ok fraction =>
          let answer : NumericAnswer :=
            { value := x, fraction, feedback := answerFeedback set a.outcome }
          (sortAlternatives question set best r bounds).map fun (answers, bounds) =>
            (answer :: answers, bounds)

/-- The answer of a range. Its ends are taken in order of size. -/
def rangeAnswer (question : Option String) (set : OutcomeSet) (best : Int) (b : Bounds) :
    Except Obstacle NumericAnswer :=
  match b.low, b.high with
  | some x, some y =>
    let low := if y.lt x then y else x
    let high := if y.lt x then x else y
    (shareOf b.outcome set best).map fun fraction =>
      { value := (low.add high).half
        tolerance := (high.sub low).half
        fraction
        feedback := answerFeedback set b.outcome }
  | _, _ =>
    .error (.failed ⟨.condition .openRange b.outcome.condition (some b.outcome.id), question⟩)

/-- The answers of a stem: its values in order, then its ranges; with them whether
there are ranges. -/
def numericAnswers (question : Option String) (rule : StemRule) (set : OutcomeSet) :
    Except Obstacle (List NumericAnswer × Bool) :=
  let best := bestScore rule set
  if best ≤ 0 then .error (.failed ⟨.noCredit (.stem rule.stem), question⟩)
  else
    match sortAlternatives question set best rule.alternatives [] with
    | .error e => .error e
    | .ok (answers, bounds) =>
      (bounds.mapM (rangeAnswer question set best)).map fun ranges =>
        (answers ++ ranges, !bounds.isEmpty)

end QuestionBank.Scoring
