import QuestionBank.Scoring.Aggregate

/-!
# Matches of stems and answers

Every alternative of a stem becomes a match with the score and feedback of its
outcome. The choices that no match names are left over as distractors.
-/

namespace QuestionBank.Scoring

open QuestionBank.Condition QuestionBank.Text

/-- An answer for a stem, with its score. -/
structure Match where
  stem : String
  answer : String
  score : Int
  feedback : String := ""
  caseSensitive : Bool := true
  operator : Operator := .matching
  deriving DecidableEq, Inhabited

/-- A match is correct when it scores. -/
def Match.isCorrect (m : Match) : Bool := 0 < m.score

/-- All matches of a question and the choices left over. -/
structure MatchResult where
  found : List Match
  residual : List Choice := []
  residualFeedback : String := ""

namespace MatchResult

/-- Adds a text at the end, unless it is there. -/
def addNew (seen : List String) (s : String) : List String :=
  if seen.contains s then seen else seen ++ [s]

/-- The stems in the order in which they were first met. -/
def stemIds (r : MatchResult) : List String := (r.found.map Match.stem).foldl addNew []

/-- The matches of one stem. -/
def matchesFor (r : MatchResult) (stem : String) : List Match :=
  r.found.filter fun m => m.stem == stem

/-- The texts of the choices left over. -/
def residualTexts (r : MatchResult) : List String := r.residual.map Choice.content

end MatchResult

/-- A text with single spaces, without letter case where case does not count. -/
def normalized (caseSensitive : Bool) (s : String) : String :=
  if caseSensitive then squeeze s else fold (squeeze s)

/-- Tells whether a match names a choice. -/
def Match.consumes (m : Match) (c : Choice) : Bool :=
  normalized m.caseSensitive m.answer == normalized m.caseSensitive c.content

/-- The match of an alternative. If there is a right outcome, it scores as that. -/
def matchOf (right : Option Outcome) (stem : String) (a : Alternative) : Match :=
  let outcome := right.getD a.outcome
  { stem
    answer := a.comparison.right
    score := outcome.score
    feedback := outcome.feedback
    caseSensitive := a.comparison.caseSensitive
    operator := a.comparison.operator }

/-- The matches of all stems and the choices that none of them names. -/
def synthesizeMatches (set : OutcomeSet) (choices : List Choice) : MatchResult :=
  let found := set.stems.flatMap fun rule => rule.alternatives.map (matchOf set.right rule.stem)
  { found
    residual := choices.filter fun c => !found.any (·.consumes c)
    residualFeedback := set.catchAllFeedback }

end QuestionBank.Scoring
