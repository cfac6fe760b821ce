import QuestionBank.Condition.Reader
import QuestionBank.Failure
import QuestionBank.Scoring.Outcome
import QuestionBank.Text.Fold

/-!
# The outcomes of a question taken together

If a question has an outcome for the right answer, the condition of that outcome
says what is right; otherwise every numbered outcome adds what it accepts.
`aggregate` collects the accepted alternatives of each stem in order, without
those that differ from an earlier one in letter case only. `combinedCondition`
gives the condition that marks the choices of a multiple-choice question.
-/

namespace QuestionBank.Scoring

open QuestionBank.Condition QuestionBank.Text

/-- How the outcomes of a question say what is correct. -/
inductive Mode where
  | combined
  | perStem
  deriving DecidableEq

/-- The written form of a mode. -/
def Mode.text : Mode → String
  | combined => "combined"
  | perStem => "per_stem"

/-- An accepted comparison and the outcome that it scores as. -/
structure Alternative where
  comparison : Comparison
  outcome : Outcome
  deriving DecidableEq

/-- The accepted answer of an alternative. -/
def Alternative.text (a : Alternative) : String := a.comparison.right

/-- The alternatives of one stem, in order. -/
structure StemRule where
  stem : String
  alternatives : List Alternative
  deriving DecidableEq

/-- The outcomes of a question, sorted out. -/
structure OutcomeSet where
  mode : Mode
  stems : List StemRule
  right : Option Outcome
  catchAll : Option Outcome
  general : Option Outcome
  deriving DecidableEq

namespace OutcomeSet

/-- The stems in the order in which they were first met. -/
def stemIds (s : OutcomeSet) : List String := s.stems.map StemRule.stem

/-- The feedback for answers that are not right. -/
def catchAllFeedback (s : OutcomeSet) : String := (s.catchAll.map Outcome.feedback).getD ""

/-- The rule of a stem. -/
def ruleFor (s : OutcomeSet) (stem : String) : Except Failure StemRule :=
  match s.stems.find? fun rule => rule.stem == stem with
  | some rule => .ok rule
  | none => .error ⟨.missing (.stemOutcome stem), none⟩

end OutcomeSet

/-! ## Which outcomes count -/

/-- The place of the catch-all outcome: the first one named for wrong answers, or
the last one for all other answers that scores nothing. -/
def catchAllIndex? (outcomes : List Outcome) : Option Nat :=
  match outcomes.findIdx? Outcome.isWrong with
  | some i => some i
  | none =>
    (outcomes.reverse.findIdx? fun o => o.isOther && o.score == 0).map fun i =>
      outcomes.length - 1 - i

/-- The catch-all outcome. -/
def findCatchAll (outcomes : List Outcome) : Option Outcome :=
  (catchAllIndex? outcomes).bind fun i => outcomes[i]?

/-- The outcomes that take part in scoring. -/
def scoringOutcomes (outcomes : List Outcome) : List Outcome := outcomes.filter Outcome.isScoring

/-- A reference to a choice by position, negated when its outcome scores nothing. -/
def positionTerm (position : Nat) (o : Outcome) : String :=
  (if o.score = 0 then "NOT " else "") ++ "\"" ++ Number.showInt position ++ "\""

/-- The condition that the scores of the scoring outcomes stand for: the outcome in
each position marks the choice with that index. -/
def synthesizedCondition (outcomes : List Outcome) : String :=
  " AND ".intercalate ((scoringOutcomes outcomes).mapIdx positionTerm)

/-- The condition that marks every choice: that of the right outcome, or of the
first scoring outcome. A bare reference there says nothing on other choices, so
it is replaced by the condition of all scores. -/
def combinedCondition (outcomes : List Outcome) : Except Failure String :=
  match scoringOutcomes outcomes with
  | [] => .error ⟨.missing .scoringOutcome, none⟩
  | first :: others =>
    match (first :: others).find? Outcome.isRight with
    | some right => .ok right.condition
    | none =>
      if isBareReference first.condition then .ok (synthesizedCondition outcomes)
      else .ok first.condition

/-! ## Collecting alternatives -/

/-- Tells whether an alternative accepts the same answer up to letter case. -/
def Alternative.repeats (a : Alternative) (c : Comparison) : Bool :=
  fold a.comparison.right == fold c.right

/-- Adds a comparison to the rule of its stem, unless it repeats an alternative. -/
def addAlternative (c : Comparison) (o : Outcome) : List StemRule → List StemRule
  | [] => [⟨c.left, [⟨c, o⟩]⟩]
  | rule :: rules =>
    if rule.stem = c.left then
      if rule.alternatives.any (·.repeats c) then rule :: rules
      else { rule with alternatives := rule.alternatives ++ [⟨c, o⟩] } :: rules
    else rule :: addAlternative c o rules

/-- The comparisons of an expression that are not negated. -/
def affirmed (e : Expression) : List Comparison := e.comparisons.filter fun c => !c.negated

/-- Adds what an outcome accepts. -/
def collect (o : Outcome) (e : Expression) (rules : List StemRule) : List StemRule :=
  (affirmed e).foldl (fun rules c => addAlternative c o rules) rules

/-- Reads the condition of an outcome. -/
def conditionOf (question : Option String) (o : Outcome) : Except Failure Expression :=
  Condition.read o.condition (some o.id) question

/-- Adds what each of several outcomes accepts. -/
def collectAll (question : Option String) :
    List Outcome → List StemRule → Except Failure (List StemRule)
  | [], rules => .ok rules
  | o :: os, rules =>
    match conditionOf question o with
    | .error e => .error e
    | .ok expression => collectAll question os (collect o expression rules)

/-- The outcomes other than the one in the given place. -/
def without (place : Option Nat) (outcomes : List Outcome) : List Outcome :=
  (outcomes.zipIdx.filter fun entry => some entry.2 != place).map Prod.fst

/-- Sorts out the outcomes of a question. -/
def aggregate (question : Option String) (outcomes : List Outcome) : Except Failure OutcomeSet :=
  let others := without (catchAllIndex? outcomes) outcomes
  let right := others.find? Outcome.isRight
  let sources := match right with
    | some o => [o]
    | none => others.filter fun o => o.isNumbered && !o.isOther
  (collectAll question sources []).map fun stems =>
    { mode := if right.isSome then .combined else .perStem
      stems
      right
      catchAll := findCatchAll outcomes
      general := outcomes.find? Outcome.isAlways }

end QuestionBank.Scoring
