import QuestionBank.Conversion.Embedding
import QuestionBank.Scoring.Numeric

/-!
# Questions with typed answers

A question with one blank becomes a short-answer or a numerical question. Several
blanks are scored together if there is an outcome for the right answer; otherwise,
and always for numbers, each blank gets a block of its own.
-/

namespace QuestionBank

open QuestionBank.Scoring QuestionBank.Text

/-! ## Short answers -/

/-- The description that says nothing of a question. -/
def genericDescription : String := "Fill in Blanks question"

/-- The header of a short-answer question. Without a content node the answer gives the
text, and under the generic description also the name. -/
def shortHeader (c : Config) (q : SourceQuestion) (h : Header) : Except Breach Header :=
  let blanks := q.fragmentsText
  let h := if q.content?.isNone then { h with text := blanks } else h
  if q.description == genericDescription && !blanks.isEmpty then
    (c.plain blanks).map fun name => { h with name := if name.isEmpty then h.name else name }
  else .ok h

/-- The answer that stands for everything else, if there is an outcome for it. -/
def wrongAnswers (set : OutcomeSet) : List TextAnswer :=
  match set.catchAll with
  | some o => [{ text := "*", fraction := .zero false, feedback := o.feedback }]
  | none => []

/-- Tells whether letter case counts in every alternative. -/
def mindsCase (alternatives : List Alternative) : Bool :=
  alternatives.all fun a => a.comparison.caseSensitive

/-- The body of a question with one blank. -/
def singleBlank (set : OutcomeSet) (rule : StemRule) : Body :=
  .shortAnswer
    ((rule.alternatives.map fun a =>
      ({ text := a.text, feedback := (set.right.getD a.outcome).feedback } : TextAnswer))
      ++ wrongAnswers set)
    (mindsCase rule.alternatives)

/-- The body of a question with several blanks that are scored together: the first
alternative of each, joined by commas. -/
def severalBlanks (set : OutcomeSet) : Body :=
  let firsts := set.stems.map fun rule => (rule.alternatives.head?.map Alternative.text).getD ""
  .shortAnswers
    ({ text := ",".intercalate firsts, feedback := (set.right.map Outcome.feedback).getD "" }
      :: wrongAnswers set)
    (mindsCase (set.stems.flatMap StemRule.alternatives)) set.stems.length

/-- The draft of a short-answer question. -/
def shortAnswerDraft (c : Config) (q : SourceQuestion) : Except Obstacle Draft :=
  match aggregate (some q.id) q.outcomes with
  | .error e => .error (.failed e)
  | .ok set =>
    match set.stems, set.mode with
    | [], _ => .error (q.failed (.noCredit (.answer q.displayName)))
    | _, .perStem => multianswerDraft q .shortAnswer (synthesizeMatches set [])
    | [rule], .combined =>
      .ok fun header =>
        orBreak ((shortHeader c q header).map fun header => ⟨header, singleBlank set rule⟩)
    | _, .combined =>
      .ok fun header =>
        orBreak ((shortHeader c q header).map fun header =>
          ⟨{ header with text := joinStripped [header.text, Message.severalBlanksHint.text []] },
            severalBlanks set⟩)

/-! ## Numbers -/

/-- The nearest whole number to a share of a number. -/
def roundedShare (fraction : Binary64) : Binary64 → Except Breach Int
  | .infinite _ => .error .factorTooLarge
  | x =>
    match (fraction.mul x).round with
    | .ok i => .ok i
    | .error _ => .error .infiniteScore

/-- The score that a share of a best score gives. -/
def sharedScore (fraction : Binary64) (best : Int) : Except Breach Int :=
  roundedShare fraction (.ofInt best)

/-- The match of a numeric answer: the number and its tolerance, with the score that its
share of credit gives. -/
def numericMatch (stem : String) (best : Int) (a : NumericAnswer) : Except Breach Match :=
  (sharedScore a.fraction best).map fun score =>
    { stem
      answer := formatNumber a.value ++ ":" ++ formatNumber a.tolerance
      score := max 0 score
      feedback := a.feedback
      operator := .equal }

/-- The matches of the numeric answers of a stem. -/
def numericMatches (q : SourceQuestion) (set : OutcomeSet) (rule : StemRule) :
    Except Obstacle (List Match) :=
  match numericAnswers (some q.id) rule set with
  | .error e => .error e
  | .ok (answers, _) => orBreak (answers.mapM (numericMatch rule.stem (bestScore rule set)))

/-- The draft of a numerical question. -/
def numericalDraft (q : SourceQuestion) : Except Obstacle Draft :=
  match aggregate (some q.id) q.outcomes with
  | .error e => .error (.failed e)
  | .ok set =>
    match set.stems with
    | [] => .error (q.failed (.noCredit (.value q.displayName)))
    | [rule] =>
      (numericAnswers (some q.id) rule set).map fun (answers, ranged) header =>
        let text :=
          if q.content?.isNone && !q.fragmentsText.isEmpty then q.fragmentsText else header.text
        .ok ⟨{ header with text }, .numerical answers ranged⟩
    | rules =>
      match rules.mapM (numericMatches q set) with
      | .error e => .error e
      | .ok found => multianswerDraft q .numerical { found := found.flatten }

end QuestionBank
