import QuestionBank.Conversion.Answers
import QuestionBank.Conversion.Choices

/-!
# Conversion of questions

The tag of a question decides how it is converted. `convert` gives the question or
what keeps it from being one, together with what the user is told on the way.
-/

namespace QuestionBank

open QuestionBank.Scoring QuestionBank.Text

/-! ## Matching questions -/

/-- The pair of a choice: the first correct match of its stem. -/
def pairOf (r : MatchResult) (choice : Choice) : Option MatchPair :=
  ((r.matchesFor choice.key).find? Match.isCorrect).map fun m =>
    { stem := choice.content, answer := m.answer }

/-- The draft of a matching question. Options that no match claims are distractors. -/
def matchingDraft (q : SourceQuestion) : Except Obstacle Draft :=
  if q.choices.isEmpty then .error (q.failed (.missing .matchingChoice))
  else
    match aggregate (some q.id) q.outcomes with
    | .error e => .error (.failed e)
    | .ok set =>
      let r := synthesizeMatches set q.optionPool
      match q.choices.filterMap (pairOf r) with
      | [] => .error (q.failed (.noCredit (.pair q.displayName)))
      | pairs =>
        .ok fun header => .ok
          { header
            body := .matching
              (pairs ++ r.residualTexts.map fun text => { stem := "", answer := text })
              q.shuffled
              (orMessage .correct (feedbackOf set.right))
              (orMessage .incorrect set.catchAllFeedback) }

/-! ## Other kinds -/

/-- The draft of a question with pull-down lists. -/
def selectionDraft (q : SourceQuestion) : Except Obstacle Draft :=
  if q.choices.isEmpty then .error (q.failed (.missing .selectionChoice))
  else
    match aggregate (some q.id) q.outcomes with
    | .error e => .error (.failed e)
    | .ok set => multianswerDraft q .multichoice (synthesizeMatches set q.optionPool)

/-- The draft of an essay question. The first outcome tells the grader what to look for. -/
def essayDraft (c : Config) (q : SourceQuestion) : Draft := fun header => .ok
  { header
    body := .essay "editor" c.fieldLines
      (feedbackOf (q.outcomes.find? fun o => !o.isAlways)) }

/-! ## Tags -/

/-- The kind of a question in the source. -/
inductive SourceKind where
  | multichoice
  | trueFalse
  | shortAnswer
  | numerical
  | essay
  | matching
  | selection
  | unknown
  deriving DecidableEq

namespace SourceKind

/-- The name of a source kind. -/
def name : SourceKind → String
  | multichoice => "multichoice"
  | trueFalse => "truefalse"
  | shortAnswer => "shortanswer"
  | numerical => "numerical"
  | essay => "essay"
  | matching => "matching"
  | selection => "selection"
  | unknown => "unknown"

/-- The kind that a tag stands for, whatever its letter case. -/
def ofTag (tag : String) : SourceKind :=
  match upperTag (strip tag) with
  | "MC" => multichoice
  | "MR" => multichoice
  | "TF" => trueFalse
  | "YN" => trueFalse
  | "FIB" => shortAnswer
  | "TM" => shortAnswer
  | "NUM" => numerical
  | "ESSAY" => essay
  | "EXPLAIN" => essay
  | "MATCH" => matching
  | "SEL" => selection
  | _ => unknown

end SourceKind

namespace SourceQuestion

/-- The kind of a question. -/
def kind (q : SourceQuestion) : SourceKind := .ofTag q.tag

/-- The tag of a question in messages. -/
def shownTag (q : SourceQuestion) : String := if q.tag.isEmpty then "(none)" else q.tag

/-- What a question is before its header is known. -/
def draft (c : Config) (q : SourceQuestion) : Except Obstacle Draft :=
  match q.kind with
  | .multichoice => multichoiceDraft q
  | .trueFalse => trueFalseDraft q
  | .shortAnswer => shortAnswerDraft c q
  | .numerical => numericalDraft q
  | .essay => .ok (essayDraft c q)
  | .matching => matchingDraft q
  | .selection => selectionDraft q
  | .unknown => .error (q.failed (.unsupported q.shownTag))

/-- Finishes a draft with the header of the question. -/
def finish (c : Config) (q : SourceQuestion) (draft : Draft) : Except Obstacle Question :=
  match q.header c with
  | .error b => .error (.broken b)
  | .ok header => draft header

/-- Converts a question. With the result stands what the user is told. -/
def convert (c : Config) (q : SourceQuestion) : List String × Except Obstacle Question :=
  match q.draft c with
  | .error e => ([], .error e)
  | .ok draft => (q.notices, q.finish c draft)

end SourceQuestion

end QuestionBank
