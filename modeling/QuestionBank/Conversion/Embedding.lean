import QuestionBank.Cloze.Block
import QuestionBank.Cloze.Extract
import QuestionBank.Conversion.Header

/-!
# Questions with embedded answers

Each blank of the answer becomes a block of embedded-answer markup with the matches
of its stem. Stems without a blank follow at the end. The text with its blocks is
then decoded, which gives the embedded questions.
-/

namespace QuestionBank

open QuestionBank.Scoring QuestionBank.Text

/-- The texts whose folded form is new; `taken` holds the folded forms seen before. -/
def unclaimed (taken : List String) : List String → List String
  | [] => []
  | s :: r =>
    if s.isEmpty || taken.contains (fold s) then unclaimed taken r
    else s :: unclaimed (fold s :: taken) r

/-- The distractors of a stem: its own options and then the shared ones, without those
that a match claims. -/
def distractors (own : List String) (found : List Match) (residual : List String) : List String :=
  unclaimed (found.map fun m => fold m.answer) (own ++ residual)

/-- The shared distractors; numbers have none. -/
def sharedDistractors (kind : Cloze.Kind) (r : MatchResult) : List String :=
  if kind.isNumeric then [] else r.residualTexts

/-- A segment of the answer with its block. -/
def encodeSegment (q : SourceQuestion) (kind : Cloze.Kind) (r : MatchResult) :
    Segment → Except Obstacle String
  | .fragment text => .ok text
  | .blank choice =>
    match r.matchesFor choice.key with
    | [] => .error (q.failed (.missing (.blankOutcome choice.key q.displayName)))
    | found =>
      Cloze.encodeStem choice.content kind found
        (distractors choice.options found (sharedDistractors kind r)) r.residualFeedback

/-- The stems that no blank stands for. -/
def looseStems (q : SourceQuestion) (r : MatchResult) : List String :=
  r.stemIds.filter fun stem => !(q.choices.map Choice.key).contains stem

/-- The block of a stem without a blank. -/
def encodeLoose (kind : Cloze.Kind) (r : MatchResult) (stem : String) :
    Except Obstacle String :=
  let found := r.matchesFor stem
  Cloze.encodeStem "" kind found (distractors [] found (sharedDistractors kind r))
    r.residualFeedback

/-- The answer of a question with a block for every stem. -/
def encodeAnswer (q : SourceQuestion) (kind : Cloze.Kind) (r : MatchResult) :
    Except Obstacle (List String) :=
  match q.segments.mapM (encodeSegment q kind r) with
  | .error e => .error e
  | .ok placed => ((looseStems q r).mapM (encodeLoose kind r)).map fun loose => placed ++ loose

/-- The draft of a question with embedded answers. -/
def multianswerDraft (q : SourceQuestion) (kind : Cloze.Kind) (r : MatchResult) :
    Except Obstacle Draft :=
  (encodeAnswer q kind r).map fun parts header =>
    let text := joinStripped [header.text, joinStripped parts]
    (Cloze.extract text).map fun embedded =>
      { header := { header with
          text
          format := if header.format = .plain then .automatic else header.format }
        body := .multianswer embedded }

end QuestionBank
