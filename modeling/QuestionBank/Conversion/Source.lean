import QuestionBank.Document.Printer
import QuestionBank.Failure
import QuestionBank.Number.Reader
import QuestionBank.Question.Basic
import QuestionBank.Scoring.Outcome
import QuestionBank.Setting.Config

/-!
# Questions in a source document

A question node holds its text, an answer node with choices and fragments of text,
and outcomes. `SourceQuestion.read` collects these parts, with every text cleaned
by the configuration.
-/

namespace QuestionBank

open QuestionBank.Document QuestionBank.Markup QuestionBank.Text

/-- A part of an answer: a fragment of text, or a blank for a choice. -/
inductive Segment where
  | fragment (text : String)
  | blank (choice : Choice)
  deriving DecidableEq

/-- The text of a segment. -/
def Segment.text : Segment → String
  | fragment text => text
  | blank choice => choice.content

/-- A question as the source document gives it. -/
structure SourceQuestion where
  node : Node
  position : Int
  tag : String
  outcomes : List Outcome
  choices : List Choice
  segments : List Segment

/-! ## Cleaned texts -/

namespace Config

/-- A raw text with the template variables replaced, cleaned by a profile. -/
def clean (c : Config) (profile : Profile) (raw : String) : Except Breach String :=
  Markup.clean profile (c.template.apply raw)

/-- A raw text cleaned as an answer. -/
def plain (c : Config) (raw : String) : Except Breach String :=
  (c.clean c.answerProfile raw).map strip

/-- The profile and the format for a content node. -/
def contentProfile (c : Config) (content : Node) : Profile × TextFormat :=
  match lowerAscii (strip (content.get "TYPE")) with
  | "text/plain" => (.plain, .plain)
  | "text/html" => (.rich, .html)
  | _ => (c.defaultProfile, .html)

/-- The text and the format of a content node. -/
def contentOf (c : Config) (content : Option Node) : Except Breach (String × TextFormat) :=
  match content with
  | none => .ok ("", .html)
  | some node =>
    let (profile, format) := c.contentProfile node
    (c.clean profile node.markup).map fun text => (strip text, format)

end Config

/-! ## Outcomes -/

/-- The score that a text gives: the nearest whole number, of two equally near ones the
even one. A text that is no number gives none. -/
def scoreOf? (raw : String) : Except Breach (Option Int) :=
  match Number.readBinary64? raw with
  | none => .ok none
  | some x =>
    match x.round with
    | .ok i => .ok (some i)
    | .error .infinite => .error .infiniteScore
    | .error _ => .ok none

/-- The score of an outcome node: the first of two attributes that is a number, or
zero. -/
def scoreOf (node : Node) : Except Breach Int :=
  match scoreOf? (strip (node.get "SCORE")) with
  | .error e => .error e
  | .ok (some i) => .ok i
  | .ok none => (scoreOf? (strip (node.get "ADD"))).map fun score => score.getD 0

/-- Reads an outcome node. -/
def readOutcome (c : Config) (node : Node) : Except Breach Outcome :=
  match c.contentOf (node.child? "CONTENT") with
  | .error e => .error e
  | .ok (feedback, _) =>
    (scoreOf node).map fun score =>
      { id := strip (node.get "ID")
        score
        condition := strip (node.childText "CONDITION")
        feedback }

/-! ## Answers -/

/-- Reads the choice with an index. -/
def readChoice (c : Config) (index : Nat) (node : Node) : Except Breach Choice :=
  let content := match node.child? "CONTENT" with
    | some content => c.plain content.markup
    | none => .ok ""
  match content with
  | .error e => .error e
  | .ok content =>
    ((node.childrenNamed "OPTION").mapM fun option => c.plain option.markup).map fun options =>
      { index, content, options }

/-- Reads the segments among the children of an answer node; `index` is that of the
next choice. -/
def readSegments (c : Config) (index : Nat) : List Node → Except Breach (List Segment)
  | [] => .ok []
  | node :: r =>
    if node.name == "CONTENT" then
      match c.contentOf (some node) with
      | .error e => .error e
      | .ok (text, _) => (readSegments c index r).map (Segment.fragment text :: ·)
    else if node.name == "CHOICE" then
      match readChoice c index node with
      | .error e => .error e
      | .ok choice => (readSegments c (index + 1) r).map (Segment.blank choice :: ·)
    else readSegments c index r

/-- The choice of a segment. -/
def Segment.choice? : Segment → Option Choice
  | fragment _ => none
  | blank choice => some choice

/-! ## Questions -/

namespace SourceQuestion

/-- Reads a question node. -/
def read (c : Config) (node : Node) (position : Int) : Except Breach SourceQuestion :=
  let answer := node.child? "ANSWER"
  match readSegments c 0 ((answer.map Node.children).getD []) with
  | .error e => .error e
  | .ok segments =>
    ((node.childrenNamed "OUTCOME").mapM (readOutcome c)).map fun outcomes =>
      { node
        position
        tag := (answer.map fun a => strip (a.get "QTYPE")).getD ""
        outcomes
        choices := segments.filterMap Segment.choice?
        segments }

/-- The name of a question in the source. -/
def id (q : SourceQuestion) : String := q.node.get "ID"

/-- The description of a question. -/
def description (q : SourceQuestion) : String := strip (q.node.get "DESCRIPTION")

/-- The topic of a question. -/
def topic (q : SourceQuestion) : String := strip (q.node.get "TOPIC")

end SourceQuestion

/-- The name of a question node in messages: its description, its name in the source,
or its position. -/
def displayName (node : Node) (position : Int) : String :=
  let description := strip (node.get "DESCRIPTION")
  if !description.isEmpty then description
  else if !(node.get "ID").isEmpty then node.get "ID"
  else "#" ++ Number.showInt position

namespace SourceQuestion

/-- The name of a question in messages. -/
def displayName (q : SourceQuestion) : String := QuestionBank.displayName q.node q.position

/-- Tells whether the choices may be shown in any order. -/
def shuffled (q : SourceQuestion) : Bool :=
  ((q.node.child? "ANSWER").map fun a => upperAscii (strip (a.get "SHUFFLE")) == "Y").getD false

/-- The options of all choices without repetitions, as choices. -/
def optionPool (q : SourceQuestion) : List Choice :=
  let texts := (q.choices.flatMap Choice.options).foldl
    (fun seen s => if seen.contains s then seen else seen ++ [s]) []
  texts.mapIdx fun index content => { index, content }

/-- The mark of a blank in a text. -/
def blankMark : String := "_____"

/-- A segment in a text, with a blank for its choice unless it has one. -/
def segmentText : Segment → String
  | .fragment text => text
  | .blank choice =>
    if occursIn ['_', '_'] choice.content.toList then choice.content
    else joinStripped [choice.content, blankMark]

/-- The segments of the answer as one text. -/
def fragmentsText (q : SourceQuestion) : String := joinStripped (q.segments.map segmentText)

end SourceQuestion

end QuestionBank
