import QuestionBank.Bank.Sink
import QuestionBank.Conversion.Convert
import QuestionBank.Document.Reader
import QuestionBank.Import.Diagnostics

/-!
# Imports

An import reads a document, converts its questions in order and hands what becomes of
them to a sink, with a category marker in front of the first question of each topic.
A question that is not converted, or that the sink refuses, is recorded and left
out, and the import goes on with the next one.
-/

namespace QuestionBank

open QuestionBank.Document QuestionBank.Text

/-- Why a question is left out of an import. -/
inductive Rejection where
  | failed (failure : Failure)
  | refused (violation : Violation)

/-- What becomes of one question node. -/
structure Conversion where
  label : QuestionLabel
  topic : String
  notices : List String
  outcome : Except Failure Question

/-- What ends an import. -/
inductive ImportStop where
  | encoding (fault : EncodingFault)
  | document (refusal : Refusal)
  | broken (breach : Breach)
  | sink (fault : SinkFault)

/-- The wording of what ends an import. -/
def ImportStop.message : ImportStop → String
  | encoding fault => fault.message
  | document refusal => Message.documentInvalid.text [("a", refusal.reason)]
  | broken breach => breach.message
  | sink fault => fault.message

/-- An import so far: the questions and category markers that were stored, what the user
is told, and the questions that were left out, as rejected or as not supported. -/
structure Progress (σ : Type) where
  sink : σ
  diagnostics : Diagnostics
  topic : String := ""
  questions : List Question := []
  notices : List String := []
  errors : List Rejection := []
  skipped : List Question := []

/-! ## Conversion of nodes -/

/-- The question of a kind that is not supported. -/
def unknownQuestion (q : SourceQuestion) : Question :=
  { header := { name := deriveName q.description "" q.fallbackName, sourceId := q.id }
    body := .unknown q.tag }

/-- Converts a source question; one of an unknown kind is kept as such. -/
def convertOrKeep (c : Config) (q : SourceQuestion) : List String × Except Obstacle Question :=
  if q.kind = .unknown then ([], .ok (unknownQuestion q)) else q.convert c

/-- Converts the question node at a position. -/
def convertNode (c : Config) (node : Node) (position : Nat) : Except Breach Conversion :=
  match SourceQuestion.read c node position with
  | .error b => .error b
  | .ok q =>
    let label := ⟨position, node.get "ID", displayName node position⟩
    let (notices, result) := convertOrKeep c q
    match result with
    | .ok question => .ok ⟨label, strip (node.get "TOPIC"), notices, .ok question⟩
    | .error (.failed f) =>
      .ok ⟨label, strip (node.get "TOPIC"), notices, .error (f.withQuestion (node.get "ID"))⟩
    | .error (.broken b) => .error b

/-- Converts question nodes, counted from 1. -/
def convertNodes (c : Config) (nodes : List Node) : Except Breach (List Conversion) :=
  nodes.zipIdx.mapM fun (node, i) => convertNode c node (i + 1)

/-! ## Storing -/

namespace Progress

variable {σ : Type}

/-- Records what the user is told of a question. -/
def tell (p : Progress σ) (label : QuestionLabel) (notices : List String) : Progress σ :=
  { p with
    notices := p.notices ++ notices
    diagnostics := notices.foldl (fun d s => d.addNotice label s) p.diagnostics }

/-- Records a question that is not converted. -/
def fail (p : Progress σ) (label : QuestionLabel) (f : Failure) : Progress σ :=
  { p with
    errors := p.errors ++ [.failed f]
    diagnostics := p.diagnostics.addFailure label f }

/-- Records a question that the sink refuses. -/
def refuse (p : Progress σ) (label : QuestionLabel) (v : Violation) : Progress σ :=
  { p with
    errors := p.errors ++ [.refused v]
    diagnostics := p.diagnostics.addViolation label v }

/-- Records a question of a kind that is not supported. -/
def skip (p : Progress σ) (label : QuestionLabel) (q : Question) (tag : String) : Progress σ :=
  let notice := Message.unknownQuestionType.text [("a", if tag.isEmpty then "(none)" else tag)]
  { p with
    notices := p.notices ++ [notice]
    skipped := p.skipped ++ [q]
    diagnostics := p.diagnostics.addUnsupported label notice }

/-- Stores the marker of a topic that differs from the one before. -/
def mark (p : Progress σ) (s : Sink σ) (emit : Bool) (topic : String) :
    Except SinkFault (Progress σ) :=
  if emit && !topic.isEmpty && topic != p.topic then
    let marker := Question.categoryMarker topic
    (s.add p.sink marker.toRecord).map fun sink =>
      { p with sink, topic, questions := p.questions ++ [marker] }
  else .ok p

/-- Stores a question, or records that the sink refuses it. -/
def store (p : Progress σ) (s : Sink σ) (label : QuestionLabel) (q : Question) :
    Except SinkFault (Progress σ) :=
  match s.add p.sink q.toRecord with
  | .ok sink =>
    .ok { p with
      sink
      questions := p.questions ++ [q]
      diagnostics := p.diagnostics.addImported 1 }
  | .error (.invalid v) => .ok (p.refuse label v)
  | .error fault => .error fault

/-- Goes on with what became of one question node. -/
def step (p : Progress σ) (s : Sink σ) (emit : Bool) (v : Conversion) :
    Except SinkFault (Progress σ) :=
  let p := p.tell v.label v.notices
  match v.outcome with
  | .error f => .ok (p.fail v.label f)
  | .ok q =>
    match q.body with
    | .unknown tag => .ok (p.skip v.label q tag)
    | _ => (p.mark s emit v.topic).bind fun p => p.store s v.label q

/-- Goes on with what became of several question nodes. -/
def steps (s : Sink σ) (emit : Bool) : List Conversion → Progress σ → Except SinkFault (Progress σ)
  | [], p => .ok p
  | v :: r, p => (p.step s emit v).bind (steps s emit r)

/-- The questions without category markers. -/
def imported (p : Progress σ) : List Question :=
  p.questions.filter fun q => q.kind != .category

/-- The summary for the user. -/
def summary (p : Progress σ) : String :=
  Message.importSummary.text
    [("a", Number.showInt p.imported.length), ("b", Number.showInt p.skipped.length),
     ("c", Number.showInt p.errors.length)]

end Progress

/-! ## Imports -/

/-- Imports the questions of a document that was read. -/
def importDocument {σ : Type} (c : Config) (s : Sink σ) (state : σ) (d : Diagnostics)
    (root : Node) : Except ImportStop (Progress σ) :=
  match convertNodes c root.questions with
  | .error b => .error (.broken b)
  | .ok conversions =>
    match Progress.steps s c.emitCategories conversions { sink := state, diagnostics := d } with
    | .error fault => .error (.sink fault)
    | .ok p => .ok p

/-- Imports the questions of a source. Without diagnostics to go on with, new ones take
the name of the source. -/
def importSource {σ : Type} (c : Config) (s : Sink σ) (state : σ) (d : Option Diagnostics)
    (source : Source) : Except ImportStop (Progress σ) :=
  match Document.read source.bytes with
  | .error fault => .error (.encoding fault)
  | .ok (.error refusal) => .error (.document refusal)
  | .ok (.ok root) =>
    importDocument c s state (d.getD { sourceName := source.name }) root

end QuestionBank
