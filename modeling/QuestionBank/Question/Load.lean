import QuestionBank.Question.Record
import QuestionBank.Question.Validation

/-!
# Records read from values

A value becomes a record if it names a kind and its fields have the form that the
kind gives them. Other members are ignored, and a field that is left out takes its
default. The values inside a field are not checked here.
-/

namespace QuestionBank

namespace Record

/-- The items of a value where a list is wanted. An empty text or an object without
members counts as an empty list. -/
def itemsOf : Json → Except RecordFault (List Json)
  | .arr items => .ok items
  | .str "" => .ok []
  | .obj [] => .ok []
  | _ => .error .misshapen

/-- A member of an object that must be there. -/
def member (name : String) : Json → Except RecordFault Json
  | .obj members =>
    match members.lookup name with
    | some value => .ok value
    | none => .error (.missingMember name)
  | _ => .error .misshapen

/-- A member of an answer: its value, or the default. -/
def partOf (members : List (String × Json)) (p : Part) : Except RecordFault (String × Json) :=
  match (members.lookup p.name).or p.default with
  | some value => .ok (p.name, value)
  | none => .error .misshapen

/-- An answer with all its parts and no others. -/
def answerOf (parts : List Part) : Json → Except RecordFault Json
  | .obj members =>
    if members.all fun m => parts.any fun p => p.name == m.1 then
      (parts.mapM (partOf members)).map .obj
    else .error .misshapen
  | _ => .error .misshapen

/-- An answer of an embedded question. -/
def embeddedAnswerOf (j : Json) : Except RecordFault Json := do
  let text ← member "text" j
  let correct ← member "correct" j
  let feedback := (j.get? "feedback").getD (.str "")
  let tolerance := match (j.get? "tolerance").getD .null with
    | .null => []
    | x => [("tolerance", x)]
  return .obj ([("text", text), ("correct", correct), ("feedback", feedback)] ++ tolerance)

/-- The kind of an embedded question. -/
def embeddedKindOf (kind : Json) : Except RecordFault Json :=
  match kind with
  | .str s => if (Cloze.Kind.ofTag? s).isSome then .ok kind else .error (.unknownEmbeddedKind kind)
  | _ => .error (.unknownEmbeddedKind kind)

/-- An embedded question. -/
def subquestionOf (j : Json) : Except RecordFault Json := do
  let position ← member "position" j
  let kind ← (member "kind" j) >>= embeddedKindOf
  let weight ← member "weight" j
  let answers ← (member "answers" j) >>= itemsOf
  let answers ← answers.mapM embeddedAnswerOf
  return .obj [("position", position), ("kind", kind), ("weight", weight),
    ("answers", .arr answers)]

/-- A text with embedded questions. -/
def embeddedOf (j : Json) : Except RecordFault Json := do
  let text ← member "text" j
  let subquestions ← (member "subquestions" j) >>= itemsOf
  let subquestions ← subquestions.mapM subquestionOf
  return .obj [("text", text), ("subquestions", .arr subquestions)]

/-- The code of a text format. -/
def formatOf (j : Json) : Except RecordFault Json :=
  let code := match j with
    | .int i => some i
    | .float x => x.toInt?
    | .bool b => some (if b then 1 else 0)
    | _ => none
  match code with
  | some i => if 0 ≤ i && i ≤ 2 then .ok (.int i) else .error (.unknownFormat j)
  | none => .error (.unknownFormat j)

/-- A value in the form of a field. -/
def inForm (j : Json) : FieldForm → Except RecordFault Json
  | .any => .ok j
  | .format => formatOf j
  | .answers parts => do
    let items ← itemsOf j
    let items ← items.mapM (answerOf parts)
    return .arr items
  | .embedded => embeddedOf j

/-- The value of a field among members; `none` if it is left out and has no default. -/
def fieldOf (members : List (String × Json)) (f : Field) :
    Except RecordFault (Option (String × Json)) :=
  match members.lookup f.name with
  | some value => (inForm value f.form).map fun value => some (f.name, value)
  | none => .ok (f.default.map fun value => (f.name, value))

/-- A record of a kind from members. -/
def ofMembers (kind : Kind) (members : List (String × Json)) : Except RecordFault Record := do
  let found ← kind.fields.mapM (fieldOf members)
  if found.all Option.isSome then return ⟨kind, found.filterMap id⟩ else throw .misshapen

/-- A record from a value, unchecked. -/
def ofJson : Json → Except RecordFault Record
  | .obj members =>
    let kind := (members.lookup "kind").getD .null
    match kind with
    | .str s =>
      match Kind.ofTag? s with
      | some k => ofMembers k members
      | none => .error (.unknownKind kind)
    | _ => .error (.unknownKind kind)
  | _ => .error .withoutMembers

/-- A record from a stored value, which is checked first if `checked`. -/
def ofStored (checked : Bool) (j : Json) : Except RecordFault Record := do
  if checked then validate true j
  ofJson j

/-- A record read from its own stored form. -/
def reread (r : Record) : Except RecordFault Record := ofJson r.toJson

end Record

end QuestionBank
