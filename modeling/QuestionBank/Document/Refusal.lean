import QuestionBank.Text.Quoted

/-!
# Why a source is no document

A source that holds nothing, is not well formed, declares an entity or has no
content is refused with a reason. Entities are refused whatever they stand for.
-/

namespace QuestionBank.Document

/-- Why a source is refused. -/
inductive Refusal where
  | emptySource
  | malformed
  | entity (name : String) (systemId publicId : Option String)
  | noContent
  deriving DecidableEq

/-- An identifier in the wording of a refusal. -/
def identifierText : Option String → String
  | some s => Text.quoted s
  | none => "None"

/-- The wording of a refusal. -/
def Refusal.reason : Refusal → String
  | emptySource => "empty source"
  | malformed => "unparseable document"
  | entity name systemId publicId =>
    "unparseable document: EntitiesForbidden(name='" ++ name ++ "', system_id="
      ++ identifierText systemId ++ ", public_id=" ++ identifierText publicId ++ ")"
  | noContent => "document has no content"

/-- A part that must be there. -/
def need {α : Type} : Option α → Except Refusal α
  | some a => .ok a
  | none => .error .malformed

end QuestionBank.Document
