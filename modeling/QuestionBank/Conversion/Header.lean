import QuestionBank.Conversion.Source
import QuestionBank.Setting.Message

/-!
# The header of a converted question

The text of a question comes from its content node, or from its description if it
has none. Its name is the description, the beginning of the text, or the name in
the source.
-/

namespace QuestionBank

open QuestionBank.Text

/-- The longest text that serves as a name as it is. -/
def nameLength : Nat := 60

/-- The name of a question with a description, a text and a name of last resort. -/
def deriveName (description plainText fallback : String) : String :=
  if !description.isEmpty then description
  else if plainText.isEmpty then fallback
  else if plainText.length ≤ nameLength then plainText
  else trimEnd (String.ofList (plainText.toList.take nameLength)) ++ "..."

namespace SourceQuestion

/-- The content node of a question. -/
def content? (q : SourceQuestion) : Option Document.Node := q.node.child? "CONTENT"

/-- The name of last resort. -/
def fallbackName (q : SourceQuestion) : String :=
  if q.id.isEmpty then "Question " ++ Number.showInt q.position else q.id

/-- What a user is told of the header: that the type of the content is not set. -/
def notices (q : SourceQuestion) : List String :=
  match q.content? with
  | some content =>
    if (strip (content.get "TYPE")).isEmpty then
      [Message.contentTypeNotSet.text [("a", q.displayName)]]
    else []
  | none => []

/-- The text of a question with its format: its content, or else its description. -/
def shownText (c : Config) (q : SourceQuestion) : Except Breach (String × TextFormat) :=
  match q.content? with
  | some content => c.contentOf (some content)
  | none => .ok (q.description, .html)

/-- The header of a question. -/
def header (c : Config) (q : SourceQuestion) : Except Breach Header :=
  match q.shownText c with
  | .error e => .error e
  | .ok (text, format) =>
    (c.plain text).map fun plainText =>
      { name := deriveName q.description plainText q.fallbackName
        text
        format
        generalFeedback := ((q.outcomes.find? Outcome.isAlways).map Outcome.feedback).getD ""
        sourceId := q.id }

end SourceQuestion

/-- What is known of a question before its header: how it goes on once the header is
there. -/
abbrev Draft := Header → Except Obstacle Question

/-- A failure that concerns a question. -/
def SourceQuestion.failed (q : SourceQuestion) (cause : Cause) : Obstacle :=
  .failed ⟨cause, some q.id⟩

/-- A result without its breach, if it has one. -/
def orBreak {α : Type} : Except Breach α → Except Obstacle α
  | .ok a => .ok a
  | .error b => .error (.broken b)

end QuestionBank
