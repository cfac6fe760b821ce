import QuestionBank.Json.Shown
import QuestionBank.Text.Replace

/-!
# Template variables

Template variables stand for texts in raw content. They are replaced as they are
written, the longest first, and of two equally long ones the earlier first.
-/

namespace QuestionBank

open QuestionBank.Text

/-- Why a setting is refused. -/
inductive SettingError where
  | emptyKey
  | unknownProfile (name : String)
  | language (code : String)
  | workers (count : Int)
  | fieldLines (count : Int)
  deriving DecidableEq

/-- The wording of a refused setting. -/
def SettingError.message : SettingError → String
  | emptyKey => "Template variable keys must be non-empty strings: ''"
  | unknownProfile name => quoted name ++ " is not a valid SanitizeProfile"
  | language code => "language must be a code like 'en': " ++ quoted code
  | workers count => "workers must be at least 1: " ++ Number.showInt count
  | fieldLines count => "essay_field_lines must be positive: " ++ Number.showInt count

/-- Template variables with their values, in the order in which they were given. -/
structure Template where
  entries : List (String × String) := []
  deriving DecidableEq

namespace Template

/-- The text of a value; `null` stands for the empty text. -/
def valueText : Json → String
  | .null => ""
  | j => j.display

/-- Template variables given as the members of an object. -/
def ofMembers (members : List (String × Json)) : Except SettingError Template :=
  if members.any fun m => m.1.isEmpty then .error .emptyKey
  else .ok ⟨members.map fun m => (m.1, valueText m.2)⟩

/-- The variables in the order in which they are replaced. -/
def ordered (t : Template) : List (String × String) :=
  t.entries.mergeSort fun a b => decide (b.1.length ≤ a.1.length)

/-- A text with every variable replaced. -/
def apply (t : Template) (text : String) : String :=
  String.ofList (t.ordered.foldl (fun s e => replace e.1.toList e.2.toList s) text.toList)

end Template

end QuestionBank
