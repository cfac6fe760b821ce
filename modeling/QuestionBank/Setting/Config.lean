import QuestionBank.Markup.Clean
import QuestionBank.Setting.Template
import QuestionBank.Text.Letter

/-!
# The configuration of an import

A configuration says how texts are cleaned and what is written beside the
questions. Only `Config.checked` makes sure that its values make sense.
-/

namespace QuestionBank

open QuestionBank.Markup QuestionBank.Text

/-- The configuration of an import. -/
structure Config where
  language : String := "en"
  template : Template := {}
  defaultProfile : Profile := .rich
  answerProfile : Profile := .plain
  workers : Int := 1
  emitCategories : Bool := true
  strict : Bool := true
  fieldLines : Int := 15
  deriving DecidableEq

namespace Config

/-- Tells whether a text is the code of a language: letters, and underscores between. -/
def isLanguageCode (s : String) : Bool :=
  let letters := s.toList.filter (· != '_')
  !letters.isEmpty && letters.all isLetter

/-- A configuration, if its values make sense. -/
def checked (c : Config) : Except SettingError Config :=
  if !isLanguageCode c.language then .error (.language c.language)
  else if c.workers < 1 then .error (.workers c.workers)
  else if c.fieldLines < 1 then .error (.fieldLines c.fieldLines)
  else .ok c

/-- The profile with a name, or `fallback` if no name is given. -/
def profileOr (fallback : Profile) : Option Json → Except SettingError Profile
  | some (.str s) =>
    match Profile.ofName? s with
    | some p => .ok p
    | none => .error (.unknownProfile s)
  | _ => .ok fallback

/-- A configuration given as an object; what it leaves out keeps its default. -/
def ofJson (j : Json) : Except SettingError Config := do
  let start : Config := {}
  let template ← match j.get? "variables" with
    | some (.obj members) => Template.ofMembers members
    | _ => .ok {}
  let defaultProfile ← profileOr start.defaultProfile (j.get? "default_profile")
  let answerProfile ← profileOr start.answerProfile (j.get? "answer_profile")
  let text (name fallback : String) : String :=
    match j.get? name with
    | some (.str s) => s
    | _ => fallback
  let number (name : String) (fallback : Int) : Int :=
    match j.get? name with
    | some (.int i) => i
    | _ => fallback
  let flag (name : String) (fallback : Bool) : Bool :=
    match j.get? name with
    | some (.bool b) => b
    | _ => fallback
  checked
    { language := text "language" start.language
      template
      defaultProfile
      answerProfile
      workers := number "workers" start.workers
      emitCategories := flag "emit_categories" start.emitCategories
      strict := flag "strict_validation" start.strict
      fieldLines := number "essay_field_lines" start.fieldLines }

/-- A configuration as an object. -/
def toJson (c : Config) : Json :=
  .obj [("language", .str c.language),
    ("variables", .obj (c.template.entries.map fun e => (e.1, .str e.2))),
    ("default_profile", .str c.defaultProfile.name), ("answer_profile", .str c.answerProfile.name),
    ("workers", .int c.workers), ("emit_categories", .bool c.emitCategories),
    ("strict_validation", .bool c.strict), ("essay_field_lines", .int c.fieldLines)]

end Config

end QuestionBank
