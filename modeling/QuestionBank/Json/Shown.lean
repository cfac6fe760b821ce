import QuestionBank.Json.Printer

/-!
# Values in messages

Messages show a value with the words `None`, `True` and `False`, with quoted
texts, and with numbers that name themselves `nan` and `inf`.
-/

namespace QuestionBank.Json

/-- The number layout of messages: that of JSON text with other names for what
is not finite. -/
def messageLayout : Number.Layout := { numberLayout with nan := "nan", infinity := "inf" }

mutual

/-- A value as messages show it. -/
def shown : Json → String
  | null => "None"
  | bool true => "True"
  | bool false => "False"
  | int i => Number.showInt i
  | float x => messageLayout.render x
  | str s => Text.quoted s
  | arr [] => "[]"
  | arr (item :: items) => "[" ++ shown item ++ shownItems items
  | obj [] => "\x7b\x7d"
  | obj ((name, value) :: members) =>
    "\x7b" ++ Text.quoted name ++ ": " ++ shown value ++ shownMembers members

/-- The further items of a list. -/
def shownItems : List Json → String
  | [] => "]"
  | item :: items => ", " ++ shown item ++ shownItems items

/-- The further members of an object. -/
def shownMembers : List (String × Json) → String
  | [] => "\x7d"
  | (name, value) :: members =>
    ", " ++ Text.quoted name ++ ": " ++ shown value ++ shownMembers members

end

/-- A value as part of a sentence: a text stands there without quotes. -/
def display : Json → String
  | str s => s
  | j => j.shown

end QuestionBank.Json
