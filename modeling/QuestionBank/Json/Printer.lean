import QuestionBank.Json.Basic
import QuestionBank.Number.Reader
import QuestionBank.Text.Quoted

/-!
# JSON text

`Json.chars` writes a value on one line, with one space after commas and
colons; `Json.indented` gives every item its own line. Characters outside
ASCII stand for themselves. An integer of too many digits cannot be written.
-/

namespace QuestionBank.Json

/-- Floating-point numbers are positional from `1e-04` up to `1e+15`. -/
def numberLayout : Number.Layout :=
  { lowest := -4, highest := 15, exponentWidth := 2, nan := "NaN", infinity := "Infinity" }

/-- One character inside a string. -/
def escapedChar (c : Char) : List Char :=
  if c = '"' then ['\\', '"']
  else if c = '\\' then ['\\', '\\']
  else if c = '\n' then ['\\', 'n']
  else if c = '\r' then ['\\', 'r']
  else if c = '\t' then ['\\', 't']
  else if c = '\x08' then ['\\', 'b']
  else if c = '\x0c' then ['\\', 'f']
  else if c.toNat < 0x20 then '\\' :: 'u' :: Text.hex 4 c.toNat
  else [c]

/-- A string between double quotes. -/
def stringChars (s : String) : List Char :=
  '"' :: (s.toList.flatMap escapedChar ++ ['"'])

mutual

/-- A value on one line. -/
def chars : Json → List Char
  | null => ['n', 'u', 'l', 'l']
  | bool true => ['t', 'r', 'u', 'e']
  | bool false => ['f', 'a', 'l', 's', 'e']
  | int i => (Number.showInt i).toList
  | float x => (numberLayout.render x).toList
  | str s => stringChars s
  | arr [] => ['[', ']']
  | arr (item :: items) => '[' :: (chars item ++ itemsChars items)
  | obj [] => ['\x7b', '\x7d']
  | obj ((name, value) :: members) =>
    '\x7b' :: (stringChars name ++ ':' :: ' ' :: (chars value ++ membersChars members))

/-- The further items of a list and its closing bracket. -/
def itemsChars : List Json → List Char
  | [] => [']']
  | item :: items => ',' :: ' ' :: (chars item ++ itemsChars items)

/-- The further members of an object and its closing bracket. -/
def membersChars : List (String × Json) → List Char
  | [] => ['\x7d']
  | (name, value) :: members =>
    ',' :: ' ' :: (stringChars name ++ ':' :: ' ' :: (chars value ++ membersChars members))

end

mutual

/-- Tells whether every integer of a value has few enough digits to be written. -/
def isWritable : Json → Bool
  | int i => (Number.decimalDigits i.natAbs).length ≤ Number.digitLimit
  | arr items => itemsWritable items
  | obj members => membersWritable members
  | _ => true

/-- Tells whether all items of a list can be written. -/
def itemsWritable : List Json → Bool
  | [] => true
  | item :: items => isWritable item && itemsWritable items

/-- Tells whether all members of an object can be written. -/
def membersWritable : List (String × Json) → Bool
  | [] => true
  | (_, value) :: members => isWritable value && membersWritable members

end

/-- The text of a value on one line. -/
def render (j : Json) : String := String.ofList j.chars

/-- A line end followed by two spaces for every level. -/
def newLine (level : Nat) : List Char := '\n' :: List.replicate (2 * level) ' '

mutual

/-- A value with an item a line, at a level of indentation. -/
def indentedChars (level : Nat) : Json → List Char
  | arr (item :: items) =>
    '[' :: (newLine (level + 1) ++ indentedChars (level + 1) item ++ indentedItems level items)
  | obj ((name, value) :: members) =>
    '\x7b' :: (newLine (level + 1) ++ stringChars name ++
      ':' :: ' ' :: (indentedChars (level + 1) value ++ indentedMembers level members))
  | null => ['n', 'u', 'l', 'l']
  | bool true => ['t', 'r', 'u', 'e']
  | bool false => ['f', 'a', 'l', 's', 'e']
  | int i => (Number.showInt i).toList
  | float x => (numberLayout.render x).toList
  | str s => stringChars s
  | arr [] => ['[', ']']
  | obj [] => ['\x7b', '\x7d']

/-- The further items of a list of this level. -/
def indentedItems (level : Nat) : List Json → List Char
  | [] => newLine level ++ [']']
  | item :: items =>
    ',' :: (newLine (level + 1) ++ indentedChars (level + 1) item ++ indentedItems level items)

/-- The further members of an object of this level. -/
def indentedMembers (level : Nat) : List (String × Json) → List Char
  | [] => newLine level ++ ['\x7d']
  | (name, value) :: members =>
    ',' :: (newLine (level + 1) ++ stringChars name ++
      ':' :: ' ' :: (indentedChars (level + 1) value ++ indentedMembers level members))

end

/-- The text of a value with an item a line. -/
def indented (j : Json) : String := String.ofList (j.indentedChars 0)

end QuestionBank.Json
