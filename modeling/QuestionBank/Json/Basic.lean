import QuestionBank.Number.Shortest

/-!
# JSON values

Integers are unbounded and kept apart from floating-point numbers. The members
of an object keep their order, and a name occurs once: a later value takes the
place of an earlier one.
-/

namespace QuestionBank

/-- A JSON value. -/
inductive Json where
  | null
  | bool (b : Bool)
  | int (i : Int)
  | float (x : Binary64)
  | str (s : String)
  | arr (items : List Json)
  | obj (members : List (String × Json))
  deriving Inhabited

namespace Json

/-- Gives a name a value: in its old place, or at the end if the name is new. -/
def setMember (name : String) (value : Json) : List (String × Json) → List (String × Json)
  | [] => [(name, value)]
  | (n, v) :: r => if n = name then (n, value) :: r else (n, v) :: setMember name value r

/-- The value of a member of an object. -/
def get? (name : String) : Json → Option Json
  | obj members => members.lookup name
  | _ => none

/-- A list of texts. -/
def ofStrings (texts : List String) : Json := arr (texts.map str)

/-- An optional text, `null` when absent. -/
def ofOption : Option String → Json
  | some s => str s
  | none => null

mutual

/-- Tells whether two values are the same, field by field. -/
def same : Json → Json → Bool
  | null, null => true
  | bool a, bool b => a == b
  | int a, int b => a == b
  | float a, float b => a == b
  | str a, str b => a == b
  | arr a, arr b => sameItems a b
  | obj a, obj b => sameMembers a b
  | _, _ => false

/-- Tells whether two lists of values are the same. -/
def sameItems : List Json → List Json → Bool
  | [], [] => true
  | a :: r, b :: s => same a b && sameItems r s
  | _, _ => false

/-- Tells whether two lists of members are the same, order included. -/
def sameMembers : List (String × Json) → List (String × Json) → Bool
  | [], [] => true
  | (n, a) :: r, (m, b) :: s => n == m && same a b && sameMembers r s
  | _, _ => false

end

end Json

end QuestionBank
