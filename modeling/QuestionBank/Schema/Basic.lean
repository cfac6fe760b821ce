import QuestionBank.Json.Shown

/-!
# Schemas of values

A schema is a list of rules. Checking a value gives every violation with the place
where it stands, in the order of the rules; a rule for values of another type says
nothing.
-/

namespace QuestionBank.Schema

/-- The types of values. A whole floating-point number counts as an integer. -/
inductive ValueType where
  | null
  | boolean
  | integer
  | number
  | string
  | array
  | object
  deriving DecidableEq

namespace ValueType

/-- The name of a type. -/
def name : ValueType → String
  | null => "null"
  | boolean => "boolean"
  | integer => "integer"
  | number => "number"
  | string => "string"
  | array => "array"
  | object => "object"

/-- Tells whether a value has a type. -/
def holds : ValueType → Json → Bool
  | null, .null => true
  | boolean, .bool _ => true
  | integer, .int _ => true
  | integer, .float x => x.toInt?.isSome
  | number, .int _ => true
  | number, .float _ => true
  | string, .str _ => true
  | array, .arr _ => true
  | object, .obj _ => true
  | _, _ => false

end ValueType

/-- A value that a rule names. -/
inductive Scalar where
  | int (i : Int)
  | str (s : String)
  deriving DecidableEq

namespace Scalar

/-- A named value as a value. -/
def toJson : Scalar → Json
  | int i => .int i
  | str s => .str s

/-- Tells whether a value equals a named one. Numbers are compared by size. -/
def equals : Scalar → Json → Bool
  | int i, .int j => i == j
  | int i, .float x => x.toInt? == some i
  | str s, .str t => s == t
  | _, _ => false

end Scalar

/-- A rule of a schema. In `whenMember`, the rules at the end hold if the member, when
there is one, is among the named values. -/
inductive Rule where
  | type (types : List ValueType)
  | among (values : List Scalar)
  | required (names : List String)
  | properties (rules : List (String × List Rule))
  | items (rules : List Rule)
  | atLeast (least : Int)
  | atMost (most : Int)
  | nonEmptyText
  | nonEmptyList
  | whenMember (name : String) (values : List Scalar) (rules : List Rule)

/-- A step into a value. -/
inductive Step where
  | member (name : String)
  | item (index : Nat)
  deriving DecidableEq

namespace Step

/-- The text of a step. -/
def text : Step → String
  | member name => name
  | item index => Number.showInt index

/-- The order of steps into one value. -/
def before : Step → Step → Bool
  | member a, member b => decide (a < b)
  | item i, item j => decide (i < j)
  | member _, item _ => false
  | item _, member _ => true

end Step

/-- The order of paths: by the first step that differs, a beginning before what goes on. -/
def pathBefore : List Step → List Step → Bool
  | [], [] => false
  | [], _ :: _ => true
  | _ :: _, [] => false
  | a :: p, b :: q => a.before b || (a == b && pathBefore p q)

/-- A violation of a rule and the path to the value. -/
structure Issue where
  path : List Step
  message : String
  deriving DecidableEq

/-- The text of a path. -/
def Issue.pathText (i : Issue) : String := ".".intercalate (i.path.map Step.text)

/-- The issue of a value inside another one. -/
def Issue.inside (step : Step) (i : Issue) : Issue := { i with path := step :: i.path }

/-- The number that a value is compared with a bound as: less, or greater. -/
def numberBelow (j : Json) (bound : Int) : Bool :=
  match j with
  | .int i => decide (i < bound)
  | .float x => x.lt (.ofInt bound)
  | _ => false

/-- Tells whether a number is above a bound. -/
def numberAbove (j : Json) (bound : Int) : Bool :=
  match j with
  | .int i => decide (bound < i)
  | .float x => (Binary64.ofInt bound).lt x
  | _ => false

/-- The issue of a value itself. -/
def here (message : String) : List Issue := [⟨[], message⟩]

mutual

/-- The violations of a rule by a value. -/
def Rule.check (j : Json) : Rule → List Issue
  | .type types =>
    if types.any fun t => t.holds j then []
    else
      here (j.shown ++ " is not of type "
        ++ ", ".intercalate (types.map fun t => Text.quoted t.name))
  | .among values =>
    if values.any fun v => v.equals j then []
    else here (j.shown ++ " is not one of " ++ (Json.arr (values.map Scalar.toJson)).shown)
  | .required names =>
    match j with
    | .obj members =>
      names.flatMap fun name =>
        if (members.lookup name).isSome then []
        else here (Text.quoted name ++ " is a required property")
    | _ => []
  | .properties rules =>
    match j with
    | .obj members => checkMembers members rules
    | _ => []
  | .items rules =>
    match j with
    | .arr items =>
      items.zipIdx.flatMap fun entry =>
        (checkAll entry.1 rules).map (Issue.inside (.item entry.2))
    | _ => []
  | .atLeast least =>
    if numberBelow j least then
      here (j.shown ++ " is less than the minimum of " ++ Number.showInt least)
    else []
  | .atMost most =>
    if numberAbove j most then
      here (j.shown ++ " is greater than the maximum of " ++ Number.showInt most)
    else []
  | .nonEmptyText =>
    match j with
    | .str "" => here (j.shown ++ " should be non-empty")
    | _ => []
  | .nonEmptyList =>
    match j with
    | .arr [] => here (j.shown ++ " should be non-empty")
    | _ => []
  | .whenMember name values rules =>
    match j.get? name with
    | some v => if values.any fun s => s.equals v then checkAll j rules else []
    | none => checkAll j rules

/-- The violations of rules by a value. -/
def checkAll (j : Json) : List Rule → List Issue
  | [] => []
  | rule :: rules => rule.check j ++ checkAll j rules

/-- The violations of the rules for members of an object. -/
def checkMembers (members : List (String × Json)) : List (String × List Rule) → List Issue
  | [] => []
  | (name, rules) :: r =>
    (match members.lookup name with
      | some value => (checkAll value rules).map (Issue.inside (.member name))
      | none => []) ++ checkMembers members r

end

/-- The violations of rules by a value, by the place where they stand. -/
def violations (rules : List Rule) (j : Json) : List Issue :=
  (checkAll j rules).mergeSort fun a b => !pathBefore b.path a.path

end QuestionBank.Schema
