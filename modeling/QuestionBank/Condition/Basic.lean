/-!
# Conditions

A condition decides whether an outcome of a question applies. It is a
disjunction of conjunctions of comparisons, and a comparison may be negated.
The text of a condition is its own printed form: operands stand between double
quotes, and the words `AND`, `OR`, `NOT` and `NOCASE` join them.
-/

namespace QuestionBank.Condition

/-- What a comparison asks of its two operands. A comparison without an operator
asks whether a choice was selected. -/
inductive Operator where
  | matching
  | near
  | equal
  | atLeast
  | atMost
  | above
  | below
  | selected
  deriving DecidableEq, Inhabited

namespace Operator

/-- The written form of an operator. -/
def text : Operator → String
  | matching => "MATCHES"
  | near => "NEAR"
  | equal => "="
  | atLeast => ">="
  | atMost => "<="
  | above => ">"
  | below => "<"
  | selected => "SELECTED"

/-- All operators. -/
def all : List Operator := [matching, near, equal, atLeast, atMost, above, below, selected]

/-- The operator with a written form. -/
def ofText? (s : String) : Option Operator := all.find? fun op => op.text = s

/-- Tells whether an operator bounds a number from one side. -/
def isRange : Operator → Bool
  | atLeast | atMost | above | below => true
  | _ => false

/-- Tells whether an operator bounds a number from below. -/
def isLowerBound : Operator → Bool
  | atLeast | above => true
  | _ => false

end Operator

/-- One comparison of a condition. The left operand names a stem or a choice;
a comparison that asks for a selection has no right operand. -/
structure Comparison where
  left : String
  operator : Operator := .selected
  right : String := ""
  negated : Bool := false
  caseSensitive : Bool := true
  deriving DecidableEq, Inhabited

namespace Comparison

/-- Tells whether a comparison only refers to a choice. -/
def isReference (c : Comparison) : Bool := c.operator == .selected

/-- The text of a comparison. -/
def text (c : Comparison) : String :=
  let lead := (if c.negated then "NOT " else "") ++ "\"" ++ c.left ++ "\""
  if c.isReference then lead
  else
    lead ++ " " ++ c.operator.text ++ (if c.caseSensitive then "" else " NOCASE") ++
      " \"" ++ c.right ++ "\""

end Comparison

/-- Comparisons that have to hold together, at least one of them. -/
structure Conjunction where
  first : Comparison
  others : List Comparison := []
  deriving DecidableEq, Inhabited

namespace Conjunction

/-- The comparisons in order. -/
def comparisons (c : Conjunction) : List Comparison := c.first :: c.others

/-- The text of a conjunction. -/
def text (c : Conjunction) : String := " AND ".intercalate (c.comparisons.map Comparison.text)

end Conjunction

/-- A condition: at least one conjunction of which one has to hold, and the text
it was read from. -/
structure Expression where
  first : Conjunction
  others : List Conjunction := []
  source : String := ""
  deriving DecidableEq, Inhabited

namespace Expression

/-- The conjunctions in order. -/
def terms (e : Expression) : List Conjunction := e.first :: e.others

/-- Every comparison in order. -/
def comparisons (e : Expression) : List Comparison := e.terms.flatMap Conjunction.comparisons

/-- The text of an expression. -/
def text (e : Expression) : String := " OR ".intercalate (e.terms.map Conjunction.text)

end Expression

/-- Why lists of comparisons form no expression. -/
inductive ShapeError where
  | noConjunction
  | emptyConjunction
  deriving DecidableEq

/-- The wording of a shape error. -/
def ShapeError.message : ShapeError → String
  | .noConjunction => "ConditionExpression needs at least one conjunction"
  | .emptyConjunction => "Conjunctions cannot be empty"

/-- The conjunction of a list of comparisons that is not empty. -/
def Conjunction.ofList? : List Comparison → Option Conjunction
  | [] => none
  | c :: r => some ⟨c, r⟩

/-- The expression of a list of lists of comparisons. -/
def Expression.ofLists (lists : List (List Comparison)) (source : String) :
    Except ShapeError Expression :=
  match lists with
  | [] => .error .noConjunction
  | _ :: _ =>
    match lists.mapM Conjunction.ofList? with
    | some (first :: others) => .ok ⟨first, others, source⟩
    | _ => .error .emptyConjunction

end QuestionBank.Condition
