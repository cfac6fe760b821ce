import QuestionBank.Condition.Parser
import QuestionBank.Failure

/-!
# Conditions of outcomes

A condition that cannot be read is a failure that carries its text, with the outcome and
the question it belongs to as far as they are known.
-/

namespace QuestionBank.Condition

/-- Reads the condition of an outcome. -/
def read (text : String) (outcome question : Option String) : Except Failure Expression :=
  match parse text with
  | .ok e => .ok e
  | .error fault => .error ⟨.condition fault text outcome, question⟩

end QuestionBank.Condition
