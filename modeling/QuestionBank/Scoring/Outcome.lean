import QuestionBank.Text.Blank
import QuestionBank.Text.Case
import QuestionBank.Text.Digit
import QuestionBank.Number.Shortest

/-!
# Outcomes and choices

An outcome gives a score and feedback when its condition holds. Its name tells
what it is for: `right`, `wrong`, `Always happens`, or a stem number in front.
A choice is an answer option; conditions address it by its index.
-/

namespace QuestionBank

open QuestionBank.Text

/-- A scoring rule of a question. -/
structure Outcome where
  id : String
  score : Int := 0
  condition : String := ""
  feedback : String := ""
  deriving DecidableEq, Inhabited

namespace Outcome

/-- The name in lower case, without blanks around it. -/
def plainId (o : Outcome) : String := lowerAscii (strip o.id)

/-- The outcome of the right answer. -/
def isRight (o : Outcome) : Bool := o.plainId == "right"

/-- The outcome that applies without condition. -/
def isAlways (o : Outcome) : Bool := o.plainId == "always happens"

/-- The outcome of wrong answers, by its name. -/
def isWrong (o : Outcome) : Bool := o.plainId == "wrong"

/-- The outcome that applies when no other does. -/
def isOther (o : Outcome) : Bool := upperAscii (strip o.condition) == "OTHER"

/-- The negative outcome for whatever is not right, whatever its name. -/
def isCatchAll (o : Outcome) : Bool := o.isWrong || (o.isOther && o.score == 0)

/-- The first word of the name is a number. -/
def isNumbered (o : Outcome) : Bool :=
  let word := (strip o.id).toList.takeWhile (· != ' ')
  !word.isEmpty && word.all isDigit

/-- Takes part in scoring: neither negative nor unconditional. -/
def isScoring (o : Outcome) : Bool := !o.isCatchAll && !o.isAlways && !o.isOther

end Outcome

/-- An index that no choice has. -/
structure NegativeIndex where
  index : Int
  deriving DecidableEq

/-- The wording of a negative index. -/
def NegativeIndex.message (e : NegativeIndex) : String :=
  "Choice index cannot be negative: " ++ Number.showInt e.index

/-- An answer option, with the texts of its pull-down list. -/
structure Choice where
  index : Nat
  content : String
  options : List String := []
  deriving DecidableEq, Inhabited

namespace Choice

/-- The name by which conditions address a choice. -/
def key (c : Choice) : String := Number.showInt c.index

/-- The choice with an index, which must not be negative. -/
def ofIndex (index : Int) (content : String) : Except NegativeIndex Choice :=
  if index < 0 then .error ⟨index⟩ else .ok ⟨index.toNat, content, []⟩

end Choice

end QuestionBank
