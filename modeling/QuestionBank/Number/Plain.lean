import QuestionBank.Text.Digit

/-!
# Plain numbers

A plain number has an optional minus sign, decimal digits of any script, and a
point only if digits follow it.
-/

namespace QuestionBank.Number

open QuestionBank.Text

/-- What follows the whole part of a number: a point and digits, if there are
any digits after the point. -/
def fractionSlice : List Char → List Char
  | '.' :: r =>
    let digits := r.takeWhile isDecimal
    if digits.isEmpty then [] else '.' :: digits
  | _ => []

/-- The plain number at the beginning of a text. -/
def plainNumber? (s : List Char) : Option (List Char) :=
  let sign := if s.head? = some '-' then ['-'] else []
  let whole := (s.drop sign.length).takeWhile isDecimal
  if whole.isEmpty then none
  else some (sign ++ whole ++ fractionSlice (s.drop (sign.length + whole.length)))

end QuestionBank.Number
