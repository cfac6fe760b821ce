import QuestionBank.Number.Binary64

/-!
# The shortest decimal form

A finite number is written with the fewest digits that read back as the same
number. On the grid of each number of digits its two neighbours are tried; the
first grid with a hit wins, and of two hits the nearer one, or the even one if
both are as near.
-/

namespace QuestionBank.Number

/-- A decimal number `digits * 10 ^ exponent`. -/
structure Decimal where
  digits : Nat
  exponent : Int
  deriving DecidableEq

/-- The decimal digits of a number, the first one first. -/
def decimalDigits (n : Nat) : List Char :=
  if n < 10 then [Nat.digitChar n] else decimalDigits (n / 10) ++ [Nat.digitChar (n % 10)]
termination_by n

/-- The text of an integer. -/
def showInt (i : Int) : String :=
  let digits := String.ofList (decimalDigits i.natAbs)
  if i < 0 then "-" ++ digits else digits

/-- The same number without zeros at the end of its digits. -/
def Decimal.trim (d : Decimal) : Nat → Decimal
  | 0 => d
  | fuel + 1 =>
    if d.digits % 10 = 0 then Decimal.trim ⟨d.digits / 10, d.exponent + 1⟩ fuel else d

/-- `num / den` as a quotient of naturals after multiplying by `10 ^ shift`. -/
def scaled (num den : Nat) (shift : Int) : Nat × Nat :=
  let power := Binary64.powerOfTen shift.natAbs
  if shift < 0 then (num, den * power) else (num * power, den)

/-- The exponent `e` with `10 ^ e ≤ num / den < 10 ^ (e + 1)`. -/
def leadingExponent (num den : Nat) : Int :=
  let bits : Int := (Nat.log2 num : Int) - Nat.log2 den
  let guess := bits * 30103 / 100000
  let (n, d) := scaled num den (-guess)
  if n < d then guess - 1 else if n < 10 * d then guess else guess + 1

/-- The decimal number with `width` digits that reads back as `x` and is nearest
to it. -/
def onGrid? (x : Binary64) (num den : Nat) (lead : Int) (width : Nat) : Option Decimal :=
  let exponent := lead - width + 1
  let (n, d) := scaled num den (-exponent)
  let low := n / d
  let readsBack (digits : Nat) : Bool :=
    Binary64.ofDecimal false digits (decimalDigits digits).length exponent == x
  let nearer := roundQuotient n d
  let farther := if nearer = low then low + 1 else low
  if readsBack nearer then some ⟨nearer, exponent⟩
  else if readsBack farther then some ⟨farther, exponent⟩
  else none

/-- The shortest decimal form of the positive number with these fields. -/
def shortest (exponent : Fin 2047) (fraction : BitVec 52) : Decimal :=
  let x := Binary64.finite false exponent fraction
  let num := Binary64.units exponent fraction
  let den := Binary64.unitsPerOne
  let lead := leadingExponent num den
  match (List.range 17).findSome? fun i => onGrid? x num den lead (i + 1) with
  | some d => d.trim 20
  | none => ⟨0, 0⟩

/-- How floating-point numbers are laid out. -/
structure Layout where
  /-- The least exponent of the first digit for positional writing. -/
  lowest : Int
  /-- The greatest exponent of the first digit for positional writing. -/
  highest : Int
  /-- The least number of digits in an exponent. -/
  exponentWidth : Nat
  /-- The text for what is not a number. -/
  nan : String
  /-- The text for infinity. -/
  infinity : String

/-- Digits with a point after the first, and an exponent with its sign. -/
def Layout.exponential (layout : Layout) (digits : List Char) (lead : Int) : List Char :=
  let mantissa := match digits with
    | [] => []
    | [c] => [c]
    | c :: r => c :: '.' :: r
  let power := decimalDigits lead.natAbs
  mantissa ++ 'e' :: (if lead < 0 then '-' else '+') ::
    (List.replicate (layout.exponentWidth - power.length) '0' ++ power)

/-- Digits with a point at its place and at least one digit on either side. -/
def positional (digits : List Char) (lead : Int) : List Char :=
  if lead < 0 then '0' :: '.' :: (List.replicate (lead.natAbs - 1) '0' ++ digits)
  else
    let whole := lead.natAbs + 1
    if digits.length ≤ whole then
      digits ++ List.replicate (whole - digits.length) '0' ++ ['.', '0']
    else digits.take whole ++ '.' :: digits.drop whole

/-- The text of a floating-point number. -/
def Layout.render (layout : Layout) : Binary64 → String
  | .nan => layout.nan
  | .infinite negative => (if negative then "-" else "") ++ layout.infinity
  | .finite negative e f =>
    let body :=
      if e.val = 0 && f.toNat = 0 then ['0', '.', '0']
      else
        let d := shortest e f
        let digits := decimalDigits d.digits
        let lead := d.exponent + digits.length - 1
        if layout.lowest ≤ lead && lead ≤ layout.highest then positional digits lead
        else layout.exponential digits lead
    String.ofList (if negative then '-' :: body else body)

end QuestionBank.Number
