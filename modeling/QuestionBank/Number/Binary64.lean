/-!
# Binary floating point

Scores and numeric answers are numbers of 64-bit binary floating point. A
value is kept by its fields, so equal fields mean the same value and every
value has one form. Each operation is exact arithmetic followed by one
rounding: to the nearest value, and to the even neighbour on a tie.
-/

namespace QuestionBank

/-- A floating-point number. A finite one has a biased exponent and 52 bits of
fraction; exponent 0 means that the leading bit is absent. -/
inductive Binary64 where
  | nan
  | infinite (negative : Bool)
  | finite (negative : Bool) (exponent : Fin 2047) (fraction : BitVec 52)
  deriving DecidableEq, Inhabited

/-- The quotient rounded to the nearest whole number, ties to even. -/
def roundQuotient (num den : Nat) : Nat :=
  let q := num / den
  let r := num % den
  if 2 * r < den then q
  else if den < 2 * r then q + 1
  else if q % 2 = 0 then q else q + 1

namespace Binary64

/-- The leading bit that a fraction leaves out. -/
def leadingBit : Nat := 1 <<< 52

/-- How many units, the least positive values, make one. -/
def unitsPerOne : Nat := 1 <<< 1074

/-- Zero of either sign. -/
def zero (negative : Bool) : Binary64 := .finite negative 0 0

/-- One. -/
def one : Binary64 := .finite false 1023 0

/-- The number with a significand of at most 53 bits, counted in `2 ^ scale` units. -/
def ofSignificand (negative : Bool) (significand scale : Nat) : Binary64 :=
  if significand < leadingBit then .finite negative 0 (.ofNat 52 significand)
  else if h : scale + 1 < 2047 then .finite negative ⟨scale + 1, h⟩ (.ofNat 52 significand)
  else .infinite negative

/-- The number nearest to a fraction. -/
def ofFraction (negative : Bool) (num den : Nat) : Binary64 :=
  let units := num * unitsPerOne
  let scale := Nat.log2 (units / den) + 1 - 53
  let significand := roundQuotient units (den <<< scale)
  if significand = 2 * leadingBit then ofSignificand negative leadingBit (scale + 1)
  else ofSignificand negative significand scale

/-- The number nearest to a rational one. -/
def ofRat (q : Rat) : Binary64 := ofFraction (q < 0) q.num.natAbs q.den

/-- The number nearest to an integer. -/
def ofInt (i : Int) : Binary64 := ofFraction (i < 0) i.natAbs 1

/-- A power of ten. -/
def powerOfTen (n : Nat) : Nat := Nat.pow 10 n

/-- The number nearest to `digits * 10 ^ exponent`, where `width` is the number
of decimal digits in `digits`. Out of the range of exponents the answer is
known without the power. -/
def ofDecimal (negative : Bool) (digits width : Nat) (exponent : Int) : Binary64 :=
  if digits = 0 then zero negative
  else if exponent + width > 310 then .infinite negative
  else if exponent + width < -330 then zero negative
  else if exponent < 0 then ofFraction negative digits (powerOfTen exponent.natAbs)
  else ofFraction negative (digits * powerOfTen exponent.natAbs) 1

/-- The magnitude of a finite number in units. -/
def units (exponent : Fin 2047) (fraction : BitVec 52) : Nat :=
  if exponent.val = 0 then fraction.toNat
  else (leadingBit + fraction.toNat) <<< (exponent.val - 1)

/-- A finite number in units. -/
def toUnits? : Binary64 → Option Int
  | .finite negative e f => some (if negative then -(units e f : Int) else units e f)
  | _ => none

/-- The value of a finite number. -/
def toRat? (x : Binary64) : Option Rat :=
  x.toUnits?.map fun u => mkRat u unitsPerOne

/-- Tells whether the sign bit is set. -/
def isNegative : Binary64 → Bool
  | .nan => false
  | .infinite negative => negative
  | .finite negative _ _ => negative

/-- Tells whether a number is zero, of either sign. -/
def isZero : Binary64 → Bool
  | .finite _ e f => e.val = 0 && f.toNat = 0
  | _ => false

/-- The number of the opposite sign. -/
def neg : Binary64 → Binary64
  | .nan => .nan
  | .infinite negative => .infinite !negative
  | .finite negative e f => .finite (!negative) e f

/-- The number nearest to a count of units. -/
def ofUnits (u : Int) : Binary64 := ofFraction (u < 0) u.natAbs unitsPerOne

/-- Sum. Opposite infinities have none, and numbers that cancel give zero. -/
def add : Binary64 → Binary64 → Binary64
  | .nan, _ => .nan
  | _, .nan => .nan
  | .infinite a, .infinite b => if a = b then .infinite a else .nan
  | .infinite a, _ => .infinite a
  | _, .infinite b => .infinite b
  | .finite a ea fa, .finite b eb fb =>
    let x : Int := if a then -(units ea fa : Int) else units ea fa
    let y : Int := if b then -(units eb fb : Int) else units eb fb
    if x + y = 0 then zero (a && b) else ofUnits (x + y)

/-- Difference. -/
def sub (x y : Binary64) : Binary64 := add x (neg y)

/-- Product. An infinity has none with zero. -/
def mul : Binary64 → Binary64 → Binary64
  | .nan, _ => .nan
  | _, .nan => .nan
  | .infinite a, y => if y.isZero then .nan else .infinite (a != y.isNegative)
  | x, .infinite b => if x.isZero then .nan else .infinite (x.isNegative != b)
  | .finite a ea fa, .finite b eb fb =>
    ofFraction (a != b) (units ea fa * units eb fb) (unitsPerOne * unitsPerOne)

/-- Half of a number. -/
def half : Binary64 → Binary64
  | .finite negative e f => ofFraction negative (units e f) (2 * unitsPerOne)
  | x => x

/-- The order of numbers; no order holds of a number that is none. -/
def lt : Binary64 → Binary64 → Bool
  | .nan, _ => false
  | _, .nan => false
  | .infinite a, .infinite b => a && !b
  | .infinite a, _ => a
  | _, .infinite b => !b
  | .finite a ea fa, .finite b eb fb =>
    let x : Int := if a then -(units ea fa : Int) else units ea fa
    let y : Int := if b then -(units eb fb : Int) else units eb fb
    x < y

/-- Tells whether a number is above zero. -/
def isPositive (x : Binary64) : Bool := lt (zero false) x

/-- The integer that a number is equal to. -/
def toInt? (x : Binary64) : Option Int :=
  match x.toUnits? with
  | some u => if u % unitsPerOne = 0 then some (u / unitsPerOne) else none
  | none => none

/-- Why a number has no nearest integer. -/
inductive RoundError where
  | notANumber
  | infinite
  deriving DecidableEq

/-- The wording of a rounding error. -/
def RoundError.message : RoundError → String
  | .notANumber => "cannot convert float NaN to integer"
  | .infinite => "cannot convert float infinity to integer"

/-- The nearest integer, ties to even. -/
def round : Binary64 → Except RoundError Int
  | .nan => .error .notANumber
  | .infinite _ => .error .infinite
  | .finite negative e f =>
    let n : Int := roundQuotient (units e f) unitsPerOne
    .ok (if negative then -n else n)

end Binary64

end QuestionBank
