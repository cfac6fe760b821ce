import QuestionBank.Number.Shortest
import QuestionBank.Text.Blank
import QuestionBank.Text.Digit

/-!
# Numbers read from text

A number may have blanks around it, a sign, digits of any script, and single
underscores between digits. A floating-point number has a point, an exponent,
or is named `inf`, `infinity` or `nan` in any letter case.
-/

namespace QuestionBank.Number

open QuestionBank.Text

/-- The blanks that may stand around a number: the four separators U+001C to
U+001F are not among them. -/
def isPadding (c : Char) : Bool := isBlank c && !(0x1C ≤ c.toNat && c.toNat ≤ 0x1F)

/-- A text without the padding at both ends. -/
def unpad (s : List Char) : List Char :=
  ((s.dropWhile isPadding).reverse.dropWhile isPadding).reverse

/-- Removes the underscores, each of which has to stand between two digits. -/
def joinDigits? : Bool → List Char → Option (List Char)
  | _, [] => some []
  | afterDigit, c :: r =>
    if c = '_' then
      if afterDigit && r.head?.any isDecimal then joinDigits? false r else none
    else (joinDigits? (isDecimal c) r).map (c :: ·)

/-- The sign in front of a number, true for minus. -/
def takeSign : List Char → Bool × List Char
  | '-' :: r => (true, r)
  | '+' :: r => (false, r)
  | s => (false, s)

/-- The values of the digits at the beginning of a text. -/
def takeDigits : List Char → List Nat × List Char
  | [] => ([], [])
  | c :: r =>
    match decimalValue? c with
    | some d => let (ds, rest) := takeDigits r; (d :: ds, rest)
    | none => ([], c :: r)

/-- The number that decimal digits stand for. -/
def ofDigits (digits : List Nat) : Nat := digits.foldl (fun n d => 10 * n + d) 0

/-- The greatest number of digits that an integer may be read or written with. -/
def digitLimit : Nat := 4300

/-- The wording for an integer of too many digits. -/
def numeralTooLong (digits : Nat) : String :=
  "Exceeds the limit (" ++ showInt digitLimit ++
    " digits) for integer string conversion: value has " ++ showInt digits ++
    " digits; use sys.set_int_max_str_digits() to increase the limit"

/-- The wording for an integer that has too many digits to be written. -/
def integerTooLong : String :=
  "Exceeds the limit (" ++ showInt digitLimit ++
    " digits) for integer string conversion; use sys.set_int_max_str_digits() to increase the limit"

/-- The integer that a text stands for. -/
def readInt? (s : String) : Option Int :=
  match joinDigits? false (unpad s.toList) with
  | none => none
  | some t =>
    let (negative, t) := takeSign t
    let (digits, rest) := takeDigits t
    if digits.isEmpty || !rest.isEmpty || digits.length > digitLimit then none
    else some (if negative then -(ofDigits digits : Int) else ofDigits digits)

/-- The exponent that ends a number; a number may have none. -/
def readExponent? : List Char → Option Int
  | [] => some 0
  | c :: r =>
    if c = 'e' || c = 'E' then
      let (negative, r) := takeSign r
      let (digits, rest) := takeDigits r
      if digits.isEmpty || !rest.isEmpty then none
      else some (if negative then -(ofDigits digits : Int) else ofDigits digits)
    else none

/-- The digits after the point, if there is a point. -/
def takeFraction : List Char → List Nat × List Char
  | '.' :: r => takeDigits r
  | s => ([], s)

/-- The floating-point number that an unsigned text stands for. -/
def readMagnitude? (negative : Bool) (s : List Char) : Option Binary64 :=
  let lowered := s.map Char.toLower
  if lowered = "inf".toList || lowered = "infinity".toList then some (.infinite negative)
  else if lowered = "nan".toList then some .nan
  else
    let (whole, s) := takeDigits s
    let (fraction, s) := takeFraction s
    if whole.isEmpty && fraction.isEmpty then none
    else
      (readExponent? s).map fun e =>
        let digits := (whole ++ fraction).dropWhile (· == 0)
        .ofDecimal negative (ofDigits digits) digits.length (e - fraction.length)

/-- The floating-point number that a text stands for. -/
def readBinary64? (s : String) : Option Binary64 :=
  match joinDigits? false (unpad s.toList) with
  | none => none
  | some t => let (negative, t) := takeSign t; readMagnitude? negative t

end QuestionBank.Number
