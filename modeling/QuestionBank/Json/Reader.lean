import QuestionBank.Json.Basic
import QuestionBank.Number.Reader

/-!
# JSON read from text

The reader accepts the JSON grammar and the words `NaN`, `Infinity` and
`-Infinity`. A failure names its cause and the place where it was noticed, as
the text that was left to read there.
-/

namespace QuestionBank.Json

/-- What a text lacks to be JSON. -/
inductive Cause where
  | byteOrderMark
  | expectingValue
  | expectingComma
  | expectingColon
  | expectingName
  | extraData
  | controlCharacter
  | unknownEscape
  | badCodeEscape
  | unterminatedString
  | integerTooLong (digits : Nat)
  deriving DecidableEq

/-- The wording of a cause. -/
def Cause.message : Cause → String
  | byteOrderMark => "Unexpected UTF-8 BOM (decode using utf-8-sig)"
  | expectingValue => "Expecting value"
  | expectingComma => "Expecting ',' delimiter"
  | expectingColon => "Expecting ':' delimiter"
  | expectingName => "Expecting property name enclosed in double quotes"
  | extraData => "Extra data"
  | controlCharacter => "Invalid control character at"
  | unknownEscape => "Invalid \\escape"
  | badCodeEscape => "Invalid \\uXXXX escape"
  | unterminatedString => "Unterminated string starting at"
  | integerTooLong digits => Number.numeralTooLong digits

/-- A cause and the text that was left at the place it concerns. -/
structure Failure where
  cause : Cause
  rest : List Char

/-- A failure to read a text, at a number of characters from its beginning. -/
structure ReadError where
  cause : Cause
  position : Nat
  text : List Char

/-- The wording of an error with its place. A number of too many digits is
reported without one. -/
def ReadError.message (e : ReadError) : String :=
  match e.cause with
  | .integerTooLong n => (Cause.integerTooLong n).message
  | cause =>
    let before := e.text.take e.position
    let line := before.count '\n' + 1
    let column := (before.reverse.takeWhile (· != '\n')).length + 1
    cause.message ++ ": line " ++ Number.showInt line ++ " column " ++ Number.showInt column ++
      " (char " ++ Number.showInt e.position ++ ")"

/-- The white space between tokens. -/
def isSpace (c : Char) : Bool := c == ' ' || c == '\t' || c == '\n' || c == '\r'

/-- What follows the white space at the beginning of a text. -/
def skipSpace (s : List Char) : List Char := s.dropWhile isSpace

/-- The value of a hexadecimal digit. -/
def hexValue? (c : Char) : Option Nat :=
  if c.isDigit then some (c.toNat - 0x30)
  else if 'a' ≤ c && c ≤ 'f' then some (c.toNat - 0x61 + 10)
  else if 'A' ≤ c && c ≤ 'F' then some (c.toNat - 0x41 + 10)
  else none

/-- The value of four hexadecimal digits. -/
def hexValue4? (a b c d : Char) : Option Nat :=
  match hexValue? a, hexValue? b, hexValue? c, hexValue? d with
  | some a, some b, some c, some d => some (((a * 16 + b) * 16 + c) * 16 + d)
  | _, _, _, _ => none

/-- The character that a one-letter escape stands for. -/
def simpleEscape? : Char → Option Char
  | '"' => some '"'
  | '\\' => some '\\'
  | '/' => some '/'
  | 'b' => some '\x08'
  | 'f' => some '\x0c'
  | 'n' => some '\n'
  | 'r' => some '\r'
  | 't' => some '\t'
  | _ => none

/-- Tells whether a code is the first half of a surrogate pair. -/
def isHighSurrogate (n : Nat) : Bool := 0xD800 ≤ n && n < 0xDC00

/-- Tells whether a code is the second half of a surrogate pair. -/
def isLowSurrogate (n : Nat) : Bool := 0xDC00 ≤ n && n < 0xE000

/-- The character with a code; half of a surrogate pair is none and becomes
U+FFFD. -/
def ofCode (n : Nat) : Char :=
  if isHighSurrogate n || isLowSurrogate n then '\ufffd' else Char.ofNat n

/-- Reads a string up to its closing quote. `opening` is the text from its
opening quote on, and `read` holds what was read, in reverse order. -/
def stringBody (opening : List Char) (read : List Char) :
    List Char → Except Failure (String × List Char)
  | [] => .error ⟨.unterminatedString, opening⟩
  | ['\\'] => .error ⟨.unterminatedString, opening⟩
  | '"' :: r => .ok (String.ofList read.reverse, r)
  | '\\' :: 'u' :: a :: b :: c :: d :: '\\' :: 'u' :: e :: f :: g :: h :: i :: r =>
    match hexValue4? a b c d with
    | none => .error ⟨.badCodeEscape,
        'u' :: a :: b :: c :: d :: '\\' :: 'u' :: e :: f :: g :: h :: i :: r⟩
    | some high =>
      if isHighSurrogate high then
        match hexValue4? e f g h with
        | none => .error ⟨.badCodeEscape, 'u' :: e :: f :: g :: h :: i :: r⟩
        | some low =>
          if isLowSurrogate low then
            stringBody opening
              (Char.ofNat (0x10000 + (high - 0xD800) * 0x400 + (low - 0xDC00)) :: read) (i :: r)
          else
            stringBody opening (ofCode high :: read)
              ('\\' :: 'u' :: e :: f :: g :: h :: i :: r)
      else
        stringBody opening (ofCode high :: read) ('\\' :: 'u' :: e :: f :: g :: h :: i :: r)
  | '\\' :: 'u' :: a :: b :: c :: d :: i :: r =>
    match hexValue4? a b c d with
    | none => .error ⟨.badCodeEscape, 'u' :: a :: b :: c :: d :: i :: r⟩
    | some n => stringBody opening (ofCode n :: read) (i :: r)
  | '\\' :: 'u' :: r => .error ⟨.badCodeEscape, 'u' :: r⟩
  | '\\' :: c :: r =>
    match simpleEscape? c with
    | some d => stringBody opening (d :: read) r
    | none => .error ⟨.unknownEscape, '\\' :: c :: r⟩
  | c :: r =>
    if c.toNat < 0x20 then .error ⟨.controlCharacter, c :: r⟩
    else stringBody opening (c :: read) r

/-- The digits `0` to `9` at the beginning of a text. -/
def spanDigits (s : List Char) : List Char × List Char :=
  (s.takeWhile Char.isDigit, s.dropWhile Char.isDigit)

/-- The whole part of a number: a zero, or digits that begin with another. -/
def wholePart? : List Char → Option (List Char × List Char)
  | '0' :: r => some (['0'], r)
  | c :: r => if c.isDigit then some (spanDigits (c :: r)) else none
  | [] => none

/-- The digits after a point; a point without digits is not read. -/
def fractionPart (s : List Char) : Option (List Char) × List Char :=
  match s with
  | '.' :: r =>
    let (digits, rest) := spanDigits r
    if digits.isEmpty then (none, s) else (some digits, rest)
  | _ => (none, s)

/-- The exponent of a number; a letter without digits is not read. -/
def exponentPart (s : List Char) : Option Int × List Char :=
  match s with
  | c :: r =>
    if c = 'e' || c = 'E' then
      let (negative, r) := Number.takeSign r
      let (digits, rest) := spanDigits r
      let n := Number.ofDigits (digits.map fun d => d.toNat - 0x30)
      if digits.isEmpty then (none, s) else (some (if negative then -(n : Int) else n), rest)
    else (none, s)
  | [] => (none, s)

/-- A number with its optional parts. -/
def numberOf (negative : Bool) (whole : List Char) (fraction : Option (List Char))
    (exponent : Option Int) : Except Cause Json :=
  let values (ds : List Char) : List Nat := ds.map fun d => d.toNat - 0x30
  match fraction, exponent with
  | none, none =>
    if whole.length > Number.digitLimit then .error (.integerTooLong whole.length)
    else
      let n := Number.ofDigits (values whole)
      .ok (.int (if negative then -(n : Int) else n))
  | _, _ =>
    let places := fraction.getD []
    let digits := (values (whole ++ places)).dropWhile (· == 0)
    .ok (.float (.ofDecimal negative (Number.ofDigits digits) digits.length
      (exponent.getD 0 - places.length)))

/-- The minus sign in front of a number, if there is one. -/
def takeMinus : List Char → Bool × List Char
  | '-' :: r => (true, r)
  | s => (false, s)

/-- Reads a number. -/
def number (s : List Char) : Except Failure (Json × List Char) :=
  let (negative, t) := takeMinus s
  match wholePart? t with
  | none => .error ⟨.expectingValue, s⟩
  | some (whole, t) =>
    let (fraction, t) := fractionPart t
    let (exponent, t) := exponentPart t
    match numberOf negative whole fraction exponent with
    | .ok j => .ok (j, t)
    | .error cause => .error ⟨cause, s⟩

mutual

/-- Reads a value. A bracket or a comma takes one character and at most two steps, so twice
the length of the text bounds the depth of the recursion. -/
def value : Nat → List Char → Except Failure (Json × List Char)
  | 0, s => .error ⟨.expectingValue, s⟩
  | n + 1, s =>
    match s with
    | '"' :: r => (stringBody s [] r).map fun (text, rest) => (.str text, rest)
    | '\x7b' :: r =>
      match skipSpace r with
      | '\x7d' :: rest => .ok (.obj [], rest)
      | rest => members n [] rest
    | '[' :: r =>
      match skipSpace r with
      | ']' :: rest => .ok (.arr [], rest)
      | rest => items n [] rest
    | 'n' :: 'u' :: 'l' :: 'l' :: r => .ok (.null, r)
    | 't' :: 'r' :: 'u' :: 'e' :: r => .ok (.bool true, r)
    | 'f' :: 'a' :: 'l' :: 's' :: 'e' :: r => .ok (.bool false, r)
    | 'N' :: 'a' :: 'N' :: r => .ok (.float .nan, r)
    | 'I' :: 'n' :: 'f' :: 'i' :: 'n' :: 'i' :: 't' :: 'y' :: r =>
      .ok (.float (.infinite false), r)
    | '-' :: 'I' :: 'n' :: 'f' :: 'i' :: 'n' :: 'i' :: 't' :: 'y' :: r =>
      .ok (.float (.infinite true), r)
    | _ => number s

/-- Reads the items of a list up to its bracket; `read` holds those before, in
reverse order. -/
def items : Nat → List Json → List Char → Except Failure (Json × List Char)
  | 0, _, s => .error ⟨.expectingValue, s⟩
  | n + 1, read, s =>
    match value n s with
    | .error e => .error e
    | .ok (item, rest) =>
      match skipSpace rest with
      | ']' :: rest => .ok (.arr (item :: read).reverse, rest)
      | ',' :: rest => items n (item :: read) (skipSpace rest)
      | rest => .error ⟨.expectingComma, rest⟩

/-- Reads the members of an object up to its bracket. -/
def members : Nat → List (String × Json) → List Char → Except Failure (Json × List Char)
  | 0, _, s => .error ⟨.expectingName, s⟩
  | n + 1, read, s =>
    match s with
    | '"' :: r =>
      match stringBody s [] r with
      | .error e => .error e
      | .ok (name, rest) =>
        match skipSpace rest with
        | ':' :: rest =>
          match value n (skipSpace rest) with
          | .error e => .error e
          | .ok (item, rest) =>
            match skipSpace rest with
            | '\x7d' :: rest => .ok (.obj (setMember name item read), rest)
            | ',' :: rest => members n (setMember name item read) (skipSpace rest)
            | rest => .error ⟨.expectingComma, rest⟩
        | rest => .error ⟨.expectingColon, rest⟩
    | _ => .error ⟨.expectingName, s⟩

end

/-- Reads a whole text. -/
def ofChars (s : List Char) : Except ReadError Json :=
  let located (e : Failure) : ReadError := ⟨e.cause, s.length - e.rest.length, s⟩
  match s with
  | '\ufeff' :: _ => .error ⟨.byteOrderMark, 0, s⟩
  | _ =>
    match value (2 * s.length + 1) (skipSpace s) with
    | .error e => .error (located e)
    | .ok (j, rest) =>
      match skipSpace rest with
      | [] => .ok j
      | rest => .error (located ⟨.extraData, rest⟩)

/-- Reads a whole text. -/
def read (s : String) : Except ReadError Json := ofChars s.toList

end QuestionBank.Json
