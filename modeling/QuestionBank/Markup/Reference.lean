import QuestionBank.Failure
import QuestionBank.Markup.Entity

/-!
# Character references

A reference begins with an ampersand and names a character by its code or by its
name. `decode` replaces every reference by its text, `decodeText` does so unless a
code is too long to be read, and `encode` writes the signs that markup reserves as
references.
-/

namespace QuestionBank.Markup

/-- What the codes 80 to 9F stand for: a page of letters and signs, and for the
five codes without one the control character itself. -/
def highControls : List Char :=
  ("€\u0081‚ƒ„…†‡ˆ‰Š‹Œ\u008dŽ\u008f" ++ "\u0090‘’“”•–—˜™š›œ\u009džŸ").toList

/-- Tells whether a code stands for nothing. -/
def isVoidCode (n : Nat) : Bool :=
  (1 ≤ n && n ≤ 8) || n == 0xB || (0xE ≤ n && n ≤ 0x1F) || n == 0x7F
    || (0xFDD0 ≤ n && n ≤ 0xFDEF) || n % 0x10000 == 0xFFFE || n % 0x10000 == 0xFFFF

/-- The text of a reference by code. -/
def charOfCode (n : Nat) : List Char :=
  if n = 0 then ['\ufffd']
  else if 0x80 ≤ n && n ≤ 0x9F then [highControls.getD (n - 0x80) '\ufffd']
  else if (0xD800 ≤ n && n ≤ 0xDFFF) || n > 0x10FFFF then ['\ufffd']
  else if isVoidCode n then []
  else [Char.ofNat n]

/-- Tells whether a character is a hexadecimal digit. -/
def isHexDigit (c : Char) : Bool :=
  c.isDigit || ('a' ≤ c && c ≤ 'f') || ('A' ≤ c && c ≤ 'F')

/-- The value of a hexadecimal digit. -/
def hexDigit (c : Char) : Nat :=
  if c.isDigit then c.toNat - 0x30
  else if 'a' ≤ c then c.toNat - 0x61 + 10
  else c.toNat - 0x41 + 10

/-- The number that digits of a base stand for. -/
def codeOf (base : Nat) (digits : List Char) : Nat :=
  digits.foldl (fun n d => base * n + hexDigit d) 0

/-- The characters of reference names. -/
def isNameSign (c : Char) : Bool :=
  !(c == '\t' || c == '\n' || c == '\x0c' || c == ' ' || c == '<' || c == '&' || c == '#'
    || c == ';')

/-- The longest known name of at least two characters that a text begins with,
found among its first `n` characters; with its text stands what follows it. -/
def longestName? (name : List Char) : Nat → Option (List Char)
  | 0 => none
  | 1 => none
  | n + 1 =>
    match entity? (name.take (n + 1)) with
    | some text => some (text ++ name.drop (n + 1))
    | none => longestName? name n

/-- The text of a reference by name. A name that is not known may begin with one
that is; otherwise the reference stays as it is. -/
def charsOfName (name : List Char) : List Char :=
  match entity? name with
  | some text => text
  | none => (longestName? name (name.length - 1)).getD ('&' :: name)

/-- One if a text begins with a semicolon, else zero. -/
def semicolonSize (s : List Char) : Nat := if s.head? = some ';' then 1 else 0

/-- The reference that follows an ampersand: its text and its size. -/
def reference? (s : List Char) : Option (List Char × Nat) :=
  match s with
  | '#' :: r =>
    let digits := r.takeWhile Char.isDigit
    if !digits.isEmpty then
      some (charOfCode (codeOf 10 digits),
        1 + digits.length + semicolonSize (r.drop digits.length))
    else
      match r with
      | x :: r =>
        let digits := r.takeWhile isHexDigit
        if (x = 'x' || x = 'X') && !digits.isEmpty then
          some (charOfCode (codeOf 16 digits),
            2 + digits.length + semicolonSize (r.drop digits.length))
        else none
      | [] => none
  | _ =>
    let name := (s.takeWhile isNameSign).take 32
    if name.isEmpty then none
    else
      let size := name.length + semicolonSize (s.drop name.length)
      some (charsOfName (s.take size), size)

/-- Replaces every reference by its text. -/
def decode : List Char → List Char
  | [] => []
  | c :: r =>
    if c = '&' then
      match reference? r with
      | some (text, size) => text ++ decode (r.drop size)
      | none => c :: decode r
    else c :: decode r
termination_by s => s.length
decreasing_by
  · simp only [List.length_drop, List.length_cons]; omega
  · simp
  · simp

/-- The number of digits of the first decimal code that has too many to be read. -/
def overlongCode? : List Char → Option Nat
  | '&' :: '#' :: r =>
    let size := (r.takeWhile Char.isDigit).length
    if size > Number.digitLimit then some size else overlongCode? r
  | _ :: r => overlongCode? r
  | [] => none

/-- A text with every reference replaced, if every code in it can be read. -/
def decodeText (s : List Char) : Except Breach (List Char) :=
  match overlongCode? s with
  | some digits => .error (.numeralTooLong digits)
  | none => .ok (decode s)

/-- One character as it stands in an attribute value. -/
def encodeChar (c : Char) : List Char :=
  if c = '&' then ['&', 'a', 'm', 'p', ';']
  else if c = '<' then ['&', 'l', 't', ';']
  else if c = '>' then ['&', 'g', 't', ';']
  else if c = '"' then ['&', 'q', 'u', 'o', 't', ';']
  else if c = '\'' then ['&', '#', 'x', '2', '7', ';']
  else [c]

/-- A text with the reserved signs as references. -/
def encode (s : List Char) : List Char := s.flatMap encodeChar

end QuestionBank.Markup
