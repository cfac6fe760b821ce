import QuestionBank.Document.Encoding
import QuestionBank.Document.Name

/-!
# Parts that prolog and content share

Blanks, names, comments, processing instructions and references. Every function
takes the characters after the sign that shows what begins, and gives what follows
the part, or `none` if the part is malformed.
-/

namespace QuestionBank.Document

/-- Tells whether a character parts words of markup. -/
def isGap (c : Char) : Bool := c == ' ' || c == '\t' || c == '\n' || c == '\r'

/-- What follows blanks. -/
def skipGap (s : List Char) : List Char := s.dropWhile isGap

/-- What follows blanks, of which there is at least one. -/
def skipSomeGap? : List Char → Option (List Char)
  | c :: r => if isGap c then some (skipGap r) else none
  | [] => none

/-- A name without a colon, and what follows it. -/
def name? : List Char → Option (List Char × List Char)
  | c :: r =>
    if isNameStart c then some (c :: r.takeWhile isNameChar, r.dropWhile isNameChar) else none
  | [] => none

/-- A name with at most one colon, and what follows it. -/
def qualifiedName? (s : List Char) : Option (List Char × List Char) :=
  match name? s with
  | some (first, ':' :: r) => (name? r).map fun (second, r) => (first ++ ':' :: second, r)
  | other => other

/-- What follows a comment. Two hyphens stand at its end only. -/
def commentRest? : List Char → Option (List Char)
  | [] => none
  | '-' :: '-' :: r =>
    match r with
    | '>' :: r => some r
    | _ => none
  | c :: r => if c = broken then none else commentRest? r

/-- What follows the end of a processing instruction. -/
def instructionEnd? : List Char → Option (List Char)
  | [] => none
  | '?' :: '>' :: r => some r
  | c :: r => if c = broken then none else instructionEnd? r

/-- What follows a processing instruction. Its name is not that of the declaration
of a document. -/
def instructionRest? (s : List Char) : Option (List Char) :=
  match name? s with
  | none => none
  | some (target, r) =>
    if target.map Char.toLower = ['x', 'm', 'l'] then none
    else
      match r with
      | '?' :: '>' :: r => some r
      | '?' :: _ => none
      | c :: r => if isGap c then instructionEnd? r else none
      | [] => none

/-- The value of a digit of a base. -/
def digitValue? (base : Nat) (c : Char) : Option Nat :=
  let n :=
    if c.isDigit then c.toNat - '0'.toNat
    else if 'a' ≤ c && c ≤ 'f' then c.toNat - 'a'.toNat + 10
    else if 'A' ≤ c && c ≤ 'F' then c.toNat - 'A'.toNat + 10
    else base
  if n < base then some n else none

/-- What a reference stands for. -/
inductive Referent where
  | char (c : Char)
  | unknown
  deriving DecidableEq

/-- The characters that have a name in every document. -/
def namedChar? (name : List Char) : Option Char :=
  match String.ofList name with
  | "lt" => some '<'
  | "gt" => some '>'
  | "amp" => some '&'
  | "quot" => some '"'
  | "apos" => some '\''
  | _ => none

/-- A reference by code, read in a base. -/
def coded? (base : Nat) (s : List Char) : Option (Referent × List Char) :=
  let digits := s.takeWhile fun c => (digitValue? base c).isSome
  match digits, s.drop digits.length with
  | _ :: _, ';' :: r =>
    let code := (digits.filterMap (digitValue? base)).foldl (fun n d => base * n + d) 0
    if isLegalCode code then some (.char (Char.ofNat code), r) else none
  | _, _ => none

/-- A reference, and what follows it. -/
def reference? : List Char → Option (Referent × List Char)
  | '#' :: 'x' :: r => coded? 16 r
  | '#' :: r => coded? 10 r
  | s =>
    match name? s with
    | some (name, ';' :: r) =>
      match namedChar? name with
      | some c => some (.char c, r)
      | none => some (.unknown, r)
    | _ => none

/-- An attribute value with its references replaced and its blanks as spaces. A
reference to something unknown is left out if `lenient`. `fuel` bounds the number of
steps by the length of the value. -/
def valueChars? (lenient : Bool) : Nat → List Char → Option (List Char)
  | _, [] => some []
  | 0, _ => none
  | fuel + 1, '&' :: r =>
    match reference? r with
    | some (.char c, r) => (valueChars? lenient fuel r).map (c :: ·)
    | some (.unknown, r) => if lenient then valueChars? lenient fuel r else none
    | none => none
  | fuel + 1, '\r' :: '\n' :: r => (valueChars? lenient fuel r).map (' ' :: ·)
  | fuel + 1, c :: r =>
    if c = '<' || c = broken then none
    else (valueChars? lenient fuel r).map ((if isGap c then ' ' else c) :: ·)

/-- A text without spaces at its ends and with single spaces inside. -/
def collapseSpaces (s : List Char) : List Char :=
  let rec go (gap : Bool) : List Char → List Char
    | [] => []
    | c :: r => if c = ' ' then go true r else (if gap then [' ', c] else [c]) ++ go false r
  go false (s.dropWhile (· == ' '))

/-- An attribute value; `isText` tells whether its blanks count. -/
def attributeValue? (lenient isText : Bool) (raw : List Char) : Option (List Char) :=
  (valueChars? lenient raw.length raw).map fun s => if isText then s else collapseSpaces s

end QuestionBank.Document
