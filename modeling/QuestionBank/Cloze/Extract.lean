import QuestionBank.Cloze.Basic
import QuestionBank.Cloze.Escape
import QuestionBank.Failure
import QuestionBank.Number.Plain

/-!
# Embedded questions read from markup

A block begins with a brace, digits and a colon. Its kind is written in capitals
and underscores, and its options end with the first closing brace that no
backslash makes literal. Each block is decoded, and a numbered place takes its
place in the text.
-/

namespace QuestionBank.Cloze

open QuestionBank.Text

/-- The mark of correctness at the beginning of an option: an equals sign, or a
percentage between percent signs, which is correct when it is above zero. -/
def correctness (raw : List Char) : Bool × List Char :=
  match raw with
  | '=' :: r => (true, r)
  | '%' :: r =>
    match Number.plainNumber? r with
    | some number =>
      match r.drop number.length with
      | '%' :: rest =>
        (((Number.readBinary64? (String.ofList number)).map Binary64.isPositive).getD false, rest)
      | _ => (false, raw)
    | none => (false, raw)
  | _ => (false, raw)

/-- A numeric answer: a number, and a tolerance after a colon. -/
def numericParts? (text : List Char) : Option (List Char × Binary64) :=
  let number := text.takeWhile (· != ':')
  let tolerance := text.drop (number.length + 1)
  match Number.readBinary64? (String.ofList number) with
  | none => none
  | some _ =>
    if tolerance.isEmpty then some (number, .zero false)
    else (Number.readBinary64? (String.ofList tolerance)).map fun x => (number, x)

/-- Decodes an option without its tilde. -/
def decodeAnswer (kind : Kind) (raw : List Char) : Except MarkupFault Answer :=
  let (correct, raw) := correctness raw
  let parts := splitUnescaped (· == '#') raw
  let text := parts.headD []
  let feedback := String.ofList (unescape (['#'].intercalate parts.tail))
  if kind.isNumeric then
    match numericParts? text with
    | some (number, tolerance) =>
      .ok ⟨String.ofList (unescape number), correct, feedback, some tolerance⟩
    | none => .error (.numericAnswer (String.ofList text))
  else .ok ⟨String.ofList (unescape text), correct, feedback, none⟩

/-- The parts of a block as they are written. -/
structure RawBlock where
  weight : List Char
  kind : List Char
  body : List Char

/-- The whole text of a block. -/
def RawBlock.text (b : RawBlock) : List Char :=
  '\x7b' :: (b.weight ++ ':' :: (b.kind ++ ':' :: (b.body ++ ['\x7d'])))

/-- The weight of a block that a text begins with. -/
def blockStart? : List Char → Option (List Char)
  | '\x7b' :: r =>
    let digits := r.takeWhile isDecimal
    if !digits.isEmpty && (r.drop digits.length).head? = some ':' then some digits else none
  | _ => none

/-- The options of a block, up to its closing brace. -/
def blockBody? : List Char → Option (List Char)
  | [] => none
  | '\x7d' :: _ => some []
  | '\\' :: c :: r => if c = '\n' then none else (blockBody? r).map fun body => '\\' :: c :: body
  | ['\\'] => none
  | c :: r => (blockBody? r).map (c :: ·)

/-- The characters of kind tags. -/
def isTagChar (c : Char) : Bool := c.isUpper || c == '_'

/-- The block that a text begins with, its weight known. -/
def rawBlock? (weight s : List Char) : Option RawBlock :=
  let afterWeight := s.drop (weight.length + 2)
  let kind := afterWeight.takeWhile isTagChar
  if kind.isEmpty then none
  else
    match afterWeight.drop kind.length with
    | ':' :: r => (blockBody? r).map fun body => ⟨weight, kind, body⟩
    | _ => none

/-- The options of a block; the empty text before the first tilde is none. -/
def rawAnswers (body : List Char) : List (List Char) :=
  match splitUnescaped (· == '~') body with
  | [] :: r => r
  | parts => parts

/-- The number that the digits of a weight stand for. -/
def weightOf (digits : List Char) : Except Breach Nat :=
  if digits.length > Number.digitLimit then .error (.numeralTooLong digits.length)
  else .ok (Number.ofDigits (digits.filterMap decimalValue?))

/-- A markup fault as an obstacle. -/
def blocked (fault : MarkupFault) : Obstacle := .failed ⟨.markup fault, none⟩

/-- Decodes a block. -/
def decodeBlock (position : Nat) (b : RawBlock) : Except Obstacle Subquestion :=
  match Kind.ofTag? (String.ofList b.kind) with
  | none => .error (blocked (.unknownKind (String.ofList b.kind)))
  | some kind =>
    match rawAnswers b.body with
    | [] => .error (blocked (.noAnswers (String.ofList b.text)))
    | raws =>
      match raws.mapM (decodeAnswer kind) with
      | .error fault => .error (blocked fault)
      | .ok answers =>
        match weightOf b.weight with
        | .error breach => .error (.broken breach)
        | .ok weight => .ok ⟨position, kind, weight, answers⟩

/-- The numbered place that stands for a block. -/
def placeholder (position : Nat) : List Char :=
  '\x7b' :: '#' :: ((Number.showInt position).toList ++ ['\x7d'])

/-- Decodes the blocks of a text whose first character has the place `pos`;
`position` is the number of the next block. -/
def extractFrom (pos position : Nat) :
    List Char → Except Obstacle (List Char × List Subquestion)
  | [] => .ok ([], [])
  | c :: r =>
    match blockStart? (c :: r) with
    | none => (extractFrom (pos + 1) position r).map fun (text, subs) => (c :: text, subs)
    | some weight =>
      match rawBlock? weight (c :: r) with
      | none =>
        .error (blocked (.malformedBlock pos (String.ofList ((c :: r).take 40))))
      | some block =>
        match decodeBlock position block with
        | .error e => .error e
        | .ok sub =>
          let size := block.text.length - 1
          (extractFrom (pos + 1 + size) (position + 1) (r.drop size)).map fun (text, subs) =>
            (placeholder position ++ text, sub :: subs)
termination_by s => s.length
decreasing_by
  · simp
  · simp only [List.length_drop, List.length_cons]; omega

/-- Decodes a text with embedded-answer markup. -/
def extract (text : String) : Except Obstacle Embedded :=
  (extractFrom 0 1 text.toList).map fun (text, subs) => ⟨String.ofList text, subs⟩

end QuestionBank.Cloze
