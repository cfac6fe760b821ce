import QuestionBank.Cloze.Basic
import QuestionBank.Cloze.Escape
import QuestionBank.Scoring.Matches

/-!
# Embedded-answer markup

A block has a weight, a kind and options between braces. Every option begins with
a tilde, a correct one also with an equals sign, and feedback follows a number
sign. The correct matches of a stem come first, then its other matches, then the
distractors.
-/

namespace QuestionBank.Cloze

open QuestionBank.Scoring QuestionBank.Text

/-- An option text as it stands in a block. A sign that would be read as a mark of
correctness gets a backslash. -/
def optionBody (text : List Char) : List Char :=
  match escape text with
  | '=' :: r => '\\' :: '=' :: r
  | '%' :: r => '\\' :: '%' :: r
  | s => s

/-- The feedback of an option; empty feedback is left out. -/
def feedbackPart (feedback : List Char) : List Char :=
  if feedback.isEmpty then [] else '#' :: escape feedback

/-- One option of a block. -/
def formatOption (text : String) (correct : Bool) (feedback : String) : List Char :=
  '~' :: ((if correct then ['='] else []) ++ optionBody text.toList ++
    feedbackPart feedback.toList)

/-- A numeric answer with its tolerance, zero if it has none. -/
def numericText (text : String) : String :=
  if text.toList.contains ':' then text else text ++ ":0"

/-- The kind of a block: short answers mind letter case as soon as one correct
match does. -/
def resolveKind (kind : Kind) (found : List Match) : Kind :=
  if kind = .shortAnswer && found.any fun m => m.isCorrect && m.caseSensitive then
    .shortAnswerCase
  else kind

/-- The option of a match. -/
def matchOption (kind : Kind) (m : Match) : List Char :=
  formatOption (if kind.isNumeric then numericText m.answer else m.answer) m.isCorrect m.feedback

/-- The matches in the order of their options. -/
def orderedMatches (found : List Match) : List Match :=
  found.filter Match.isCorrect ++ found.filter fun m => !m.isCorrect

/-- The weight of a block: the sum of what its correct matches score. -/
def blockWeight (found : List Match) : Int :=
  (found.filter Match.isCorrect).foldl (fun total m => total + m.score) 0

/-- The options of a block. A numeric one has no distractors. -/
def blockOptions (kind : Kind) (found : List Match) (residual : List String)
    (residualFeedback : String) : List Char :=
  (orderedMatches found).flatMap (matchOption kind) ++
    if kind.isNumeric then [] else residual.flatMap fun s => formatOption s false residualFeedback

/-- The weight of a block as it is written. -/
def weightText (weight : Int) : Except Breach (List Char) :=
  let digits := (Number.showInt weight).toList
  if digits.length > Number.digitLimit then .error .integerTooLong else .ok digits

/-- The block of a stem. A stem without a correct match has none. -/
def encodeBlock (kind : Kind) (found : List Match) (residual : List String)
    (residualFeedback : String) : Except Obstacle String :=
  if found.any Match.isCorrect then
    let kind := resolveKind kind found
    match weightText (blockWeight found) with
    | .error breach => .error (.broken breach)
    | .ok weight =>
      .ok (String.ofList ('\x7b' :: (weight ++ ':' :: (kind.tag.toList ++ ':' ::
        (blockOptions kind found residual residualFeedback ++ ['\x7d'])))))
  else .error (.failed ⟨.noCredit (.blank ((found.head?.map Match.stem).getD "?")), none⟩)

/-- A text with its first run of at least two underscores replaced. -/
def fillBlank? (block : List Char) : List Char → Option (List Char)
  | [] => none
  | '_' :: '_' :: r => some (block ++ r.dropWhile (· == '_'))
  | c :: r => (fillBlank? block r).map (c :: ·)

/-- A stem text with its block: in the place of the first blank, or at the end. -/
def placeBlock (text block : String) : String :=
  match fillBlank? block.toList text.toList with
  | some s => String.ofList s
  | none => if allBlank text then block else trimEnd text ++ " " ++ block

/-- A stem text with the block of its matches. -/
def encodeStem (text : String) (kind : Kind) (found : List Match) (residual : List String)
    (residualFeedback : String) : Except Obstacle String :=
  (encodeBlock kind found residual residualFeedback).map (placeBlock text)

end QuestionBank.Cloze
