import QuestionBank.Condition.Token
import QuestionBank.Number.Reader

/-!
# Why a question is not converted

A failure has a cause and, once it is known, the question it concerns. The
wording of a cause is in one place, `Cause.message`; a failure that comes from a
condition adds where the condition stood.
-/

namespace QuestionBank

open QuestionBank.Text

/-- Where credit was looked for and not found. -/
inductive CreditGap where
  | condition (text : String)
  | blank (stem : String)
  | stem (stem : String)
  | value (question : String)
  | answer (question : String)
  | pair (question : String)
  deriving DecidableEq

/-- The wording of a credit gap. -/
def CreditGap.message : CreditGap → String
  | condition text => "Condition " ++ quoted text ++ " marks no choice as correct"
  | blank name => "Stem " ++ quoted name ++ " has no correct answer to embed"
  | stem name => "Stem " ++ quoted name ++ " has no scoring answer"
  | value question => "No accepted value in " ++ quoted question
  | answer question => "No accepted answer in " ++ quoted question
  | pair question => "No stem of " ++ quoted question ++ " has a correct match"

/-- A part that a question lacks. -/
inductive MissingPart where
  | scoringOutcome
  | stemOutcome (stem : String)
  | blankOutcome (key question : String)
  | multichoiceChoice
  | selectionChoice
  | matchingChoice
  | node (notice : String)
  deriving DecidableEq

/-- The wording of a missing part. -/
def MissingPart.message : MissingPart → String
  | scoringOutcome => "Question has no scoring OUTCOME"
  | stemOutcome stem => "No outcome addresses stem " ++ quoted stem
  | blankOutcome key question =>
    "No outcome addresses blank " ++ quoted key ++ " of " ++ quoted question
  | multichoiceChoice => "Multichoice question has no CHOICE"
  | selectionChoice => "Selection question has no CHOICE"
  | matchingChoice => "Matching question has no CHOICE"
  | node notice => notice

/-- What is wrong with embedded-answer markup. -/
inductive MarkupFault where
  | malformedBlock (pos : Nat) (excerpt : String)
  | unknownKind (kind : String)
  | noAnswers (block : String)
  | numericAnswer (text : String)
  deriving DecidableEq

/-- The wording of a markup fault. -/
def MarkupFault.message : MarkupFault → String
  | malformedBlock pos excerpt =>
    "Malformed embedded block at position " ++ Number.showInt pos ++ ": " ++ quoted excerpt
  | unknownKind kind => "Unknown embedded kind " ++ quoted kind
  | noAnswers block => "Embedded block " ++ quoted block ++ " has no answers"
  | numericAnswer text => "Invalid numeric answer " ++ quoted text

/-- Why a question is not converted. The fault of a condition comes with the text
of the condition and, when it is known, the outcome it belongs to. -/
inductive Cause where
  | condition (fault : Condition.Fault) (text : String) (outcome : Option String)
  | noCredit (gap : CreditGap)
  | missing (part : MissingPart)
  | unsupported (tag : String)
  | markup (fault : MarkupFault)
  deriving DecidableEq

/-- A cause and the question it concerns. -/
structure Failure where
  cause : Cause
  question : Option String := none
  deriving DecidableEq

namespace Failure

/-- The failure with its question named, unless it was before. -/
def withQuestion (id : String) (f : Failure) : Failure :=
  { f with question := some (f.question.getD id) }

/-- The wording of a failure. -/
def message (f : Failure) : String :=
  match f.cause with
  | .condition fault text outcome =>
    let context :=
      (f.question.map fun id => "question=" ++ quoted id).toList ++
      (outcome.map fun id => "outcome=" ++ quoted id).toList ++
      (if text.isEmpty then [] else ["condition=" ++ quoted text])
    if context.isEmpty then fault.message
    else fault.message ++ " (" ++ ", ".intercalate context ++ ")"
  | .noCredit gap => gap.message
  | .missing part => part.message
  | .unsupported tag => "Unsupported question type: " ++ quoted tag
  | .markup fault => fault.message

/-- The text of the condition that a failure comes from, empty for others. -/
def condition (f : Failure) : String :=
  match f.cause with
  | .condition _ text _ => text
  | _ => ""

end Failure

/-- What ends a whole run and not one question only: a value that has no
representation, or a declaration that no reader of markup understands. -/
inductive Breach where
  | infiniteScore
  | quotientTooLarge
  | factorTooLarge
  | numeralTooLong (digits : Nat)
  | integerTooLong
  | markupDeclaration
  deriving DecidableEq

/-- The wording of a breach. -/
def Breach.message : Breach → String
  | infiniteScore => Binary64.RoundError.infinite.message
  | quotientTooLarge => "integer division result too large for a float"
  | factorTooLarge => "int too large to convert to float"
  | numeralTooLong digits => Number.numeralTooLong digits
  | integerTooLong => Number.integerTooLong
  | markupDeclaration => "unknown markup declaration"

/-- What keeps a result from being computed. -/
inductive Obstacle where
  | failed (f : Failure)
  | broken (b : Breach)
  deriving DecidableEq

end QuestionBank
