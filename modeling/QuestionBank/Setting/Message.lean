/-!
# Messages

The texts that a user sees, in English. A message has slots, which are filled by
name; a message that lacks a value for a slot is shown with its slots.
-/

namespace QuestionBank

/-- A part of a message. -/
inductive MessagePart where
  | words (s : String)
  | slot (name : String)

/-- A message. -/
inductive Message where
  | pluginName
  | pluginHelp
  | contentTypeNotSet
  | unknownQuestionType
  | severalBlanksHint
  | correct
  | incorrect
  | partlyCorrect
  | questionFailed
  | missingNode
  | documentInvalid
  | importSummary
  deriving DecidableEq

namespace Message

open MessagePart

/-- The key of a message. -/
def key : Message → String
  | pluginName => "pluginname"
  | pluginHelp => "pluginname_help"
  | contentTypeNotSet => "contenttypenotset"
  | unknownQuestionType => "unknownquestiontype"
  | severalBlanksHint => "blankmultiquestionhint"
  | correct => "correct"
  | incorrect => "incorrect"
  | partlyCorrect => "partiallycorrect"
  | questionFailed => "questionfailed"
  | missingNode => "missingnode"
  | documentInvalid => "documentinvalid"
  | importSummary => "importsummary"

/-- All messages. -/
def all : List Message :=
  [pluginName, pluginHelp, contentTypeNotSet, unknownQuestionType, severalBlanksHint, correct,
    incorrect, partlyCorrect, questionFailed, missingNode, documentInvalid, importSummary]

/-- The message with a key. -/
def ofKey? (s : String) : Option Message := all.find? fun m => m.key = s

/-- The parts of a message. -/
def parts : Message → List MessagePart
  | pluginName => [words "Questionmark QML format"]
  | pluginHelp =>
    [words ("Imports supported Questionmark QML questions and converts them into the question "
      ++ "bank equivalent.")]
  | contentTypeNotSet =>
    [words "Notice: no content type set in question header for ", slot "a",
     words ". Defaulting to HTML"]
  | unknownQuestionType =>
    [words "Question type ", slot "a", words " is not supported by QML import"]
  | severalBlanksHint =>
    [words " (Separate each blank's answer with a comma, e.g. answer1,answer2)"]
  | correct => [words "Correct"]
  | incorrect => [words "Incorrect"]
  | partlyCorrect => [words "Partly Correct"]
  | questionFailed => [words "Question ", slot "a", words " could not be imported: ", slot "b"]
  | missingNode =>
    [words "Question ", slot "a", words " is missing a required ", slot "b", words " node"]
  | documentInvalid => [words "The QML document could not be read: ", slot "a"]
  | importSummary =>
    [words "Imported ", slot "a", words " question(s), skipped ", slot "b", words ", failed ",
     slot "c"]

/-- A part with its slot filled, if there is a value for it. -/
def fill? (values : List (String × String)) : MessagePart → Option String
  | words s => some s
  | slot name => values.lookup name

/-- A part with its slot left open. -/
def opened : MessagePart → String
  | words s => s
  | slot name => "\x7b" ++ name ++ "\x7d"

/-- The text of a message. -/
def text (m : Message) (values : List (String × String)) : String :=
  match m.parts.mapM (fill? values) with
  | some filled => String.join filled
  | none => String.join (m.parts.map opened)

/-- The text of the message with a key. A key without a message is shown in brackets. -/
def textOf (key : String) (values : List (String × String)) : String :=
  match ofKey? key with
  | some m => m.text values
  | none => "[[" ++ key ++ "]]"

/-- The language of the messages. -/
def language : String := "en"

end Message

end QuestionBank
