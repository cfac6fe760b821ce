import QuestionBank.Condition.Basic
import QuestionBank.Text.Blank
import QuestionBank.Text.Digit
import QuestionBank.Text.Quoted
import QuestionBank.Number.Plain
import QuestionBank.Number.Shortest

/-!
# Tokens of a condition

A condition is written in literals, operators and keywords with blanks between
them. A literal stands between double quotes or is a plain number; words may be
in any letter case. `tokenize` gives every token its place in the text.
-/

namespace QuestionBank.Condition

open QuestionBank.Text

/-- The words that join comparisons and qualify them. -/
inductive Keyword where
  | or
  | and
  | not
  | nocase
  deriving DecidableEq

/-- The written form of a keyword. -/
def Keyword.text : Keyword → String
  | or => "OR"
  | and => "AND"
  | not => "NOT"
  | nocase => "NOCASE"

/-- What a token is. -/
inductive Lexeme where
  | literal (text : String)
  | operator (op : Operator)
  | keyword (word : Keyword)
  deriving DecidableEq

/-- The class of a lexeme. -/
def Lexeme.kind : Lexeme → String
  | literal _ => "literal"
  | operator _ => "operator"
  | keyword _ => "keyword"

/-- The value of a lexeme: a literal without its quotes, a word in capitals. -/
def Lexeme.text : Lexeme → String
  | literal s => s
  | operator op => op.text
  | keyword w => w.text

/-- A lexeme and the place of its first character. -/
structure Token where
  lexeme : Lexeme
  pos : Nat
  deriving DecidableEq

/-- Why a text is no condition, or a condition no numeric answer. A place is
counted in characters; no place means the end of the text. -/
inductive Fault where
  | unexpectedWord (word : String) (pos : Nat)
  | unexpectedCharacter (c : Char) (pos : Nat)
  | empty
  | expectedLiteral (pos : Option Nat)
  | danglingOr
  | danglingAnd
  | unexpectedToken (text : String) (pos : Nat)
  | operandNotNumeric (operand : String)
  | openRange
  deriving DecidableEq

/-- The words for a place. -/
def placeText : Option Nat → String
  | some pos => " at position " ++ Number.showInt pos
  | none => " at end of condition"

/-- The wording of a fault. -/
def Fault.message : Fault → String
  | unexpectedWord word pos => "Unexpected word " ++ quoted word ++ placeText (some pos)
  | unexpectedCharacter c pos =>
    "Unexpected character " ++ quoted (String.singleton c) ++ placeText (some pos)
  | empty => "Empty condition"
  | expectedLiteral pos => "Expected a quoted literal" ++ placeText pos
  | danglingOr => "Dangling OR" ++ placeText none
  | danglingAnd => "Dangling AND" ++ placeText none
  | unexpectedToken text pos => "Unexpected " ++ quoted text ++ placeText (some pos)
  | operandNotNumeric operand => "Numeric answer expected, got " ++ quoted operand
  | openRange => "Numeric range needs both a lower and an upper bound"

/-- The characters of words. -/
def isWordChar (c : Char) : Bool := c.isAlpha || c == '_'

/-- The keyword or operator that a word in capitals stands for. -/
def wordLexeme? (word : String) : Option Lexeme :=
  if word = "OR" then some (.keyword .or)
  else if word = "AND" then some (.keyword .and)
  else if word = "NOT" then some (.keyword .not)
  else if word = "NOCASE" then some (.keyword .nocase)
  else if word = "MATCHES" then some (.operator .matching)
  else if word = "NEAR" then some (.operator .near)
  else none

/-- The lexeme that begins with the character `c`, which is not blank, and goes on
with `r`; with it the number of characters of `r` that belong to it. -/
def lexeme (pos : Nat) (c : Char) (r : List Char) : Except Fault (Lexeme × Nat) :=
  let body := r.takeWhile (· != '"')
  if c = '"' && r.contains '"' then
    .ok (.literal (String.ofList body), body.length + 1)
  else
    match Number.plainNumber? (c :: r) with
    | some number => .ok (.literal (String.ofList number), number.length - 1)
    | none =>
      if c = '>' then
        if r.head? = some '=' then .ok (.operator .atLeast, 1) else .ok (.operator .above, 0)
      else if c = '<' then
        if r.head? = some '=' then .ok (.operator .atMost, 1) else .ok (.operator .below, 0)
      else if c = '=' then .ok (.operator .equal, 0)
      else if isWordChar c then
        let word := c :: r.takeWhile isWordChar
        match wordLexeme? (String.ofList (word.map Char.toUpper)) with
        | some l => .ok (l, word.length - 1)
        | none => .error (.unexpectedWord (String.ofList word) pos)
      else .error (.unexpectedCharacter c pos)

/-- The tokens of a text whose first character has the place `pos`. -/
def tokensFrom (pos : Nat) : List Char → Except Fault (List Token)
  | [] => .ok []
  | c :: r =>
    if isBlank c then tokensFrom (pos + 1) r
    else
      match lexeme pos c r with
      | .error e => .error e
      | .ok (l, n) => (tokensFrom (pos + 1 + n) (r.drop n)).map (⟨l, pos⟩ :: ·)
termination_by s => s.length
decreasing_by
  · simp
  · simp only [List.length_drop, List.length_cons]; omega

theorem tokensFrom_nil (pos : Nat) : tokensFrom pos [] = .ok [] := by
  unfold tokensFrom
  rfl

theorem tokensFrom_blank {c : Char} (h : isBlank c = true) (pos : Nat) (r : List Char) :
    tokensFrom pos (c :: r) = tokensFrom (pos + 1) r := by
  rw [tokensFrom.eq_def]
  exact if_pos h

theorem tokensFrom_error {pos : Nat} {c : Char} {r : List Char} {e : Fault}
    (hblank : ¬ isBlank c = true) (h : lexeme pos c r = .error e) :
    tokensFrom pos (c :: r) = .error e := by
  rw [tokensFrom.eq_def]
  dsimp only
  rw [if_neg hblank, h]

theorem tokensFrom_cons {pos : Nat} {c : Char} {r : List Char} {l : Lexeme} {n : Nat}
    (hblank : ¬ isBlank c = true) (h : lexeme pos c r = .ok (l, n)) :
    tokensFrom pos (c :: r) = (tokensFrom (pos + 1 + n) (r.drop n)).map (⟨l, pos⟩ :: ·) := by
  rw [tokensFrom.eq_def]
  dsimp only
  rw [if_neg hblank, h]

/-- The tokens of a condition. -/
def tokenize (text : String) : Except Fault (List Token) := tokensFrom 0 text.toList

end QuestionBank.Condition
