/-!
# Escapes in embedded-answer markup

The signs that separate answers, feedback and blocks are written with a
backslash in front when they belong to a text. A backslash makes the next
character literal, except that it has no power over a line end.
-/

namespace QuestionBank.Cloze

/-- The signs that need a backslash. -/
def isSpecial (c : Char) : Bool := c == '\\' || c == '~' || c == '#' || c == '}'

/-- A text with a backslash before every special sign. -/
def escape (s : List Char) : List Char :=
  s.flatMap fun c => if isSpecial c then ['\\', c] else [c]

/-- A text without the backslashes that make the next character literal. -/
def unescape : List Char → List Char
  | [] => []
  | ['\\'] => ['\\']
  | '\\' :: c :: r => if c = '\n' then '\\' :: c :: unescape r else c :: unescape r
  | c :: r => c :: unescape r

/-- Cuts a text at every delimiter that no backslash makes literal. `part` is the
part being read, in reverse order, and `literal` tells whether the next character
follows such a backslash. -/
def splitFrom (isDelimiter : Char → Bool) (part : List Char) (literal : Bool) :
    List Char → List (List Char)
  | [] => [part.reverse]
  | c :: r =>
    if literal then splitFrom isDelimiter (c :: part) false r
    else if c = '\\' then splitFrom isDelimiter (c :: part) true r
    else if isDelimiter c then part.reverse :: splitFrom isDelimiter [] false r
    else splitFrom isDelimiter (c :: part) false r

/-- The parts of a text between its delimiters. -/
def splitUnescaped (isDelimiter : Char → Bool) (s : List Char) : List (List Char) :=
  splitFrom isDelimiter [] false s

/-- The test for a delimiter given as a text: only a single character is one. -/
def isDelimiterOf (delimiter : String) (c : Char) : Bool := delimiter == String.singleton c

end QuestionBank.Cloze
