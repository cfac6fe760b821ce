/-!
# Lines

A line ends with a line feed, a carriage return, or both.
-/

namespace QuestionBank.Text

/-- A text with every line end as a line feed. -/
def withLineFeeds : List Char → List Char
  | [] => []
  | '\r' :: '\n' :: r => '\n' :: withLineFeeds r
  | '\r' :: r => '\n' :: withLineFeeds r
  | c :: r => c :: withLineFeeds r

/-- The lines of a text whose line ends are line feeds. `line` is the line being read, in
reverse order. -/
def linesFrom (line : List Char) : List Char → List (List Char)
  | [] => if line.isEmpty then [] else [line.reverse]
  | c :: r => if c = '\n' then line.reverse :: linesFrom [] r else linesFrom (c :: line) r

/-- The lines of a text without their ends. -/
def lines (text : String) : List String :=
  (linesFrom [] (withLineFeeds text.toList)).map String.ofList

end QuestionBank.Text
