/-!
# White space

Blank characters are the white space of Unicode together with the four
separators U+001C to U+001F. `strip` removes them at both ends, `words` cuts a
text at them, and `squeeze` keeps one space between words.
-/

namespace QuestionBank.Text

/-- Tells whether a character is white space. -/
def isBlank (c : Char) : Bool :=
  let n := c.toNat
  (9 ≤ n && n ≤ 13) || (0x1C ≤ n && n ≤ 0x20) || n == 0x85 || n == 0xA0 || n == 0x1680
    || (0x2000 ≤ n && n ≤ 0x200A) || n == 0x2028 || n == 0x2029 || n == 0x202F || n == 0x205F
    || n == 0x3000

/-- A text without its leading blanks. -/
def stripStart (s : List Char) : List Char := s.dropWhile isBlank

/-- A text without its trailing blanks. -/
def stripEnd (s : List Char) : List Char := (s.reverse.dropWhile isBlank).reverse

/-- A text without its blanks at both ends. -/
def strip (s : String) : String := String.ofList (stripEnd (stripStart s.toList))

/-- A text without its trailing blanks. -/
def trimEnd (s : String) : String := String.ofList (stripEnd s.toList)

/-- Tells whether a text holds nothing but blanks. -/
def allBlank (s : String) : Bool := s.toList.all isBlank

/-- The maximal runs of a text that hold no blank; `current` is the run being
read, in reverse order. -/
def wordsFrom (current : List Char) : List Char → List (List Char)
  | [] => if current.isEmpty then [] else [current.reverse]
  | c :: r =>
    if isBlank c then
      if current.isEmpty then wordsFrom [] r else current.reverse :: wordsFrom [] r
    else wordsFrom (c :: current) r

/-- The words of a text. -/
def words (s : String) : List String := (wordsFrom [] s.toList).map String.ofList

/-- The words of a text with one space between them. -/
def squeeze (s : String) : String := " ".intercalate (words s)

/-- The texts that are not blank, stripped, with one space between them. -/
def joinStripped (parts : List String) : String :=
  " ".intercalate ((parts.map strip).filter fun p => !p.isEmpty)

end QuestionBank.Text
