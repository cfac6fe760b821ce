/-!
# Letter case in ASCII

Keywords and tags of the question format are ASCII. For them the lower case of
ASCII decides, and of the letters outside ASCII only those count whose upper
case is ASCII.
-/

namespace QuestionBank.Text

/-- Lower case of the ASCII letters. A text equals one of the words this is
compared with just when its full lower case does, for no letter outside ASCII
has a letter of these words as its lower case. -/
def lowerAscii (s : String) : String := String.ofList (s.toList.map Char.toLower)

/-- Upper case of the ASCII letters. -/
def upperAscii (s : String) : String := String.ofList (s.toList.map Char.toUpper)

/-- The letters outside ASCII whose upper case is ASCII. -/
def asciiCapitals : List (Char × List Char) :=
  [('ß', ['S', 'S']), ('ı', ['I']), ('ſ', ['S']), ('ﬀ', ['F', 'F']), ('ﬁ', ['F', 'I']),
   ('ﬂ', ['F', 'L']), ('ﬃ', ['F', 'F', 'I']), ('ﬄ', ['F', 'F', 'L']), ('ﬅ', ['S', 'T']),
   ('ﬆ', ['S', 'T'])]

/-- Upper case of every letter whose capital is ASCII: what an ASCII tag is
compared with. -/
def upperTag (s : String) : String :=
  String.ofList (s.toList.flatMap fun c => (asciiCapitals.lookup c).getD [c.toUpper])

end QuestionBank.Text
