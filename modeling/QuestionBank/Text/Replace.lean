/-!
# Searching and replacing

Occurrences of a word are found from left to right and do not overlap.
-/

namespace QuestionBank.Text

/-- Tells whether a word occurs in a text. -/
def occursIn (word : List Char) : List Char → Bool
  | [] => word.isEmpty
  | c :: s => word.isPrefixOf (c :: s) || occursIn word s

/-- Replaces every occurrence of the word `c :: w`. The first argument counts
the characters of an occurrence that still have to be skipped. -/
def replaceFrom (c : Char) (w value : List Char) : Nat → List Char → List Char
  | _, [] => []
  | 0, d :: s =>
    if (c :: w).isPrefixOf (d :: s) then value ++ replaceFrom c w value w.length s
    else d :: replaceFrom c w value 0 s
  | n + 1, _ :: s => replaceFrom c w value n s

/-- Replaces every occurrence of a word by a value; the empty word has none. -/
def replace (word value s : List Char) : List Char :=
  match word with
  | [] => s
  | c :: w => replaceFrom c w value 0 s

end QuestionBank.Text
