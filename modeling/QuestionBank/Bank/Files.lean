/-!
# Files

The files that a run sees are a value: texts by path.
-/

namespace QuestionBank

/-- Texts by path. -/
structure Files where
  entries : List (String × String) := []
  deriving DecidableEq, Inhabited

namespace Files

/-- The text of a file, if it exists. -/
def read? (files : Files) (path : String) : Option String := files.entries.lookup path

/-- Gives a path a text: in its old place, or at the end if the path is new. -/
def put (path text : String) : List (String × String) → List (String × String)
  | [] => [(path, text)]
  | (p, t) :: r => if p = path then (p, text) :: r else (p, t) :: put path text r

/-- Writes a file, in place of what it held. -/
def write (files : Files) (path text : String) : Files := ⟨put path text files.entries⟩

/-- Writes a text at the end of a file. -/
def append (files : Files) (path text : String) : Files :=
  files.write path ((files.read? path).getD "" ++ text)

end Files

end QuestionBank
