/-!
# Paths

A path is a list of parts between slashes. Empty parts and single points say nothing.
-/

namespace QuestionBank.Command

/-- The parts of a path. `part` is the part being read, in reverse order. -/
def partsFrom (part : List Char) : List Char → List (List Char)
  | [] => [part.reverse]
  | c :: r => if c = '/' then part.reverse :: partsFrom [] r else partsFrom (c :: part) r

/-- The parts of a path that say something. -/
def pathParts (path : String) : List String :=
  ((partsFrom [] path.toList).map String.ofList).filter fun p => !p.isEmpty && p != "."

/-- The slashes that an absolute path begins with: one, unless there are exactly two. -/
def rootOf (path : String) : String :=
  match path.toList.takeWhile (· == '/') with
  | [] => ""
  | [_, _] => "//"
  | _ => "/"

/-- The path with a beginning and parts; no parts at all stand for the current directory. -/
def ofParts (root : String) (parts : List String) : String :=
  let s := root ++ "/".intercalate parts
  if s.isEmpty then "." else s

/-- A path without the parts that say nothing. -/
def plainPath (path : String) : String := ofParts (rootOf path) (pathParts path)

/-- The path of the directory that a path is in. -/
def parentPath (path : String) : String := ofParts (rootOf path) (pathParts path).dropLast

/-- The last part of a path. -/
def fileName (path : String) : String := ((pathParts path).getLast?).getD ""

end QuestionBank.Command
