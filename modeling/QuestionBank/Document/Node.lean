/-!
# Document trees

A document is a tree of named nodes. A node has attributes, the text before its
first child, its children, and the text that follows it inside its parent. A
name in a namespace is written with the namespace between braces in front.
-/

namespace QuestionBank.Document

/-- An element of a document. -/
structure Node where
  name : String
  attributes : List (String × String) := []
  text : String := ""
  children : List Node := []
  tail : String := ""
  deriving Inhabited

namespace Node

/-- The value of an attribute, empty when there is none. -/
def get (n : Node) (key : String) : String := (n.attributes.lookup key).getD ""

/-- The first child with a name. -/
def child? (n : Node) (name : String) : Option Node := n.children.find? fun c => c.name == name

/-- The children with a name, in order. -/
def childrenNamed (n : Node) (name : String) : List Node :=
  n.children.filter fun c => c.name == name

mutual

/-- All text inside a node. -/
def fullText : Node → String
  | ⟨_, _, text, children, _⟩ => text ++ childrenText children

/-- All text inside nodes and after each of them. -/
def childrenText : List Node → String
  | [] => ""
  | c :: r => c.fullText ++ c.tail ++ childrenText r

end

/-- All text inside the first child with a name, empty when there is none. -/
def childText (n : Node) (name : String) : String := ((n.child? name).map fullText).getD ""

mutual

/-- The names of a node and of all nodes inside it, parents first. -/
def names : Node → List String
  | ⟨name, _, _, children, _⟩ => name :: namesOfAll children

/-- The names of nodes and of all nodes inside them. -/
def namesOfAll : List Node → List String
  | [] => []
  | c :: r => c.names ++ namesOfAll r

end

end Node

end QuestionBank.Document
