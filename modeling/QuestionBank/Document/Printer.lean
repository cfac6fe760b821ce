import QuestionBank.Document.Namespace
import QuestionBank.Document.Node
import QuestionBank.Number.Shortest

/-!
# Nodes written as markup

`Node.markup` writes what stands inside a node. Each child is written on its own:
it declares every namespace that it or a node inside it uses, under a customary
short name or else under a numbered one.
-/

namespace QuestionBank.Document

/-- Splits a name into its namespace, if it has one, and the name in it. -/
def splitName (name : String) : Option String × String :=
  match name.toList with
  | '\x7b' :: r =>
    let inner := (r.reverse.takeWhile (· != '\x7d')).reverse
    (some (String.ofList (r.take (r.length - inner.length - 1))), String.ofList inner)
  | _ => (none, name)

/-- Gives the namespace of a name a short name. The short name `xml` stands for its
namespace without a declaration. -/
def declareName (declared : List (String × String)) (name : String) : List (String × String) :=
  match (splitName name).1 with
  | none => declared
  | some uri =>
    if (declared.lookup uri).isSome then declared
    else
      let short := (customaryNames.lookup uri).getD ("ns" ++ Number.showInt declared.length)
      if short = "xml" then declared else declared ++ [(uri, short)]

mutual

/-- Gives short names to the namespaces that a node and the nodes inside it use. -/
def declareNode (declared : List (String × String)) : Node → List (String × String)
  | ⟨name, attributes, _, children, _⟩ =>
    declareNodes ((name :: attributes.map Prod.fst).foldl declareName declared) children

/-- Gives short names to the namespaces that nodes use. -/
def declareNodes (declared : List (String × String)) : List Node → List (String × String)
  | [] => declared
  | c :: r => declareNodes (declareNode declared c) r

end

/-- A name with the short name of its namespace. -/
def shortName (declared : List (String × String)) (name : String) : List Char :=
  match splitName name with
  | (none, inner) => inner.toList
  | (some uri, inner) => ((declared.lookup uri).getD "xml").toList ++ ':' :: inner.toList

/-- A character of a text as markup. -/
def textChar (c : Char) : List Char :=
  if c = '&' then "&amp;".toList
  else if c = '<' then "&lt;".toList
  else if c = '>' then "&gt;".toList
  else [c]

/-- A character of an attribute value as markup. -/
def valueChar (c : Char) : List Char :=
  if c = '"' then "&quot;".toList
  else if c = '\r' then "&#13;".toList
  else if c = '\n' then "&#10;".toList
  else if c = '\t' then "&#09;".toList
  else textChar c

/-- An attribute of a tag. -/
def attributeMarkup (name : List Char) (value : String) : List Char :=
  ' ' :: (name ++ '=' :: '"' :: (value.toList.flatMap valueChar ++ ['"']))

/-- The declarations of namespaces, by short name. -/
def declarations (declared : List (String × String)) : List Char :=
  (declared.mergeSort fun a b => decide (a.2 ≤ b.2)).flatMap fun (uri, short) =>
    attributeMarkup ("xmlns:".toList ++ short.toList) uri

mutual

/-- A node and the text after it as markup; `opening` stands behind its name. -/
def nodeMarkup (declared : List (String × String)) (opening : List Char) : Node → List Char
  | ⟨name, attributes, text, children, tail⟩ =>
    let tag := shortName declared name
    let inner :=
      text.toList.flatMap textChar ++ innerMarkup declared children
    '<' :: (tag ++ opening ++
      attributes.flatMap (fun (n, v) => attributeMarkup (shortName declared n) v) ++
      (if inner.isEmpty then " />".toList else '>' :: (inner ++ "</".toList ++ tag ++ ['>'])) ++
      tail.toList.flatMap textChar)

/-- Nodes and the texts after them as markup. -/
def innerMarkup (declared : List (String × String)) : List Node → List Char
  | [] => []
  | c :: r => nodeMarkup declared [] c ++ innerMarkup declared r

end

/-- What stands inside a node: its text as it is and its children as markup. -/
def Node.markup (n : Node) : String :=
  n.text ++ String.ofList (n.children.flatMap fun c =>
    let declared := declareNode [] c
    nodeMarkup declared (declarations declared) c)

end QuestionBank.Document
