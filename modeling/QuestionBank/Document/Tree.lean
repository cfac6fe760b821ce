import QuestionBank.Document.Doctype
import QuestionBank.Document.Namespace
import QuestionBank.Document.Node
import QuestionBank.Document.Token

/-!
# Trees made of tokens

Tags open and close nodes. Names are resolved in the scope of the namespaces that
the open nodes declare, and attributes that a tag leaves out take the values that
the document type declaration gives them.
-/

namespace QuestionBank.Document

/-- The namespaces in scope, latest first. The default one has the empty short name. -/
abbrev Scope := List (String × String)

/-- The scope outside all nodes. -/
def outerScope : Scope := [("xml", xmlSpace)]

/-- The short name and the rest of a name, as it is written. -/
def splitColon (name : List Char) : String × String :=
  let first := name.takeWhile (· != ':')
  if first.length = name.length then ("", String.ofList name)
  else (String.ofList first, String.ofList (name.drop (first.length + 1)))

/-- The short name that an attribute declares, if it declares one. -/
def declaredName? (name : List Char) : Option String :=
  match splitColon name with
  | ("", "xmlns") => some ""
  | ("xmlns", short) => some short
  | _ => none

/-- Adds a declared namespace to a scope. -/
def addSpace? (scope : Scope) (short uri : String) : Option Scope :=
  if short = "xmlns" || uri = declarationSpace then none
  else if (short = "xml") != (uri = xmlSpace) then none
  else if uri.isEmpty && !short.isEmpty then none
  else if uri.toList.contains '\x7d' then none
  else some ((short, uri) :: scope)

/-- A name in a namespace. -/
def inSpace (uri name : String) : String := "\x7b" ++ uri ++ "\x7d" ++ name

/-- The name of a node in a scope. -/
def nodeName? (scope : Scope) (name : List Char) : Option String :=
  let (short, inner) := splitColon name
  match scope.lookup short with
  | some uri => some (if uri.isEmpty then inner else inSpace uri inner)
  | none => if short.isEmpty then some inner else none

/-- The name of an attribute in a scope. The default namespace has no attributes. -/
def attributeName? (scope : Scope) (name : List Char) : Option String :=
  let (short, inner) := splitColon name
  if short.isEmpty then some inner else (scope.lookup short).map fun uri => inSpace uri inner

/-- Tells whether a name occurs twice. -/
def hasRepeat {α : Type} [BEq α] : List α → Bool
  | [] => false
  | a :: r => r.contains a || hasRepeat r

/-- The attributes of a tag with their values, those that it leaves out at the end. -/
def allAttributes? (d : Doctype) (tag : List Char) (written : List (List Char × List Char)) :
    Option (List (List Char × String)) :=
  let rules := d.rules.filter fun rule => rule.element == tag
  let given := written.mapM fun (name, raw) =>
    let isText :=
      ((rules.find? fun rule : AttributeRule => rule.name == name).map
        AttributeRule.isText).getD true
    (attributeValue? d.lenient isText raw).map fun value => (name, String.ofList value)
  let missing : List AttributeRule :=
    rules.filter fun rule => !(written.map Prod.fst).contains rule.name
  given.map fun given =>
    given ++ missing.filterMap fun rule =>
      rule.value.map fun value => (rule.name, String.ofList value)

/-- An open node: its name as it is written, the scope inside it, and the node as far as it
is read, with the latest child first. -/
structure OpenNode where
  tag : List Char
  scope : Scope
  node : Node

/-- Opens a node. -/
def openNode? (d : Doctype) (scope : Scope) (tag : List Char)
    (written : List (List Char × List Char)) : Option OpenNode :=
  if hasRepeat (written.map Prod.fst) then none
  else
    (allAttributes? d tag written).bind fun attributes =>
      let inner := attributes.foldlM (fun scope (name, value) =>
        match declaredName? name with
        | some short => addSpace? scope short value
        | none => some scope) scope
      inner.bind fun inner =>
        let own := attributes.filter fun (name, _) => (declaredName? name).isNone
        let named := own.mapM fun (name, value) =>
          (attributeName? inner name).map fun name => (name, value)
        named.bind fun named =>
          if hasRepeat (named.map Prod.fst) then none
          else (nodeName? inner tag).map fun name =>
            ⟨tag, inner, { name, attributes := named }⟩

/-- Adds text inside an open node: after its latest child, or before any. -/
def OpenNode.addText (o : OpenNode) (s : List Char) : OpenNode :=
  let node := o.node
  match node.children with
  | [] => { o with node := { node with text := node.text ++ String.ofList s } }
  | c :: r =>
    { o with node := { node with children := { c with tail := c.tail ++ String.ofList s } :: r } }

/-- The node of an open node that ends. -/
def OpenNode.closed (o : OpenNode) : Node :=
  let node := o.node
  { node with children := node.children.reverse }

/-- Adds a child to an open node. -/
def OpenNode.addChild (o : OpenNode) (child : Node) : OpenNode :=
  let node := o.node
  { o with node := { node with children := child :: node.children } }

/-- Tells whether a token may follow the root. -/
def Token.isTrailing : Token → Bool
  | text s => s.all isGap
  | silent => true
  | _ => false

/-- Builds the tree of tokens inside open nodes, the innermost first. -/
def buildInside? (d : Doctype) (inner : OpenNode) (outer : List OpenNode) :
    List Token → Option Node
  | [] => none
  | t :: r =>
    let finish (child : Node) : Option Node :=
      match outer with
      | [] => if r.all Token.isTrailing then some child else none
      | o :: outer => buildInside? d (o.addChild child) outer r
    match t with
    | .openTag name attributes isEmpty =>
      match openNode? d inner.scope name attributes with
      | none => none
      | some o =>
        if isEmpty then buildInside? d (inner.addChild o.closed) outer r
        else buildInside? d o (inner :: outer) r
    | .closeTag name => if name = inner.tag then finish inner.closed else none
    | .text s => buildInside? d (inner.addText s) outer r
    | .section s => buildInside? d (inner.addText s) outer r
    | .reference c => buildInside? d (inner.addText [c]) outer r
    | .silent => buildInside? d inner outer r

/-- Builds the tree of tokens; the first one opens the root. -/
def build? (d : Doctype) : List Token → Option Node
  | .openTag name attributes isEmpty :: r =>
    (openNode? d outerScope name attributes).bind fun o =>
      if isEmpty then if r.all Token.isTrailing then some o.closed else none
      else buildInside? d o [] r
  | _ => none

end QuestionBank.Document
