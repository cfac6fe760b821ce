import QuestionBank.Markup.Token
import QuestionBank.Text.Case

/-!
# Cleaning of free text

Free text enters a question in one of three profiles. Plain text has no markup:
references are replaced and runs of blanks become one space. Rich text keeps its
markup except what is active: scripts, frames, embedded objects, event handlers
and links that run a script. Raw text stays as it is.
-/

namespace QuestionBank.Markup

open QuestionBank.Text

/-- How a free text is cleaned. -/
inductive Profile where
  | plain
  | rich
  | raw
  deriving DecidableEq, Inhabited

namespace Profile

/-- The name of a profile. -/
def name : Profile → String
  | plain => "plain-text"
  | rich => "rich-html"
  | raw => "raw"

/-- The profile with a name. -/
def ofName? (s : String) : Option Profile := [plain, rich, raw].find? fun p => p.name = s

end Profile

/-- The elements that are dropped with their content. -/
def activeElements : List (List Char) :=
  ["script", "style", "iframe", "object", "embed", "frame", "frameset"].map String.toList

/-- The elements that have no end tag. -/
def voidElements : List (List Char) :=
  ["area", "base", "br", "col", "hr", "img", "input", "link", "meta", "param", "source",
    "wbr"].map String.toList

/-- The attributes that hold a link. -/
def linkAttributes : List (List Char) :=
  ["href", "src", "action", "formaction", "xlink:href"].map String.toList

/-- The elements that part the words around them. -/
def blockElements : List (List Char) :=
  ["p", "div", "br", "li", "tr", "h1", "h2", "h3", "h4", "h5", "h6"].map String.toList

/-! ## Plain text -/

/-- The visible text of tokens; `depth` counts the dropped elements that are open. -/
def visibleText (depth : Nat) : List Token → List Char
  | [] => []
  | .text s :: r => (if depth = 0 then s else []) ++ visibleText depth r
  | .openTag name _ :: r =>
    if activeElements.contains name then visibleText (depth + 1) r
    else if blockElements.contains name then ' ' :: visibleText depth r
    else visibleText depth r
  | .emptyTag name _ :: r =>
    if blockElements.contains name then ' ' :: ' ' :: visibleText depth r
    else visibleText depth r
  | .endTag name :: r =>
    if activeElements.contains name then visibleText (depth - 1) r
    else if blockElements.contains name then ' ' :: visibleText depth r
    else visibleText depth r
  | .named _ :: r => visibleText depth r
  | .numbered _ :: r => visibleText depth r

/-- A text without markup. -/
def toPlain (s : String) : Except Breach String :=
  (tokens true s.toList).map fun ts => squeeze (String.ofList (visibleText 0 ts))

/-! ## Rich text -/

/-- Tells whether a link runs a script. -/
def runsScript (value : List Char) : Bool :=
  let link := (value.dropWhile isBlank).map Char.toLower
  "javascript:".toList.isPrefixOf link || "vbscript:".toList.isPrefixOf link

/-- Tells whether an attribute may stay. -/
def isSafe (a : Attribute) : Bool :=
  !"on".toList.isPrefixOf a.name &&
    match a.value with
    | none => true
    | some value => !(linkAttributes.contains a.name && runsScript value)

/-- An attribute in a tag. -/
def attributeChars (a : Attribute) : List Char :=
  match a.value with
  | none => ' ' :: a.name
  | some value => ' ' :: (a.name ++ '=' :: '"' :: (encode value ++ ['"']))

/-- The name and the safe attributes of a tag. -/
def tagChars (name : List Char) (attrs : List Attribute) : List Char :=
  name ++ (attrs.filter isSafe).flatMap attributeChars

/-- The markup of tokens without what is active; `depth` counts the dropped elements
that are open. -/
def safeMarkup (depth : Nat) : List Token → List Char
  | [] => []
  | .text s :: r => (if depth = 0 then s else []) ++ safeMarkup depth r
  | .openTag name attrs :: r =>
    if activeElements.contains name then safeMarkup (depth + 1) r
    else (if depth = 0 then '<' :: (tagChars name attrs ++ ['>']) else []) ++ safeMarkup depth r
  | .emptyTag name attrs :: r =>
    (if depth = 0 && !activeElements.contains name then
      '<' :: (tagChars name attrs ++ [' ', '/', '>']) else []) ++ safeMarkup depth r
  | .endTag name :: r =>
    if activeElements.contains name then safeMarkup (depth - 1) r
    else
      (if depth = 0 && !voidElements.contains name then '<' :: '/' :: (name ++ ['>']) else []) ++
        safeMarkup depth r
  | .named name :: r =>
    (if depth = 0 then '&' :: (name ++ [';']) else []) ++ safeMarkup depth r
  | .numbered code :: r =>
    (if depth = 0 then '&' :: '#' :: (code ++ [';']) else []) ++ safeMarkup depth r

/-- A text with its markup, without what is active. -/
def toRich (s : String) : Except Breach String :=
  (tokens false s.toList).map fun ts => strip (String.ofList (safeMarkup 0 ts))

/-- Cleans a text by a profile. -/
def clean (profile : Profile) (s : String) : Except Breach String :=
  match profile with
  | .raw => .ok s
  | .plain => toPlain s
  | .rich => toRich s

end QuestionBank.Markup
