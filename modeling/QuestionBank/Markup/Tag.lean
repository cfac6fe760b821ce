import QuestionBank.Markup.Reference
import QuestionBank.Text.Blank
import QuestionBank.Text.Lower

/-!
# Tags

A start tag has a name and attributes, an end tag a name. Names are read in lower
case, values as they are written. The reader forgives much: attributes need no
quotes, and a slash may stand between them.
-/

namespace QuestionBank.Markup

open QuestionBank.Text

/-- An attribute; one without an equals sign has no value. -/
structure Attribute where
  name : List Char
  value : Option (List Char)
  deriving DecidableEq

/-- An attribute with the references in its value replaced. -/
def Attribute.decoded (a : Attribute) : Except Breach Attribute :=
  match a.value with
  | none => .ok a
  | some value => (decodeText value).map fun value => { a with value := some value }

/-- What is found after an opening angle bracket. -/
inductive StartTag where
  /-- A tag, and the number of characters after the bracket that belong to it. -/
  | complete (name : List Char) (attributes : List Attribute) (closesItself : Bool) (size : Nat)
  /-- No tag, the attributes that were read, and the number of characters that were tried. -/
  | malformed (attributes : List Attribute) (size : Nat)
  /-- A tag that the text ends in. -/
  | unfinished
  deriving DecidableEq

/-- The characters of tag names after the first letter. -/
def isTagNameChar (c : Char) : Bool :=
  !(c == '\t' || c == '\n' || c == '\r' || c == '\x0c' || c == ' ' || c == '/' || c == '>'
    || c == '\x00')

/-- The size of the gap before an attribute: blanks and slashes, but not the slash of
a tag that closes itself. -/
def gapSize : List Char → Nat
  | [] => 0
  | c :: r => if isBlank c || (c = '/' && r.head? != some '>') then gapSize r + 1 else 0

/-- The characters of attribute names after the first one. -/
def isAttributeNameChar (c : Char) : Bool := !(isBlank c || c == '/' || c == '=' || c == '>')

/-- The characters of values without quotes. -/
def isBareChar (c : Char) : Bool := !(isBlank c || c == '>')

/-- The value of an attribute in quotes, if the closing quote is there. -/
def quotedValue? (quote : Char) (s : List Char) : Option (List Char) :=
  let body := s.takeWhile (· != quote)
  if (s.drop body.length).isEmpty then none else some body

/-- The value that follows the name of an attribute, and its size with the signs
before it. Where a quote is not closed, the value is taken from before the last
blank or the last equals sign. -/
def value? (s : List Char) : Option (List Char × Nat) :=
  let before := (s.takeWhile isBlank).length
  let s := s.drop before
  let signs := (s.takeWhile (· == '=')).length
  let s := s.drop signs
  let after := (s.takeWhile isBlank).length
  let s := s.drop after
  if signs = 0 then none
  else
    let size := before + signs + after
    match s with
    | [] => some ([], size)
    | c :: r =>
      if c = '\'' || c = '"' then
        match quotedValue? c r with
        | some body => some (body, size + body.length + 2)
        | none =>
          if 0 < after then some ([], size - 1)
          else if 1 < signs then
            let bare := '=' :: (c :: r).takeWhile isBareChar
            some (bare, size - 1 + bare.length)
          else none
      else
        let bare := (c :: r).takeWhile isBareChar
        some (bare, size + bare.length)

/-- Tells whether an attribute may begin after a character. -/
def endsWord (c : Char) : Bool := isBlank c || c == '/' || c == '\'' || c == '"'

/-- The attributes at the beginning of a text that follows the character `last`, and
the size of what was read. -/
def attributes (last : Char) : List Char → List Attribute × Nat
  | [] => ([], 0)
  | c :: r =>
    if endsWord last && !(isBlank c || c == '/' || c == '>') then
      let rest := r.takeWhile isAttributeNameChar
      let value := value? (r.drop rest.length)
      let size := rest.length + (value.map Prod.snd).getD 0
      let size := size + gapSize (r.drop size)
      let (others, n) := attributes ((c :: r.take size).getLastD c) (r.drop size)
      (⟨lower (c :: rest), value.map Prod.fst⟩ :: others, size + 1 + n)
    else ([], 0)
termination_by s => s.length
decreasing_by simp only [List.length_drop, List.length_cons]; omega

/-- Reads the start tag whose name begins with the letter `c` and goes on with `r`. -/
def startTag (c : Char) (r : List Char) : StartTag :=
  let rest := r.takeWhile isTagNameChar
  let name := lower (c :: rest)
  let gap := gapSize (r.drop rest.length)
  let head := rest.length + gap
  let (attrs, n) := attributes ((c :: r.take head).getLastD c) (r.drop head)
  let size := head + n
  match r.drop size with
  | '>' :: _ => .complete name attrs false (size + 2)
  | '/' :: '>' :: _ => .complete name attrs true (size + 3)
  | [] => .unfinished
  | d :: _ =>
    if d = '=' || d = '/' || d.isAlpha then .unfinished else .malformed attrs (size + 1)

/-- The characters of a plain end-tag name after the first letter. -/
def isEndNameChar (c : Char) : Bool :=
  c.isAlphanum || c == '-' || c == '.' || c == ':' || c == '_'

/-- The name of an end tag that holds nothing else: a name with blanks around it and
the closing bracket. -/
def plainEndName? (s : List Char) : Option (List Char) :=
  match s.dropWhile isBlank with
  | c :: r =>
    let rest := r.takeWhile isEndNameChar
    if c.isAlpha && ((r.drop rest.length).dropWhile isBlank).head? = some '>' then
      some (c :: rest)
    else none
  | [] => none

/-- The name of an end tag, from the text after its slash. What does not begin with a
letter is no end tag. -/
def endName? (s : List Char) : Option (List Char) :=
  match plainEndName? s with
  | some name => some (lower name)
  | none =>
    match s with
    | c :: r => if c.isAlpha then some (lower (c :: r.takeWhile isTagNameChar)) else none
    | [] => none

end QuestionBank.Markup
