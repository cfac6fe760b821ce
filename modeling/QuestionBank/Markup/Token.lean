import QuestionBank.Failure
import QuestionBank.Markup.Tag

/-!
# Tokens of HTML

Text is cut into character data, tags and references; comments, declarations and
processing instructions vanish. The content of `script` and `style` is character
data up to the end tag. In decoding mode references are replaced where they stand;
otherwise they are tokens of their own.

A reader first takes what is certain and then, at the first construct that needs
more text, goes on knowing that no more will come. The flag `final` tells which
of the two it is doing.
-/

namespace QuestionBank.Markup

open QuestionBank.Text

/-- A piece of HTML. -/
inductive Token where
  | text (s : List Char)
  | openTag (name : List Char) (attributes : List Attribute)
  | emptyTag (name : List Char) (attributes : List Attribute)
  | endTag (name : List Char)
  | named (name : List Char)
  | numbered (code : List Char)
  deriving DecidableEq

/-- The elements whose content is character data up to the end tag. -/
def rawElements : List (List Char) := ["script".toList, "style".toList]

/-! ## Searching -/

/-- The first place where a pattern matches, and the size of the match there. -/
def search (size? : List Char → Option Nat) : List Char → Option (Nat × Nat)
  | [] => none
  | c :: r =>
    match size? (c :: r) with
    | some n => some (0, n)
    | none => (search size? r).map fun (place, n) => (place + 1, n)

/-- The size of a text through its first closing bracket. -/
def sizeThroughBracket? (s : List Char) : Option Nat :=
  let before := s.takeWhile (· != '>')
  if (s.drop before.length).isEmpty then none else some (before.length + 1)

/-- The size of blanks and a closing bracket. -/
def bracketSize? (s : List Char) : Option Nat :=
  let blanks := s.takeWhile isBlank
  if (s.drop blanks.length).head? = some '>' then some (blanks.length + 1) else none

/-- The size of the end of a comment. -/
def commentEnd? : List Char → Option Nat
  | '-' :: '-' :: r => (bracketSize? r).map (· + 2)
  | _ => none

/-- The size of the end of a short section. -/
def shortSectionEnd? : List Char → Option Nat
  | ']' :: r => (bracketSize? r).map (· + 1)
  | _ => none

/-- The size of the end of a section. -/
def sectionEnd? : List Char → Option Nat
  | ']' :: r =>
    let blanks := r.takeWhile isBlank
    (shortSectionEnd? (r.drop blanks.length)).map (· + (blanks.length + 1))
  | _ => none

/-- The size of the end tag of an element with raw content. -/
def rawEnd? (name : List Char) : List Char → Option Nat
  | '<' :: '/' :: r =>
    let blanks := (r.takeWhile isBlank).length
    let found := (r.drop blanks).take name.length
    if found.map Char.toLower = name then
      (bracketSize? (r.drop (blanks + name.length))).map (· + (blanks + name.length + 2))
    else none
  | _ => none

/-! ## Constructs after an opening bracket -/

/-- What follows an opening angle bracket, with its size. -/
inductive Construct where
  | token (t : Token) (size : Nat)
  | skipped (size : Nat)
  | unfinished
  | broken (breach : Breach)
  deriving DecidableEq

/-- A construct that vanishes if it ends. -/
def skippedTo : Option Nat → Construct
  | some size => .skipped size
  | none => .unfinished

/-- The end of a match counted from the beginning of the text. -/
def endOf (found : Option (Nat × Nat)) : Option Nat := found.map fun (place, n) => place + n

/-- The sections known by their first word, and whether their end is short. -/
def sectionKind? (word : List Char) : Option Bool :=
  if ["temp", "cdata", "ignore", "include", "rcdata"].contains (String.ofList word) then some false
  else if ["if", "else", "endif"].contains (String.ofList word) then some true
  else none

/-- Reads a section, from the text after its square bracket. A section has to begin
with a word, and the word has to be a known one. -/
def markedSection (s : List Char) : Construct :=
  match s with
  | [] => .unfinished
  | c :: r =>
    if c.isAlpha then
      let rest := r.takeWhile fun c => c.isAlphanum || c == '-' || c == '_' || c == '.'
      if ((r.drop rest.length).dropWhile isBlank).isEmpty then .unfinished
      else
        match sectionKind? ((c :: rest).map Char.toLower) with
        | some short =>
          skippedTo ((endOf (search (if short then shortSectionEnd? else sectionEnd?) s)).map
            (· + 2))
        | none => .broken .markupDeclaration
    else .broken .markupDeclaration

/-- Reads a declaration, from the text after its exclamation mark. -/
def declaration (s : List Char) : Construct :=
  match s with
  | '-' :: '-' :: r => skippedTo ((endOf (search commentEnd? r)).map (· + 3))
  | '[' :: r => markedSection r
  | _ =>
    if (s.take 7).map Char.toLower = "doctype".toList then
      skippedTo ((sizeThroughBracket? (s.drop 7)).map (· + 8))
    else skippedTo ((sizeThroughBracket? s).map (· + 1))

/-- Reads an end tag, from the text after its slash. -/
def endConstruct (s : List Char) : Construct :=
  match sizeThroughBracket? s with
  | none => .unfinished
  | some n =>
    match endName? s with
    | some name => .token (.endTag name) (n + 1)
    | none => .skipped (n + 1)

/-- A tag whose name begins with the letter `c` and goes on with `r`. -/
def startConstruct (c : Char) (r : List Char) : Construct :=
  match startTag c r with
  | .complete name attrs closesItself size =>
    match attrs.mapM Attribute.decoded with
    | .error b => .broken b
    | .ok attrs => .token (if closesItself then .emptyTag name attrs else .openTag name attrs) size
  | .malformed attrs size =>
    match attrs.mapM Attribute.decoded with
    | .error b => .broken b
    | .ok _ => .token (.text ('<' :: (c :: r).take size)) size
  | .unfinished => .unfinished

/-- Reads what follows an opening angle bracket. A bracket that begins nothing is
character data. -/
def construct (s : List Char) : Construct :=
  match s with
  | [] => .token (.text ['<']) 0
  | c :: r =>
    if c.isAlpha then startConstruct c r
    else if c = '/' then endConstruct r
    else if c = '?' then skippedTo ((sizeThroughBracket? r).map (· + 1))
    else if c = '!' then declaration r
    else .token (.text ['<']) 0

/-- The size of a construct that is not finished, taken as character data: through
the next closing bracket, or up to the next opening one, or nothing more. -/
def looseSize (s : List Char) : Nat :=
  match sizeThroughBracket? s with
  | some n => n
  | none =>
    let before := s.takeWhile (· != '<')
    if (s.drop before.length).isEmpty then 0 else before.length

/-! ## References as tokens -/

/-- What follows an ampersand. -/
inductive Ampersand where
  /-- A reference and its size. -/
  | reference (t : Token) (size : Nat)
  /-- A number sign that begins no code, while a semicolon comes later. -/
  | numberSign
  /-- Nothing that later text could complete. -/
  | alone
  /-- The rest of the text is character data. -/
  | rest (s : List Char)
  deriving DecidableEq

/-- The characters of entity names after the first letter. -/
def isEntityChar (c : Char) : Bool := c.isAlphanum || c == '-' || c == '.'

/-- The size of an entity name at the end of a text: it ends before the last dash or
dot, for only these show that it is complete. -/
def closedNameSize? (name : List Char) : Option Nat :=
  let open' := name.reverse.takeWhile Char.isAlphanum
  if open'.length < name.length then some (name.length - open'.length - 1) else none

/-- Reads a reference by code, from the text after its number sign. -/
def numberedReference? (s : List Char) : Option (Token × Nat) :=
  let head := if s.head? = some 'x' || s.head? = some 'X' then s.take 1 else []
  let body := s.drop head.length
  let digits := body.takeWhile (if head.isEmpty then Char.isDigit else isHexDigit)
  let rest := body.drop digits.length
  if digits.isEmpty || rest.isEmpty || rest.head?.any isHexDigit then none
  else some (.numbered (head ++ digits), 1 + head.length + digits.length + semicolonSize rest)

/-- Reads what follows an ampersand. -/
def ampersand (s : List Char) : Ampersand :=
  match s with
  | [] => .alone
  | '#' :: r =>
    match numberedReference? r with
    | some (t, size) => .reference t size
    | none => if r.contains ';' then .numberSign else .rest ('&' :: s)
  | c :: r =>
    if c.isAlpha then
      let name := r.takeWhile isEntityChar
      let rest := r.drop name.length
      if rest.isEmpty then
        match closedNameSize? name with
        | some n => .reference (.named (c :: name.take n)) (n + 1)
        | none => .rest (if r.isEmpty then [c] else '&' :: s)
      else .reference (.named (c :: name)) (name.length + 1 + semicolonSize rest)
    else .alone

/-! ## The scan -/

/-- What a scan hands over: tokens, and the breach that ends it, if one does. -/
structure Report where
  tokens : List Token := []
  breach : Option Breach := none
  deriving DecidableEq

namespace Report

/-- A report with a token in front. -/
def cons (t : Token) (report : Report) : Report := { report with tokens := t :: report.tokens }

/-- The tokens of a scan that no breach ends. -/
def whole (report : Report) : Except Breach (List Token) :=
  match report.breach with
  | some b => .error b
  | none => .ok report.tokens

end Report

/-- Character data, decoded in decoding mode. -/
def dataToken (decoding : Bool) (s : List Char) : Except Breach Token :=
  if decoding then (decodeText s).map .text else .ok (.text s)

/-- Character data in front of what comes after it. -/
def withData (decoding : Bool) (s : List Char) (rest : Report) : Report :=
  match dataToken decoding s with
  | .error b => { breach := some b }
  | .ok t => rest.cons t

/-- The element whose raw content follows a token. -/
def rawAfter : Token → Option (List Char)
  | .openTag name _ => if rawElements.contains name then some name else none
  | _ => none

/-- Cuts a text into tokens. `raw` names the element in whose raw content the text
begins; raw content without an end tag is lost. -/
def scan (decoding final : Bool) (raw : Option (List Char)) : List Char → Report
  | [] => {}
  | c :: r =>
    match raw with
    | some name =>
      match search (rawEnd? name) (c :: r) with
      | none => {}
      | some (place, size) =>
        let rest := (scan decoding final none (r.drop (place + size - 1))).cons (.endTag name)
        if place = 0 then rest else rest.cons (.text ((c :: r).take place))
    | none =>
      if c = '<' then
        match construct r with
        | .token t size => (scan decoding final (rawAfter t) (r.drop size)).cons t
        | .skipped size => scan decoding final none (r.drop size)
        | .unfinished =>
          let size := looseSize r
          withData decoding ('<' :: r.take size) (scan decoding true none (r.drop size))
        | .broken b => { breach := some b }
      else if c = '&' && !decoding then
        match ampersand r with
        | .reference t size => (scan decoding final none (r.drop size)).cons t
        | .numberSign =>
          if final then { tokens := [.text ['&', '#'], .text (r.drop 1)] }
          else (scan decoding true none (r.drop 1)).cons (.text ['&', '#'])
        | .alone => (scan decoding final none r).cons (.text ['&'])
        | .rest s => { tokens := [.text s] }
      else
        let more := r.takeWhile fun c => c != '<' && (decoding || c != '&')
        withData decoding (c :: more) (scan decoding final none (r.drop more.length))
termination_by s => s.length
decreasing_by
  all_goals simp only [List.length_drop, List.length_cons]
  all_goals omega

/-- What a reader that is fed a whole text reports. -/
def report (decoding : Bool) (s : List Char) : Report := scan decoding false none s

/-- The tokens of a text. -/
def tokens (decoding : Bool) (s : List Char) : Except Breach (List Token) :=
  (report decoding s).whole

end QuestionBank.Markup
