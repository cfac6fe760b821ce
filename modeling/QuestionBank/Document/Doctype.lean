import QuestionBank.Document.Lexical
import QuestionBank.Document.Refusal

/-!
# Document type declarations

A document type declaration may hold declarations of its own. Those of attributes
give default values and say whether blanks in a value count; those of elements and
notations are checked and forgotten; those of entities refuse the document.
Declarations after a reference to a parameter entity do not count, unless the
document stands alone.
-/

namespace QuestionBank.Document

/-- What is declared of an attribute of an element. -/
structure AttributeRule where
  element : List Char
  name : List Char
  value : Option (List Char)
  isText : Bool

/-- What a document type declaration says. `external` tells that a part of it may be
elsewhere, and `counting` that the declarations still count. -/
structure Doctype where
  standalone : Bool := false
  external : Bool := false
  counting : Bool := true
  rules : List AttributeRule := []

/-- Tells whether a reference to something unknown may be meant for a declaration that
is elsewhere. -/
def Doctype.lenient (d : Doctype) : Bool := d.external && !d.standalone

/-! ## Marks of declarations -/

/-- A mark of a declaration. A `name` has no colon, a `qualified` name has one, and a
`word` may begin with any character of a name. A `particle` is a name with a sign of
repetition. -/
inductive Mark where
  | name (s : List Char)
  | qualified (s : List Char)
  | word (s : List Char)
  | particle
  | keyword (s : List Char)
  | literal (s : List Char)
  | percent
  | opening
  | closing (repetition : Option Char)
  | comma
  | bar
  | bracket
  | stop

/-- Tells whether a sign in a list comes next, a blank, or the end. -/
def endsBefore (signs : List Char) : List Char → Bool
  | [] => true
  | c :: _ => isGap c || signs.contains c

/-- Tells whether a character is a sign of repetition. -/
def isRepetition (c : Char) : Bool := c == '*' || c == '+' || c == '?'

/-- The mark that characters of a name make, followed by `r`. -/
def nameMark (s r : List Char) : Option (Mark × List Char) :=
  let isName := (s.head?.map isNameStart).getD false
  let afterColon := s.dropWhile (· != ':')
  let mark :=
    if !isName then Mark.word s
    else
      match afterColon with
      | [] => .name s
      | [_] => .word s
      | _ :: inner => if inner.contains ':' then .word s else .qualified s
  if endsBefore ['>', ')', ',', '|', '[', '%'] r then some (mark, r)
  else
    match r with
    | c :: r =>
      match mark with
      | .word _ => none
      | _ => if isRepetition c then some (.particle, r) else none
    | [] => none

/-- A literal between quotes, and what follows it. -/
def literal? (quote : Char) (s : List Char) : Option (Mark × List Char) :=
  let text := s.takeWhile (· != quote)
  match s.drop text.length with
  | _ :: r =>
    if !text.contains broken && endsBefore ['>', '%', '['] r then some (.literal text, r) else none
  | [] => none

/-- The next mark of a declaration, and what follows it. -/
def mark? (s : List Char) : Option (Mark × List Char) :=
  match skipGap s with
  | [] => none
  | '"' :: r => literal? '"' r
  | '\'' :: r => literal? '\'' r
  | '>' :: r => some (.stop, r)
  | '[' :: r => some (.bracket, r)
  | ',' :: r => some (.comma, r)
  | '|' :: r => some (.bar, r)
  | '(' :: r => some (.opening, r)
  | '%' :: r =>
    match r with
    | c :: _ => if isGap c || c = '%' then some (.percent, r) else none
    | [] => none
  | ')' :: r =>
    match r with
    | c :: rest =>
      if isRepetition c then some (.closing (some c), rest)
      else if endsBefore ['>', ',', '|', ')'] r then some (.closing none, r)
      else none
    | [] => none
  | '#' :: r =>
    match name? r with
    | some (s, r) => if endsBefore [')', '>', '%', '|'] r then some (.keyword s, r) else none
    | none => none
  | c :: r =>
    let isPart (c : Char) : Bool := isNameChar c || c == ':'
    if isPart c then nameMark (c :: r.takeWhile isPart) (r.dropWhile isPart) else none

/-- What follows the end of a declaration. -/
def close (s : List Char) : Except Refusal (List Char) :=
  match mark? s with
  | some (.stop, r) => .ok r
  | _ => .error .malformed

/-- A literal, and what follows it. -/
def literal (s : List Char) : Except Refusal (List Char × List Char) :=
  match mark? s with
  | some (.literal text, r) => .ok (text, r)
  | _ => .error .malformed

/-! ## Identifiers -/

/-- The characters of public identifiers. -/
def isPublicChar (c : Char) : Bool :=
  c.isAlphanum || "-'()+,/=? \r\n;!*%#:._$@".toList.contains c

/-- A public identifier, and what follows it. -/
def publicLiteral (s : List Char) : Except Refusal (List Char × List Char) :=
  match literal s with
  | .ok (text, r) => if text.all isPublicChar then .ok (text, r) else .error .malformed
  | .error e => .error e

/-- A public identifier with single spaces. -/
def publicText (s : List Char) : String :=
  String.ofList (collapseSpaces (s.map fun c => if isGap c then ' ' else c))

/-- The public and the system identifier that follow a word for either, and what
follows them. -/
def identifiers (word s : List Char) :
    Except Refusal (Option (List Char) × List Char × List Char) :=
  match String.ofList word with
  | "SYSTEM" => (literal s).map fun (system, r) => (none, system, r)
  | "PUBLIC" =>
    match publicLiteral s with
    | .ok (text, r) => (literal r).map fun (system, r) => (some text, system, r)
    | .error e => .error e
  | _ => .error .malformed

/-! ## Declarations -/

/-- Tells whether the value of an entity is well formed. -/
def isEntityValue : Nat → List Char → Bool
  | _, [] => true
  | 0, _ => false
  | fuel + 1, '&' :: r =>
    match reference? r with
    | some (_, r) => isEntityValue fuel r
    | none => false
  | fuel + 1, c :: r => c != '%' && isEntityValue fuel r

/-- Reads what an entity stands for. A general entity may be one of another notation. -/
def entityValue (d : Doctype) (isGeneral : Bool) (name s : List Char) :
    Except Refusal (List Char) :=
  let counts := d.counting && !(isGeneral && (namedChar? name).isSome)
  let refusal (systemId publicId : Option String) : Refusal :=
    .entity (String.ofList name) systemId publicId
  match mark? s with
  | some (.literal text, r) =>
    if counts then .error (refusal none none)
    else if d.counting && !isEntityValue text.length text then .error .malformed
    else close r
  | some (.name word, r) =>
    match identifiers word r with
    | .error e => .error e
    | .ok (publicId, systemId, r) =>
      let refused := refusal (some (String.ofList systemId)) (publicId.map publicText)
      match mark? r with
      | some (.stop, r) => if counts then .error refused else .ok r
      | some (.name word, r) =>
        if isGeneral && word == "NDATA".toList then
          match mark? r with
          | some (.name _, r) => if counts then .error refused else close r
          | _ => .error .malformed
        else .error .malformed
      | _ => .error .malformed
  | _ => .error .malformed

/-- Reads the declaration of an entity. -/
def entityDeclaration (d : Doctype) (s : List Char) : Except Refusal (List Char) :=
  match mark? s with
  | some (.name name, r) => entityValue d true name r
  | some (.percent, r) =>
    match mark? r with
    | some (.name name, r) => entityValue d false name r
    | _ => .error .malformed
  | _ => .error .malformed

/-- Reads the declaration of a notation. -/
def notationDeclaration (s : List Char) : Except Refusal (List Char) :=
  match mark? s with
  | some (.name _, r) =>
    match mark? r with
    | some (.name word, r) =>
      match String.ofList word with
      | "SYSTEM" => (literal r).bind fun (_, r) => close r
      | "PUBLIC" =>
        match publicLiteral r with
        | .error e => .error e
        | .ok (_, r) =>
          match mark? r with
          | some (.literal _, r) => close r
          | some (.stop, r) => .ok r
          | _ => .error .malformed
      | _ => .error .malformed
    | _ => .error .malformed
  | _ => .error .malformed

/-- Reads the names of mixed content after the first bar. -/
def mixedNames : Nat → List Char → Except Refusal (List Char)
  | 0, _ => .error .malformed
  | fuel + 1, s =>
    let afterName (r : List Char) : Except Refusal (List Char) :=
      match mark? r with
      | some (.closing (some '*'), r) => close r
      | some (.bar, r) => mixedNames fuel r
      | _ => .error .malformed
    match mark? s with
    | some (.name _, r) => afterName r
    | some (.qualified _, r) => afterName r
    | _ => .error .malformed

/-- Reads groups of content. `joints` holds, for each open group, the mark between
its parts, once there is one; `wantsPart` tells whether a part must come next. -/
def contentGroups : Nat → Bool → List (Option Char) → List Char → Except Refusal (List Char)
  | 0, _, _, _ => .error .malformed
  | fuel + 1, true, joints, s =>
    match mark? s with
    | some (.opening, r) => contentGroups fuel true (none :: joints) r
    | some (.name _, r) => contentGroups fuel false joints r
    | some (.qualified _, r) => contentGroups fuel false joints r
    | some (.particle, r) => contentGroups fuel false joints r
    | _ => .error .malformed
  | fuel + 1, false, joints, s =>
    let join (c : Char) (r : List Char) : Except Refusal (List Char) :=
      match joints with
      | joint :: outer =>
        if joint.getD c = c then contentGroups fuel true (some c :: outer) r else .error .malformed
      | [] => .error .malformed
    match mark? s with
    | some (.closing _, r) =>
      match joints with
      | [_] => close r
      | _ :: outer => contentGroups fuel false outer r
      | [] => .error .malformed
    | some (.comma, r) => join ',' r
    | some (.bar, r) => join '|' r
    | _ => .error .malformed

/-- Reads the declaration of an element. -/
def elementDeclaration (s : List Char) : Except Refusal (List Char) :=
  let model (r : List Char) : Except Refusal (List Char) :=
    match mark? r with
    | some (.name word, r) =>
      if word == "EMPTY".toList || word == "ANY".toList then close r else .error .malformed
    | some (.opening, r) =>
      match mark? r with
      | some (.keyword word, r) =>
        if word == "PCDATA".toList then
          match mark? r with
          | some (.closing none, r) => close r
          | some (.closing (some '*'), r) => close r
          | some (.bar, r) => mixedNames r.length r
          | _ => .error .malformed
        else .error .malformed
      | _ => contentGroups (r.length + 1) true [none] r
    | _ => .error .malformed
  match mark? s with
  | some (.name _, r) => model r
  | some (.qualified _, r) => model r
  | _ => .error .malformed

/-- The types of attributes that are single words. -/
def attributeTypes : List String :=
  ["CDATA", "ID", "IDREF", "IDREFS", "ENTITY", "ENTITIES", "NMTOKEN", "NMTOKENS"]

/-- Reads the words of an enumeration; names only if it lists notations. -/
def enumeration (namesOnly : Bool) : Nat → List Char → Except Refusal (List Char)
  | 0, _ => .error .malformed
  | fuel + 1, s =>
    let afterWord (r : List Char) : Except Refusal (List Char) :=
      match mark? r with
      | some (.closing none, r) => .ok r
      | some (.bar, r) => enumeration namesOnly fuel r
      | _ => .error .malformed
    match mark? s with
    | some (.name _, r) => afterWord r
    | some (.qualified _, r) => if namesOnly then .error .malformed else afterWord r
    | some (.word _, r) => if namesOnly then .error .malformed else afterWord r
    | _ => .error .malformed

/-- Reads the type of an attribute, and tells whether blanks in its values count. -/
def attributeType (s : List Char) : Except Refusal (Bool × List Char) :=
  match mark? s with
  | some (.name word, r) =>
    if word == "NOTATION".toList then
      match mark? r with
      | some (.opening, r) => (enumeration true r.length r).map fun r => (false, r)
      | _ => .error .malformed
    else if attributeTypes.contains (String.ofList word) then .ok (word == "CDATA".toList, r)
    else .error .malformed
  | some (.opening, r) => (enumeration false r.length r).map fun r => (false, r)
  | _ => .error .malformed

/-- Reads the default value of an attribute, if it has one. -/
def defaultValue (d : Doctype) (isText : Bool) (s : List Char) :
    Except Refusal (Option (List Char) × List Char) :=
  let value (text r : List Char) : Except Refusal (Option (List Char) × List Char) :=
    if d.counting then (need (attributeValue? d.lenient isText text)).map fun v => (some v, r)
    else .ok (none, r)
  match mark? s with
  | some (.literal text, r) => value text r
  | some (.keyword word, r) =>
    match String.ofList word with
    | "IMPLIED" => .ok (none, r)
    | "REQUIRED" => .ok (none, r)
    | "FIXED" =>
      match literal r with
      | .ok (text, r) => value text r
      | .error e => .error e
    | _ => .error .malformed
  | _ => .error .malformed

/-- Adds a rule for an attribute; the first rule for it stays. -/
def Doctype.addRule (d : Doctype) (rule : AttributeRule) : Doctype :=
  if !d.counting || d.rules.any fun r => r.element == rule.element && r.name == rule.name then d
  else { d with rules := d.rules ++ [rule] }

/-- Reads what is declared of the attributes of an element. -/
def attributeRules (element : List Char) : Nat → Doctype → List Char →
    Except Refusal (Doctype × List Char)
  | 0, _, _ => .error .malformed
  | fuel + 1, d, s =>
    let rule (name r : List Char) : Except Refusal (Doctype × List Char) :=
      match attributeType r with
      | .error e => .error e
      | .ok (isText, r) =>
        match defaultValue d isText r with
        | .error e => .error e
        | .ok (value, r) => attributeRules element fuel (d.addRule ⟨element, name, value, isText⟩) r
    match mark? s with
    | some (.stop, r) => .ok (d, r)
    | some (.name name, r) => rule name r
    | some (.qualified name, r) => rule name r
    | _ => .error .malformed

/-- Reads the declaration of attributes. -/
def attributeDeclaration (d : Doctype) (s : List Char) : Except Refusal (Doctype × List Char) :=
  match mark? s with
  | some (.name element, r) => attributeRules element r.length d r
  | some (.qualified element, r) => attributeRules element r.length d r
  | _ => .error .malformed

/-! ## The declaration as a whole -/

/-- What follows a word that begins a declaration, and a blank. -/
def afterWord? (word : String) (s : List Char) : Option (List Char) :=
  if word.toList.isPrefixOf s then
    match s.drop word.length with
    | c :: r => if isGap c then some r else none
    | [] => none
  else none

/-- Reads one declaration inside a document type declaration, after its first sign. -/
def innerDeclaration (d : Doctype) (s : List Char) : Except Refusal (Doctype × List Char) :=
  match s with
  | '?' :: r => (need (instructionRest? r)).map fun r => (d, r)
  | '!' :: '-' :: '-' :: r => (need (commentRest? r)).map fun r => (d, r)
  | '!' :: r =>
    match afterWord? "ENTITY" r, afterWord? "NOTATION" r, afterWord? "ELEMENT" r,
      afterWord? "ATTLIST" r with
    | some r, _, _, _ => (entityDeclaration d r).map fun r => (d, r)
    | _, some r, _, _ => (notationDeclaration r).map fun r => (d, r)
    | _, _, some r, _ => (elementDeclaration r).map fun r => (d, r)
    | _, _, _, some r => attributeDeclaration d r
    | _, _, _, _ => .error .malformed
  | _ => .error .malformed

/-- Reads the declarations inside a document type declaration, up to its end. -/
def innerDeclarations : Nat → Doctype → List Char → Except Refusal (Doctype × List Char)
  | 0, _, _ => .error .malformed
  | fuel + 1, d, s =>
    match skipGap s with
    | ']' :: r => (close r).map fun r => (d, r)
    | '%' :: r =>
      match name? r with
      | some (_, ';' :: r) =>
        innerDeclarations fuel { d with external := true, counting := d.standalone } r
      | _ => .error .malformed
    | '<' :: r =>
      match innerDeclaration d r with
      | .ok (d, r) => innerDeclarations fuel d r
      | .error e => .error e
    | _ => .error .malformed

/-- Reads a document type declaration after its first word. -/
def doctype (standalone : Bool) (s : List Char) : Except Refusal (Doctype × List Char) :=
  let d : Doctype := { standalone }
  let inner (d : Doctype) (r : List Char) : Except Refusal (Doctype × List Char) :=
    match mark? r with
    | some (.bracket, r) => innerDeclarations (r.length + 1) d r
    | some (.stop, r) => .ok (d, r)
    | _ => .error .malformed
  let afterName (r : List Char) : Except Refusal (Doctype × List Char) :=
    match mark? r with
    | some (.name word, r) =>
      (identifiers word r).bind fun (_, _, r) => inner { d with external := true } r
    | _ => inner d r
  match mark? s with
  | some (.name _, r) => afterName r
  | some (.qualified _, r) => afterName r
  | _ => .error .malformed

end QuestionBank.Document
