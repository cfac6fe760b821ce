import QuestionBank.Document.Lexical
import QuestionBank.Text.Lines

/-!
# Tokens of content

Content is cut into tags, runs of text, references and sections of literal text.
Comments and processing instructions leave a token that says nothing.
-/

namespace QuestionBank.Document

/-- A token of content. The values of attributes stand as they are written. -/
inductive Token where
  | openTag (name : List Char) (attributes : List (List Char × List Char)) (isEmpty : Bool)
  | closeTag (name : List Char)
  | text (s : List Char)
  | section (s : List Char)
  | reference (c : Char)
  | silent

/-- A quoted value of an attribute, and what follows it. -/
def quotedValue? : List Char → Option (List Char × List Char)
  | [] => none
  | quote :: r =>
    if quote = '"' || quote = '\'' then
      let value := r.takeWhile (· != quote)
      match r.drop value.length with
      | _ :: r => if value.contains '<' || value.contains broken then none else some (value, r)
      | [] => none
    else none

/-- The attributes of a tag, whether the tag is empty, and what follows it. Each attribute
has a blank in front. -/
def tagRest? : Nat → List Char → Option (List (List Char × List Char) × Bool × List Char)
  | 0, _ => none
  | fuel + 1, s =>
    match skipGap s with
    | '>' :: r => some ([], false, r)
    | '/' :: '>' :: r => some ([], true, r)
    | r =>
      if (s.head?.map isGap).getD false then
        match qualifiedName? r with
        | none => none
        | some (name, r) =>
          match skipGap r with
          | '=' :: r =>
            match quotedValue? (skipGap r) with
            | none => none
            | some (value, r) =>
              (tagRest? fuel r).map fun (attributes, isEmpty, r) =>
                ((name, value) :: attributes, isEmpty, r)
          | _ => none
      else none

/-- The text of a section of literal text, and what follows it. -/
def sectionText? : List Char → Option (List Char × List Char)
  | [] => none
  | ']' :: ']' :: '>' :: r => some ([], r)
  | c :: r => if c = broken then none else (sectionText? r).map fun (text, r) => (c :: text, r)

/-- Tells whether a run of text holds the end of a section. -/
def holdsSectionEnd : List Char → Bool
  | [] => false
  | ']' :: ']' :: '>' :: _ => true
  | _ :: r => holdsSectionEnd r

/-- What follows a word that text begins with. -/
def afterPart? (word : String) (s : List Char) : Option (List Char) :=
  if word.toList.isPrefixOf s then some (s.drop word.length) else none

/-- The token after an opening bracket, and what follows it. -/
def tag? (s : List Char) : Option (Token × List Char) :=
  match s with
  | '/' :: r =>
    (qualifiedName? r).bind fun (name, r) =>
      match skipGap r with
      | '>' :: r => some (.closeTag name, r)
      | _ => none
  | '?' :: r => (instructionRest? r).map fun r => (.silent, r)
  | '!' :: '-' :: '-' :: r => (commentRest? r).map fun r => (.silent, r)
  | '!' :: r =>
    ((afterPart? "[CDATA[" r).bind sectionText?).map fun (text, r) =>
      (.section (Text.withLineFeeds text), r)
  | _ =>
    (qualifiedName? s).bind fun (name, r) =>
      (tagRest? (r.length + 1) r).map fun (attributes, isEmpty, r) =>
        (.openTag name attributes isEmpty, r)

/-- The first token of content, and what follows it. -/
def token? : List Char → Option (Token × List Char)
  | [] => none
  | '<' :: r => tag? r
  | '&' :: r =>
    match reference? r with
    | some (.char c, r) => some (.reference c, r)
    | _ => none
  | c :: r =>
    let text := (c :: r).takeWhile fun c => c != '<' && c != '&'
    if text.contains broken || holdsSectionEnd text then none
    else some (.text (Text.withLineFeeds text), (c :: r).drop text.length)

/-- The tokens of content up to its end. -/
def tokens? : Nat → List Char → Option (List Token)
  | _, [] => some []
  | 0, _ => none
  | fuel + 1, s => (token? s).bind fun (token, r) => (tokens? fuel r).map (token :: ·)

end QuestionBank.Document
