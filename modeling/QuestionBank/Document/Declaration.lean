import QuestionBank.Document.Lexical

/-!
# The declaration at the head of a document

A declaration gives a version, an encoding and whether the document stands alone,
in this order, each of the last two optional.
-/

namespace QuestionBank.Document

/-- What a document declares of itself. -/
structure Declaration where
  encoding : Option String := none
  standalone : Bool := false
  deriving DecidableEq

/-- The characters of declared values. -/
def isDeclaredChar (c : Char) : Bool := c.isAlphanum || c == '.' || c == '-' || c == '_'

/-- The next item of a declaration with its value, and what follows it: `some none`
when nothing but blanks is left, `none` when it is malformed. -/
def declaredItem? (s : List Char) :
    Option (Option (String × String) × List Char) :=
  match s with
  | [] => some (none, [])
  | _ =>
    match skipSomeGap? s with
    | none => none
    | some [] => some (none, [])
    | some s =>
      let name := s.takeWhile fun c => c != '=' && !isGap c && c.toNat < 0x80
      match name, skipGap (s.drop name.length) with
      | _ :: _, '=' :: r =>
        match skipGap r with
        | quote :: r =>
          let value := r.takeWhile isDeclaredChar
          if quote != '"' && quote != '\'' then none
          else if (r.drop value.length).head? != some quote then none
          else
            some (some (String.ofList name, String.ofList value), r.drop (value.length + 1))
        | [] => none
      | _, _ => none

/-- The end of a declaration: an optional item on standing alone. -/
def declarationEnd? (encoding : Option String) (item : Option (String × String))
    (s : List Char) : Option Declaration :=
  match item with
  | none => some ⟨encoding, false⟩
  | some ("standalone", "yes") => if skipGap s = [] then some ⟨encoding, true⟩ else none
  | some ("standalone", "no") => if skipGap s = [] then some ⟨encoding, false⟩ else none
  | some _ => none

/-- Reads the items of a declaration. -/
def declaration? (s : List Char) : Option Declaration :=
  match declaredItem? s with
  | some (some ("version", _), s) =>
    match declaredItem? s with
    | some (some ("encoding", name), s) =>
      if (name.toList.head?.map Char.isAlpha).getD false then
        (declaredItem? s).bind fun (item, s) => declarationEnd? (some name) item s
      else none
    | some (item, s) => declarationEnd? none item s
    | none => none
  | _ => none

/-- The number of characters before the end of an instruction. -/
def instructionSize? (s : List Char) : Option Nat :=
  (instructionEnd? s).map fun rest => s.length - rest.length - 2

/-- The declaration that a document begins with and the number of its characters;
`some none` if it has none, `none` if it is malformed. -/
def headDeclaration? (s : List Char) : Option (Option (Declaration × Nat)) :=
  match s with
  | '<' :: '?' :: 'x' :: 'm' :: 'l' :: r =>
    match r with
    | c :: _ =>
      if isNameChar c || c == ':' then some none
      else
        match instructionSize? r with
        | none => none
        | some size => (declaration? (r.take size)).map fun d => some (d, size + 7)
    | [] => none
  | _ => some none

end QuestionBank.Document
