import QuestionBank.Document.Declaration
import QuestionBank.Document.Tree
import QuestionBank.Text.Blank

/-!
# Documents read from bytes

A source is a name and bytes. `read` gives the root of its document, or the reason
why there is none. An encoding that cannot be used at all is an error of its own.
-/

namespace QuestionBank.Document

/-- Where a document comes from. -/
structure Source where
  name : String
  bytes : List UInt8

namespace Source

/-- A document given as text. -/
def ofText (text : String) : Source := ⟨"<string>", text.toUTF8.toList⟩

/-- A document given as bytes. -/
def ofBytes (bytes : List UInt8) : Source := ⟨"<bytes>", bytes⟩

end Source

/-- Tells whether a byte is a blank. -/
def isBlankByte (b : UInt8) : Bool := b == 0x20 || (0x09 ≤ b && b ≤ 0x0D)

/-- The characters of a document after its declaration, and whether it stands alone. -/
def body (bytes : List UInt8) : Except EncodingFault (Except Refusal (List Char × Bool)) :=
  let (units, bytes) := detectUnits bytes
  let chars := units.decode bytes
  match headDeclaration? chars with
  | none => .ok (.error .malformed)
  | some none => .ok (.ok (chars, false))
  | some (some (declaration, size)) =>
    match declaration.encoding with
    | none => .ok (.ok (chars.drop size, declaration.standalone))
    | some name =>
      (namedDecoder units name).map fun decoder =>
        match decoder with
        | none => .error .malformed
        | some decode => .ok (decode (bytes.drop (size * units.width)), declaration.standalone)

/-- Reads what stands before the root, and gives the characters from the root on. -/
def prolog : Nat → Bool → Option Doctype → List Char → Except Refusal (Doctype × List Char)
  | 0, _, _, _ => .error .malformed
  | fuel + 1, standalone, found, s =>
    match skipGap s with
    | '<' :: '!' :: '-' :: '-' :: r =>
      (need (commentRest? r)).bind fun r => prolog fuel standalone found r
    | '<' :: '!' :: r =>
      match found, afterWord? "DOCTYPE" r with
      | none, some r =>
        (doctype standalone r).bind fun (d, r) => prolog fuel standalone (some d) r
      | _, _ => .error .malformed
    | '<' :: '?' :: r =>
      (need (instructionRest? r)).bind fun r => prolog fuel standalone found r
    | s => .ok (found.getD { standalone }, s)

/-- Reads the tree of a document. -/
def tree (standalone : Bool) (s : List Char) : Except Refusal Node :=
  (prolog (s.length + 1) standalone none s).bind fun (d, s) =>
    need ((tokens? s.length s).bind (build? d))

/-- Reads a document from bytes. -/
def read (bytes : List UInt8) : Except EncodingFault (Except Refusal Node) :=
  if bytes.all isBlankByte then .ok (.error .emptySource)
  else
    (body bytes).map fun chars =>
      chars.bind fun (s, standalone) =>
        (tree standalone s).bind fun root =>
          if root.children.isEmpty && Text.allBlank root.text then .error .noContent
          else .ok root

/-- The questions of a document: the root itself, or the children of that name. -/
def Node.questions (root : Node) : List Node :=
  if root.name == "QUESTION" then [root] else root.childrenNamed "QUESTION"

end QuestionBank.Document
