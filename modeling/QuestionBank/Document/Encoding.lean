import QuestionBank.Document.CodePage
import QuestionBank.Text.Case

/-!
# Bytes read as characters

A document begins in an encoding that its first bytes show: two-byte units in
either order, or single bytes. Its declaration may name another encoding for
what follows. Where the bytes make no character that a document may hold, the
characters end with the mark `broken`, which is legal nowhere.
-/

namespace QuestionBank.Document

/-- The mark of a place where bytes make no legal character. -/
def broken : Char := '\x00'

/-- Tells whether a document may hold the character with a code. -/
def isLegalCode (n : Nat) : Bool :=
  (0x20 ≤ n || n == 0x9 || n == 0xA || n == 0xD) && !(0xD800 ≤ n && n ≤ 0xDFFF)
    && n != 0xFFFE && n != 0xFFFF && n ≤ 0x10FFFF

/-- Puts the character with a code in front, or marks the place as broken. -/
def consCode (n : Nat) (rest : List Char) : List Char :=
  if isLegalCode n then Char.ofNat n :: rest else [broken]

/-- Tells whether a byte continues a character of several bytes. -/
def isContinuation (b : UInt8) : Bool := 0x80 ≤ b && b < 0xC0

/-- The six bits that a continuation byte adds to a code. -/
def addBits (n : Nat) (b : UInt8) : Nat := n * 0x40 + b.toNat % 0x40

/-- Bytes as UTF-8. -/
def utf8 : List UInt8 → List Char
  | [] => []
  | a :: r =>
    if a < 0x80 then consCode a.toNat (utf8 r)
    else
      match r with
      | [] => [broken]
      | b :: r =>
        if !isContinuation b then [broken]
        else if 0xC2 ≤ a && a < 0xE0 then consCode (addBits (a.toNat % 0x20) b) (utf8 r)
        else
          match r with
          | [] => [broken]
          | c :: r =>
            if !isContinuation c then [broken]
            else if 0xE0 ≤ a && a < 0xF0 then
              if a == 0xE0 && b < 0xA0 then [broken]
              else consCode (addBits (addBits (a.toNat % 0x10) b) c) (utf8 r)
            else
              match r with
              | [] => [broken]
              | d :: r =>
                if !isContinuation d || a < 0xF0 || 0xF4 < a || (a == 0xF0 && b < 0x90) then
                  [broken]
                else consCode (addBits (addBits (addBits (a.toNat % 8) b) c) d) (utf8 r)

/-- Bytes in pairs as UTF-16. A leading half takes the next unit for the other half. -/
def utf16 (bigEndian : Bool) : List UInt8 → List Char
  | [] => []
  | [_] => [broken]
  | a :: b :: r =>
    let unit := if bigEndian then a.toNat * 0x100 + b.toNat else b.toNat * 0x100 + a.toNat
    if 0xD800 ≤ unit && unit ≤ 0xDBFF then
      match r with
      | c :: d :: r =>
        let other := if bigEndian then c.toNat * 0x100 + d.toNat else d.toNat * 0x100 + c.toNat
        consCode (0x10000 + unit % 0x400 * 0x400 + other % 0x400) (utf16 bigEndian r)
      | _ => [broken]
    else consCode unit (utf16 bigEndian r)

/-- Bytes as a page of 256 characters: ASCII and the given upper half. -/
def page (upper : List Char) (bytes : List UInt8) : List Char :=
  bytes.foldr (fun b rest =>
    if b < 0x80 then consCode b.toNat rest
    else
      let c := upper.getD (b.toNat - 0x80) '\ufffd'
      if c = '\ufffd' then [broken] else consCode c.toNat rest) []

/-- The upper half of the page whose bytes are the first 256 code points. -/
def latinHalf : List Char := (List.range 0x80).map fun i => Char.ofNat (0x80 + i)

/-- How bytes are grouped into units. -/
inductive Units where
  | single
  | double (bigEndian : Bool)
  deriving DecidableEq

/-- How many bytes an ASCII character takes. -/
def Units.width : Units → Nat
  | single => 1
  | double _ => 2

/-- Bytes as characters, before an encoding is named. -/
def Units.decode : Units → List UInt8 → List Char
  | single => utf8
  | double bigEndian => utf16 bigEndian

/-- The units that the first bytes of a document show, and the bytes after a
byte-order mark. -/
def detectUnits : List UInt8 → Units × List UInt8
  | 0xFE :: 0xFF :: r => (.double true, r)
  | 0xFF :: 0xFE :: r => (.double false, r)
  | 0xEF :: 0xBB :: 0xBF :: r => (.single, r)
  | 0x00 :: b :: r => (.double true, 0x00 :: b :: r)
  | a :: 0x00 :: r => (.double false, a :: 0x00 :: r)
  | bytes => (.single, bytes)

/-- Why a named encoding cannot be used at all. -/
inductive EncodingFault where
  | unknown (name : String)
  | notText (name : String)
  | severalBytes
  deriving DecidableEq

/-- The wording of an encoding fault. -/
def EncodingFault.message : EncodingFault → String
  | unknown name => "unknown encoding: " ++ name
  | notText name =>
    "'" ++ name ++ "' is not a text encoding; use codecs.decode() to handle arbitrary codecs"
  | severalBytes => "multi-byte encodings are not supported"

/-- The registered form of an encoding name: lower case, and one underscore for
other signs between letters, digits and points. -/
def registeredName : Bool → List Char → List Char
  | _, [] => []
  | gap, c :: r =>
    if c.isAlphanum || c == '.' then
      (if gap then ['_'] else []) ++ c.toLower :: registeredName false r
    else registeredName true r

/-- The decoder of an encoding that is known by name only; `none` if its lower half is
not ASCII. -/
def registeredDecoder (name : String) :
    Except EncodingFault (Option (List UInt8 → List Char)) :=
  let registered := String.ofList (registeredName false name.toList)
  let undotted := String.ofList (registered.toList.map fun c => if c = '.' then '_' else c)
  let isIn (names : List String) : Bool := names.contains registered || names.contains undotted
  if isIn CodePage.asciiNames then .ok (some (page []))
  else if isIn CodePage.latinNames then .ok (some (page latinHalf))
  else if isIn CodePage.incompatibleNames then .ok none
  else if isIn CodePage.multiByteNames then .error .severalBytes
  else if isIn CodePage.binaryNames then .error (.notText name)
  else
    match CodePage.tables.find? fun table => isIn table.1 with
    | some (_, upper) => .ok (some (page upper.toList))
    | none => .error (.unknown name)

/-- The decoder of a named encoding for bytes in the given units; `none` if the
encoding does not agree with them. -/
def namedDecoder (units : Units) (name : String) :
    Except EncodingFault (Option (List UInt8 → List Char)) :=
  let isSingle := units = .single
  match Text.upperAscii name with
  | "ISO-8859-1" => .ok (if isSingle then some (page latinHalf) else none)
  | "US-ASCII" => .ok (if isSingle then some (page []) else none)
  | "UTF-8" => .ok (if isSingle then some utf8 else none)
  | "UTF-16" => .ok (if isSingle then none else some units.decode)
  | "UTF-16BE" => .ok (if units = .double true then some units.decode else none)
  | "UTF-16LE" => .ok (if units = .double false then some units.decode else none)
  | _ => (registeredDecoder name).map fun decoder => if isSingle then decoder else none

end QuestionBank.Document
