namespace SecretsAdmin

/-- A sequence of bytes, as it stands in a message body. -/
abbrev Octets := List UInt8

namespace Utf8

/-!
# UTF-8

Bytes are divided into pieces: encoded characters, and maximal runs that begin like a character
but do not go on like one. A strict reading accepts no defective run; a lenient one puts the
replacement character in the place of each.
-/

/-- A run of bytes and what it stands for. -/
inductive Piece where
  /-- A well-formed encoding of a character. -/
  | scalar (character : Char)
  /-- Bytes that no character's encoding contains at this place. -/
  | malformed (width : Nat)
  /-- The beginning of an encoding that the end of the bytes cuts off. -/
  | truncated (width : Nat)
  deriving DecidableEq, Repr

/-- An encoding of which some bytes are read and some are still due. -/
structure Pending where
  /-- How many bytes are read. -/
  width : Nat
  /-- How many bytes are due. -/
  due : Nat
  /-- The least byte that may come next. -/
  lowest : Nat
  /-- The greatest byte that may come next. -/
  highest : Nat
  /-- The bits gathered so far. -/
  value : Nat
  deriving DecidableEq, Repr

/-- The pieces found so far, the latest first, and the encoding under way. -/
structure Progress where
  found : List Piece
  pending : Option Pending
  deriving DecidableEq, Repr

/-- Begin a piece with a byte. -/
def Progress.start
    (found : List Piece)
    (byte : Nat) :
    Progress :=
  if byte < 0x80 then
    ⟨.scalar (Char.ofNat byte) :: found, none⟩
  else if byte < 0xC2 then
    ⟨.malformed 1 :: found, none⟩
  else if byte < 0xE0 then
    ⟨found, some ⟨1, 1, 0x80, 0xBF, byte - 0xC0⟩⟩
  else if byte < 0xF0 then
    ⟨found, some ⟨1, 2,
      if byte = 0xE0 then 0xA0 else 0x80,
      if byte = 0xED then 0x9F else 0xBF,
      byte - 0xE0⟩⟩
  else if byte < 0xF5 then
    ⟨found, some ⟨1, 3,
      if byte = 0xF0 then 0x90 else 0x80,
      if byte = 0xF4 then 0x8F else 0xBF,
      byte - 0xF0⟩⟩
  else
    ⟨.malformed 1 :: found, none⟩

/-- Take one more byte into account. -/
def Progress.advance
    (progress : Progress)
    (octet : UInt8) :
    Progress :=
  let byte := octet.toNat
  match progress.pending with
  | none => .start progress.found byte
  | some pending =>
      if pending.lowest ≤ byte ∧ byte ≤ pending.highest then
        let value := pending.value * 64 + (byte - 0x80)
        if pending.due ≤ 1 then
          ⟨.scalar (Char.ofNat value) :: progress.found, none⟩
        else
          ⟨progress.found,
            some ⟨pending.width + 1, pending.due - 1, 0x80, 0xBF, value⟩⟩
      else
        .start (.malformed pending.width :: progress.found) byte

/-- The pieces in order, once no more bytes come. -/
def Progress.finish (progress : Progress) : List Piece :=
  match progress.pending with
  | none => progress.found.reverse
  | some pending => (.truncated pending.width :: progress.found).reverse

/-- Divide bytes into pieces. -/
def pieces (octets : Octets) : List Piece :=
  (octets.foldl Progress.advance ⟨[], none⟩).finish

/-- The first place where bytes are not UTF-8. -/
structure Defect where
  /-- How many bytes before it are well-formed. -/
  validUpTo : Nat
  /-- How many bytes are at fault, or nothing if the end comes too early. -/
  width : Option Nat
  deriving DecidableEq, Repr

/-- A sentence that says where bytes are not UTF-8. -/
def Defect.message (defect : Defect) : String :=
  match defect.width with
  | some width =>
      s!"invalid utf-8 sequence of {width} bytes from index {defect.validUpTo}"
  | none =>
      s!"incomplete utf-8 byte sequence from index {defect.validUpTo}"

/-- Gather the characters of pieces in reverse, up to the first defect. -/
def gather
    (gathered : List Char)
    (offset : Nat) :
    List Piece → Except Defect (List Char)
  | [] => .ok gathered
  | .scalar character :: rest =>
      gather (character :: gathered) (offset + character.utf8Size) rest
  | .malformed width :: _ => .error ⟨offset, some width⟩
  | .truncated _ :: _ => .error ⟨offset, none⟩

/-- The text that bytes encode, or the place of the first defect. -/
def decode (octets : Octets) : Except Defect String :=
  (gather [] 0 (pieces octets)).map fun gathered => String.ofList gathered.reverse

/-- The text that bytes encode, if they are UTF-8. -/
def decode? (octets : Octets) : Option String :=
  (decode octets).toOption

/-- The text of bytes, with the replacement character for every defective run. -/
def decodeLossy (octets : Octets) : String :=
  String.ofList <| (pieces octets).map fun
    | .scalar character => character
    | .malformed _ => '\uFFFD'
    | .truncated _ => '\uFFFD'

/-- The bytes that encode a text. -/
def encode (text : String) : Octets :=
  text.toList.flatMap String.utf8EncodeChar

@[simp] theorem encode_append (left right : String) :
    encode (left ++ right) = encode left ++ encode right := by
  simp [encode]

@[simp] theorem encode_empty : encode "" = [] :=
  rfl

end Utf8

end SecretsAdmin
