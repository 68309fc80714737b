import SecretsAdmin.Text.Cut
import SecretsAdmin.Url.Percent

namespace SecretsAdmin.Url.Form

/-!
# Form encoding of queries

Pairs of a name and a value, joined by ampersands. A space is written as a plus sign, letters,
digits and four marks as they are, and everything else with percent signs.
-/

/-- Whether a byte stands for itself in a form. -/
def isPlain (octet : UInt8) : Bool :=
  (0x30 ≤ octet && octet ≤ 0x39) ||
    (0x41 ≤ octet && octet ≤ 0x5A) ||
    (0x61 ≤ octet && octet ≤ 0x7A) ||
    octet == 0x2A || octet == 0x2D || octet == 0x2E || octet == 0x5F

/-- A byte in a form. -/
def encodeOctet (octet : UInt8) : List Char :=
  if isPlain octet then [Char.ofNat octet.toNat]
  else if octet = 0x20 then ['+']
  else percentTriple octet

/-- A name or a value in a form. -/
def encodePart (part : String) : List Char :=
  (Utf8.encode part).flatMap encodeOctet

/-- A pair in a form. -/
def encodePair (pair : String × String) : List Char :=
  encodePart pair.1 ++ '=' :: encodePart pair.2

/-- Pairs in a form. -/
def encode (pairs : List (String × String)) : String :=
  String.ofList (['&'].intercalate (pairs.map encodePair))

/-- Read a name or a value; bytes that are not UTF-8 become replacement characters. -/
def decodePart (part : Octets) : String :=
  Utf8.decodeLossy <| percentDecode <| part.map fun octet =>
    if octet = 0x2B then 0x20 else octet

/-- Read a pair; without an equals sign the value is empty. -/
def decodePair (pair : Octets) : String × String :=
  let (name, value) := Text.cutOrWhole 0x3D pair
  (decodePart name, decodePart value)

/-- Read the pairs of a form; nothing between two ampersands is no pair. -/
def decode (form : Octets) : List (String × String) :=
  ((form.splitOn 0x26).filter fun pair => !pair.isEmpty).map decodePair

end SecretsAdmin.Url.Form
