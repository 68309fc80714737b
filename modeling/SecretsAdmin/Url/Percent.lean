import SecretsAdmin.Text.Hex
import SecretsAdmin.Text.Utf8

namespace SecretsAdmin.Url

/-!
# Percent-encoding

A character of an encode set, and every character outside ASCII, is written as its UTF-8 bytes
with a percent sign and two digits for each. Every part of an address has an encode set.
-/

/-- The ASCII characters that a part of an address does not show as they are. -/
abbrev EncodeSet := Char → Bool

namespace EncodeSet

/-- A set together with the characters of a text. -/
def adding
    (set : EncodeSet)
    (more : String) :
    EncodeSet :=
  fun character => set character || more.toList.contains character

/-- Control characters. -/
def controls : EncodeSet := fun character =>
  character.toNat < 0x20 || character.toNat == 0x7F

/-- The set of fragments. -/
def fragment : EncodeSet := controls.adding " \"<>`"

/-- The set of queries. -/
def query : EncodeSet := controls.adding " \"#<>"

/-- The set of queries under a special scheme. -/
def specialQuery : EncodeSet := query.adding "'"

/-- The set of paths. -/
def path : EncodeSet := fragment.adding "#?\x7b\x7d"

/-- The set of single segments of a path. -/
def segment : EncodeSet := path.adding "/%"

/-- The set of single segments under a special scheme, where a backslash divides too. -/
def specialSegment : EncodeSet := segment.adding "\\"

/-- The set of names and passwords. -/
def userinfo : EncodeSet := path.adding "/:;=@[\\]^|"

end EncodeSet

/-- A byte as a percent sign and two digits. -/
def percentTriple (octet : UInt8) : List Char :=
  ['%', Hex.upperDigit (octet.toNat / 16), Hex.upperDigit (octet.toNat % 16)]

/-- A character under an encode set. -/
def percentCharacter
    (set : EncodeSet)
    (character : Char) :
    List Char :=
  if character.toNat < 0x80 && !set character then
    [character]
  else
    (String.utf8EncodeChar character).flatMap percentTriple

/-- Encode a list of characters under an encode set. -/
def percentEncode
    (set : EncodeSet)
    (characters : List Char) :
    List Char :=
  characters.flatMap (percentCharacter set)

/-- Put the bytes that a text encodes in front of those found so far, the latest first. -/
def percentDecodeOnto (found : Octets) : Octets → Octets
  | 0x25 :: first :: second :: rest =>
      match Hex.value? first.toNat, Hex.value? second.toNat with
      | some high, some low =>
          percentDecodeOnto (UInt8.ofNat (high * 16 + low) :: found) rest
      | _, _ => percentDecodeOnto (0x25 :: found) (first :: second :: rest)
  | octet :: rest => percentDecodeOnto (octet :: found) rest
  | [] => found

/-- Replace every percent sign that two digits follow by the byte that they stand for. -/
def percentDecode (octets : Octets) : Octets :=
  (percentDecodeOnto [] octets).reverse

end SecretsAdmin.Url
