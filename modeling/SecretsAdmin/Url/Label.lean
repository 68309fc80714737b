import SecretsAdmin.Unicode.Bidi
import SecretsAdmin.Unicode.Composition
import SecretsAdmin.Unicode.Joining
import SecretsAdmin.Unicode.Validity
import SecretsAdmin.Url.Punycode

namespace SecretsAdmin.Url.Label

/-!
# Labels of host names

A host name consists of labels with dots between them. A label that is marked as encoded has to
encode characters that a label may hold, in composed form and in an order in which they can be
shown; and if a name holds characters from right to left, all its labels have one direction.
-/

/-- The greatest number of digits and characters of an encoded label, and of those it encodes. -/
def greatestEncoded : Nat := 2000

@[inherit_doc greatestEncoded]
def greatestDecoded : Nat := 1000

/-- Whether characters may have been encoded as a label: one at least is outside ASCII. -/
def isEncodable (codes : List Nat) : Bool :=
  codes.any (0x80 ≤ ·) &&
    codes.length ≤ greatestDecoded &&
    codes.all Unicode.isValidInLabel &&
    !codes.head?.any Unicode.isMark &&
    Unicode.isComposed codes &&
    Unicode.areJoinersPlaced [] codes

/-- The characters that a label stands for, unless it is encoded and the encoding is no good. -/
def codes? : (label : List Char) → Option (List Nat)
  | 'x' :: 'n' :: '-' :: '-' :: encoded => do
      if greatestEncoded < encoded.length then
        none
      let codes ← Punycode.decode? encoded
      if isEncodable codes then some codes else none
  | label => some (label.map Char.toNat)

/-- Whether no character is written from right to left, or all labels have one direction. -/
def areShowable (labels : List (List Nat)) : Bool :=
  let isBackward (code : Nat) : Bool :=
    0x80 ≤ code && (Unicode.Direction.of code).isBackward
  !labels.any (·.any isBackward) || labels.all Unicode.hasOneDirection

/-- Whether all labels of a name in ASCII are good. -/
def areValid (name : List Char) : Bool :=
  match (name.splitOn '.').mapM codes? with
  | some labels => areShowable labels
  | none => false

end SecretsAdmin.Url.Label
