import SecretsAdmin.Text.Cut
import SecretsAdmin.Url.Fault
import SecretsAdmin.Url.Ipv6
import SecretsAdmin.Url.Label
import SecretsAdmin.Url.Percent

namespace SecretsAdmin.Url

/-!
# Hosts

A host is a name, an IPv4 number or the eight groups of an IPv6 address. Under a special scheme a
name is read leniently: percent signs are decoded, letters become small, and a name that ends in
a number has to be an IPv4 address. Under any other scheme a name stays as it is written.
-/

/-- A host. -/
inductive Host where
  | domain (name : String)
  | ipv4 (address : Nat)
  | ipv6 (groups : List Nat)
  deriving DecidableEq, Repr

namespace Host

/-- Whether a character must not occur in a name under a special scheme. -/
def isForbiddenInDomain (character : Char) : Bool :=
  EncodeSet.controls character || " #/:<>?@[\\]^|%".toList.contains character

/-- Whether a character must not occur in a name under another scheme. -/
def isForbidden (character : Char) : Bool :=
  "\x00\t\n\r #/:<>?@[\\]^|".toList.contains character

/--
The name that stands for a domain: without percent signs and in small letters. A name with other
characters than those of ASCII is refused, though its labels could be mapped to ones that begin with
`xn--`. The hosts are the same ones: a mapped name can be written at once.
-/
def domainName? (written : List Char) : Option (List Char) := do
  let decoded ← Utf8.decode? (percentDecode (Utf8.encode (String.ofList written)))
  let name := decoded.toList.map Char.toLower
  if name.any (fun character => isForbiddenInDomain character || 0x80 ≤ character.toNat) then
    none
  else if Label.areValid name then
    some name
  else
    none

/-- Read an IPv6 address after its opening bracket. -/
def parseBracketed (written : List Char) : Except Fault Host :=
  if written.getLast? = some ']' then
    match Ipv6.parse? written.dropLast with
    | some groups => .ok (.ipv6 groups)
    | none => .error .badIpv6
  else
    .error .badIpv6

/-- Read a host under a special scheme. -/
def parseSpecial : List Char → Except Fault Host
  | '[' :: rest => parseBracketed rest
  | written =>
      match domainName? written with
      | none => .error .badDomain
      | some [] => .error .emptyHost
      | some name =>
          if Ipv4.endsInNumber name then
            match Ipv4.parse? name with
            | some address => .ok (.ipv4 address)
            | none => .error .badIpv4
          else
            .ok (.domain (String.ofList name))

/-- Read a host under a scheme that is not special. -/
def parsePlain : List Char → Except Fault Host
  | '[' :: rest => parseBracketed rest
  | written =>
      if written.any isForbidden then
        .error .badHostCharacter
      else
        .ok (.domain (String.ofList (percentEncode .controls written)))

/-- The text of a host. -/
def text : Host → String
  | domain name => name
  | ipv4 address => Ipv4.text address
  | ipv6 groups => "[" ++ Ipv6.text groups ++ "]"

/-- Whether a host is the empty name. -/
def isEmpty (host : Host) : Bool :=
  host == .domain ""

end Host

end SecretsAdmin.Url
