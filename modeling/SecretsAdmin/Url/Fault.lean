namespace SecretsAdmin.Url

/-!
# Faults of addresses

Why a text is no address, or no address to which paths can be added.
-/

/-- What is wrong with an address. -/
inductive Fault where
  | emptyHost
  | badDomain
  | badPort
  | badIpv4
  | badIpv6
  | badHostCharacter
  /-- There is no scheme, so the address is relative. -/
  | relative
  /-- The address parses, but paths cannot be added to it. -/
  | baseless
  deriving DecidableEq, Repr

/-- The words for a fault. -/
def Fault.words : Fault → String
  | emptyHost => "empty host"
  | badDomain => "invalid international domain name"
  | badPort => "invalid port number"
  | badIpv4 => "invalid IPv4 address"
  | badIpv6 => "invalid IPv6 address"
  | badHostCharacter => "invalid domain character"
  | relative => "relative URL without a base"
  | baseless => "relative URL with a cannot-be-a-base base"

end SecretsAdmin.Url
