import SecretsAdmin.Json.Codec

namespace SecretsAdmin.Model

/-!
# Identifiers

A server numbers clients, groups and secrets with signed whole numbers of 64 bits. The kind of
the object is part of the type, so an identifier of one kind cannot be given for another.
-/

/-- The kinds of objects that a server numbers. -/
inductive Kind where
  | client
  | group
  | secret
  deriving DecidableEq, Repr

/-- The number of an object of one kind. -/
structure Identifier (kind : Kind) where
  number : Int64
  deriving DecidableEq

/-- The number of a client. -/
abbrev ClientId := Identifier .client

/-- The number of a group. -/
abbrev GroupId := Identifier .group

/-- The number of a secret. -/
abbrev SecretId := Identifier .secret

namespace Identifier

variable {kind : Kind}

instance : Inhabited (Identifier kind) := ⟨⟨0⟩⟩

instance : Ord (Identifier kind) where
  compare left right := compare left.number right.number

/-- The decimal digits of an identifier. -/
def text (identifier : Identifier kind) : String :=
  toString identifier.number.toInt

/-- The decimal digits of an identifier after as many blanks as fill a width. -/
def padded
    (identifier : Identifier kind)
    (width : Nat) :
    String :=
  let digits := identifier.text
  String.ofList (List.replicate (width - digits.length) ' ') ++ digits

/-- The title of the identifiers of a kind. -/
def title : Kind → String
  | .client => "ClientId"
  | .group => "GroupId"
  | .secret => "SecretId"

/-- An identifier as it is shown to a developer. -/
def shown (identifier : Identifier kind) : String :=
  title kind ++ "(" ++ identifier.text ++ ")"

/-- Identifiers are written as plain numbers. -/
def codec : Json.Codec (Identifier kind) :=
  Json.Codec.integer.wrap number mk

end Identifier

end SecretsAdmin.Model
