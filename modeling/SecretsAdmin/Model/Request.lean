import SecretsAdmin.Json.Codec

namespace SecretsAdmin.Model

/-!
# Request payloads

What a client sends to log in and to create objects.
-/

open Json (Codec Field Schema)

/-- The credentials of a login. -/
structure Login where
  username : String
  password : String
  deriving DecidableEq, Repr

namespace Login

/-- The fields of a login. -/
def schema : Schema Login where
  title := "LoginRequest"
  blank := ⟨"", ""⟩
  fields := [
    .of "username" .required .text (·.username) (fun value login =>
      { login with username := value }),
    .of "password" .required .text (·.password) (fun value login =>
      { login with password := value })]

/-- The codec of logins. -/
def codec : Codec Login := schema.codec

/-- A login as it is shown to a developer, without its password. -/
def shown (login : Login) : String :=
  "LoginRequest \x7b username: " ++ Text.quoted login.username ++
    ", password: \"<redacted>\" \x7d"

end Login

/-- The wish for a new group. -/
structure NewGroup where
  name : String
  description : String
  deriving DecidableEq, Repr

/-- The fields of the wish for a new group. -/
def NewGroup.schema : Schema NewGroup where
  title := "CreateGroupRequest"
  blank := ⟨"", ""⟩
  fields := [
    .of "name" .required .text (·.name) (fun value group =>
      { group with name := value }),
    .of "description" .required .text (·.description) (fun value group =>
      { group with description := value })]

/-- The codec of wishes for new groups. -/
def NewGroup.codec : Codec NewGroup := schema.codec

/-- The wish for a new client. -/
structure NewClient where
  name : String
  deriving DecidableEq, Repr

/-- The fields of the wish for a new client. -/
def NewClient.schema : Schema NewClient where
  title := "CreateClientRequest"
  blank := ⟨""⟩
  fields := [
    .of "name" .required .text (·.name) (fun value _ => { name := value })]

/-- The codec of wishes for new clients. -/
def NewClient.codec : Codec NewClient := schema.codec

/-- The wish for a new secret. -/
structure NewSecret where
  name : String
  description : String
  /-- The bytes of the secret in base64. -/
  content : String
  withVersion : Bool
  metadata : OrderedMap String String
  deriving DecidableEq

/-- The fields of the wish for a new secret. -/
def NewSecret.schema : Schema NewSecret where
  title := "CreateSecretRequest"
  blank := ⟨"", "", "", false, .empty⟩
  fields := [
    .of "name" .required .text (·.name) (fun value secret =>
      { secret with name := value }),
    .of "description" .required .text (·.description) (fun value secret =>
      { secret with description := value }),
    .of "content" .required .text (·.content) (fun value secret =>
      { secret with content := value }),
    .of "withVersion" .required .boolean (·.withVersion) (fun value secret =>
      { secret with withVersion := value }),
    .of "metadata" .required .dictionary (·.metadata) (fun value secret =>
      { secret with metadata := value })]

/-- The codec of wishes for new secrets. -/
def NewSecret.codec : Codec NewSecret := schema.codec

end SecretsAdmin.Model
