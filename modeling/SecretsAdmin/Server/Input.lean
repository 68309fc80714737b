import SecretsAdmin.Json.Codec

namespace SecretsAdmin.Server

/-!
# Inputs

What the server reads from the bodies of requests.
-/

open Json (Codec Field Schema)

/-- The credentials of a login. -/
structure LoginInput where
  username : String
  password : String
  deriving DecidableEq

/-- The fields of credentials. -/
def LoginInput.schema : Schema LoginInput where
  title := "LoginRequest"
  blank := { username := "", password := "" }
  fields := [
    .of "username" .required .text (·.username) (fun value credentials =>
      { credentials with username := value }),
    .of "password" .required .text (·.password) (fun value credentials =>
      { credentials with password := value })]

/-- The codec of credentials. -/
def LoginInput.codec : Codec LoginInput := schema.codec

/-- The wish for a new group. -/
structure GroupInput where
  name : String
  description : String := ""
  deriving DecidableEq

/-- The fields of wishes for new groups. -/
def GroupInput.schema : Schema GroupInput where
  title := "CreateGroup"
  blank := { name := "" }
  fields := [
    .of "name" .required .text (·.name) (fun value input =>
      { input with name := value }),
    .of "description" .defaulted .text (·.description) (fun value input =>
      { input with description := value })]

/-- The codec of wishes for new groups. -/
def GroupInput.codec : Codec GroupInput := schema.codec

/-- The wish for a new client. -/
structure ClientInput where
  name : String
  deriving DecidableEq

/-- The fields of wishes for new clients. -/
def ClientInput.schema : Schema ClientInput where
  title := "CreateClient"
  blank := { name := "" }
  fields := [
    .of "name" .required .text (·.name) (fun value _ => { name := value })]

/-- The codec of wishes for new clients. -/
def ClientInput.codec : Codec ClientInput := schema.codec

/-- The wish for a new secret, with its content in base64. -/
structure SecretInput where
  name : String
  description : String := ""
  content : String
  withVersion : Bool := false
  metadata : OrderedMap String String := .empty
  deriving DecidableEq

/-- The fields of wishes for new secrets. -/
def SecretInput.schema : Schema SecretInput where
  title := "CreateSecret"
  blank := { name := "", content := "" }
  fields := [
    .of "name" .required .text (·.name) (fun value input =>
      { input with name := value }),
    .of "description" .defaulted .text (·.description) (fun value input =>
      { input with description := value }),
    .of "content" .required .text (·.content) (fun value input =>
      { input with content := value }),
    .of "withVersion" .defaulted .boolean (·.withVersion) (fun value input =>
      { input with withVersion := value }),
    .of "metadata" .defaulted .dictionary (·.metadata) (fun value input =>
      { input with metadata := value })]

/-- The codec of wishes for new secrets. -/
def SecretInput.codec : Codec SecretInput := schema.codec

/-- The parameters of the generator that fills in a template. -/
structure TemplateInput where
  name : String
  description : String := ""
  template : Option String := none
  deriving DecidableEq

/-- The fields of parameters of a generator. -/
def TemplateInput.schema : Schema TemplateInput where
  title := "TemplatedParams"
  blank := { name := "" }
  fields := [
    .of "name" .required .text (·.name) (fun value input =>
      { input with name := value }),
    .of "description" .defaulted .text (·.description) (fun value input =>
      { input with description := value }),
    .of "template" .defaulted Codec.text.optional (·.template) (fun value input =>
      { input with template := value })]

/-- The codec of parameters of a generator. -/
def TemplateInput.codec : Codec TemplateInput := schema.codec

/-- A text where a member is absent: the default. -/
def textOr
    (default : String) :
    Option Json → Option String
  | none => some default
  | some (.text value) => some value
  | some _ => none

/-- A text, `null` or nothing. -/
def textOrNull : Option Json → Option (Option String)
  | none => some none
  | some .null => some none
  | some (.text value) => some (some value)
  | some _ => none

/--
The parameters that a document describes, if it does: an object with a name, or an array that
begins with a name and has no more elements than the parameters have fields.
-/
def TemplateInput.ofJson? : Json → Option TemplateInput
  | .object members => do
      let find (name : String) := (Json.object members).member? name
      let name ← (← find "name").text?
      let description ← textOr "" (find "description")
      let template ← textOrNull (find "template")
      return { name, description, template }
  | .array elements => do
      if 3 < elements.length then
        none
      let name ← (← elements[0]?).text?
      let description ← textOr "" elements[1]?
      let template ← textOrNull elements[2]?
      return { name, description, template }
  | _ => none

end SecretsAdmin.Server
