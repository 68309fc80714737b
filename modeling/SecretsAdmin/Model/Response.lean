import SecretsAdmin.Model.Identifier

namespace SecretsAdmin.Model

/-!
# Responses

What a server tells about clients, groups and secrets. Only the identifier and the name are
required; every other field has a default, so that servers that tell less are still understood.
-/

open Json (Codec Field Schema)

/-- A text that a server may leave out. -/
def optionalText : Codec (Option String) := Codec.text.optional

/-- A client of the secrets that a server keeps. -/
structure Client where
  id : ClientId
  name : String
  description : Option String := none
  createdAt : Option String := none
  updatedAt : Option String := none
  createdBy : Option String := none
  updatedBy : Option String := none
  lastSeen : Option String := none
  enabled : Bool := true
  automationAllowed : Bool := false
  deriving DecidableEq

/-- The fields of clients. -/
def Client.schema : Schema Client where
  title := "Client"
  blank := { id := default, name := "" }
  fields := [
    .of "id" .required Identifier.codec (·.id) (fun value client =>
      { client with id := value }),
    .of "name" .required .text (·.name) (fun value client =>
      { client with name := value }),
    .of "description" .defaulted optionalText (·.description) (fun value client =>
      { client with description := value }),
    .of "createdAt" .defaulted optionalText (·.createdAt) (fun value client =>
      { client with createdAt := value }),
    .of "updatedAt" .defaulted optionalText (·.updatedAt) (fun value client =>
      { client with updatedAt := value }),
    .of "createdBy" .defaulted optionalText (·.createdBy) (fun value client =>
      { client with createdBy := value }),
    .of "updatedBy" .defaulted optionalText (·.updatedBy) (fun value client =>
      { client with updatedBy := value }),
    .of "lastSeen" .defaulted optionalText (·.lastSeen) (fun value client =>
      { client with lastSeen := value }),
    .of "enabled" .defaulted .boolean (·.enabled) (fun value client =>
      { client with enabled := value }),
    .of "automationAllowed" .defaulted .boolean (·.automationAllowed) (fun value client =>
      { client with automationAllowed := value })]

/-- The codec of clients. -/
def Client.codec : Codec Client := schema.codec

/-- A group, which connects clients with secrets. -/
structure Group where
  id : GroupId
  name : String
  description : Option String := none
  createdAt : Option String := none
  updatedAt : Option String := none
  createdBy : Option String := none
  updatedBy : Option String := none
  metadata : OrderedMap String String := .empty
  deriving DecidableEq

/-- The fields of groups. -/
def Group.schema : Schema Group where
  title := "Group"
  blank := { id := default, name := "" }
  fields := [
    .of "id" .required Identifier.codec (·.id) (fun value group =>
      { group with id := value }),
    .of "name" .required .text (·.name) (fun value group =>
      { group with name := value }),
    .of "description" .defaulted optionalText (·.description) (fun value group =>
      { group with description := value }),
    .of "createdAt" .defaulted optionalText (·.createdAt) (fun value group =>
      { group with createdAt := value }),
    .of "updatedAt" .defaulted optionalText (·.updatedAt) (fun value group =>
      { group with updatedAt := value }),
    .of "createdBy" .defaulted optionalText (·.createdBy) (fun value group =>
      { group with createdBy := value }),
    .of "updatedBy" .defaulted optionalText (·.updatedBy) (fun value group =>
      { group with updatedBy := value }),
    .of "metadata" .defaulted .dictionary (·.metadata) (fun value group =>
      { group with metadata := value })]

/-- The codec of groups. -/
def Group.codec : Codec Group := schema.codec

/-- A secret without its content. -/
structure Secret where
  id : SecretId
  name : String
  description : Option String := none
  version : Option String := none
  createdAt : Option String := none
  createdBy : Option String := none
  updatedAt : Option String := none
  updatedBy : Option String := none
  metadata : OrderedMap String String := .empty
  secretType : Option String := none
  generationOptions : OrderedMap String String := .empty
  deriving DecidableEq

/-- The fields of secrets. -/
def Secret.schema : Schema Secret where
  title := "SanitizedSecret"
  blank := { id := default, name := "" }
  fields := [
    .of "id" .required Identifier.codec (·.id) (fun value secret =>
      { secret with id := value }),
    .of "name" .required .text (·.name) (fun value secret =>
      { secret with name := value }),
    .of "description" .defaulted optionalText (·.description) (fun value secret =>
      { secret with description := value }),
    .of "version" .defaulted optionalText (·.version) (fun value secret =>
      { secret with version := value }),
    .of "createdAt" .defaulted optionalText (·.createdAt) (fun value secret =>
      { secret with createdAt := value }),
    .of "createdBy" .defaulted optionalText (·.createdBy) (fun value secret =>
      { secret with createdBy := value }),
    .of "updatedAt" .defaulted optionalText (·.updatedAt) (fun value secret =>
      { secret with updatedAt := value }),
    .of "updatedBy" .defaulted optionalText (·.updatedBy) (fun value secret =>
      { secret with updatedBy := value }),
    .of "metadata" .defaulted .dictionary (·.metadata) (fun value secret =>
      { secret with metadata := value }),
    .of "type" .defaulted optionalText (·.secretType) (fun value secret =>
      { secret with secretType := value }),
    .of "generationOptions" .defaulted .dictionary (·.generationOptions) (fun value secret =>
      { secret with generationOptions := value })]

/-- The codec of secrets. -/
def Secret.codec : Codec Secret := schema.codec

/-- A group with its secrets and clients. -/
structure GroupDetail where
  id : GroupId
  name : String
  description : Option String := none
  creationDate : Option String := none
  updateDate : Option String := none
  createdBy : Option String := none
  updatedBy : Option String := none
  secrets : List Secret := []
  clients : List Client := []
  deriving DecidableEq

/-- The fields of details of groups. -/
def GroupDetail.schema : Schema GroupDetail where
  title := "GroupDetailResponse"
  blank := { id := default, name := "" }
  fields := [
    .of "id" .required Identifier.codec (·.id) (fun value detail =>
      { detail with id := value }),
    .of "name" .required .text (·.name) (fun value detail =>
      { detail with name := value }),
    .of "description" .defaulted optionalText (·.description) (fun value detail =>
      { detail with description := value }),
    .of "creationDate" .defaulted optionalText (·.creationDate) (fun value detail =>
      { detail with creationDate := value }),
    .of "updateDate" .defaulted optionalText (·.updateDate) (fun value detail =>
      { detail with updateDate := value }),
    .of "createdBy" .defaulted optionalText (·.createdBy) (fun value detail =>
      { detail with createdBy := value }),
    .of "updatedBy" .defaulted optionalText (·.updatedBy) (fun value detail =>
      { detail with updatedBy := value }),
    .of "secrets" .defaulted Secret.schema.codec.array (·.secrets) (fun value detail =>
      { detail with secrets := value }),
    .of "clients" .defaulted Client.schema.codec.array (·.clients) (fun value detail =>
      { detail with clients := value })]

/-- The codec of details of groups. -/
def GroupDetail.codec : Codec GroupDetail := schema.codec

/-- A client with its groups and the secrets that it can read. -/
structure ClientDetail where
  id : ClientId
  name : String
  description : Option String := none
  creationDate : Option String := none
  updateDate : Option String := none
  createdBy : Option String := none
  updatedBy : Option String := none
  groups : List Group := []
  secrets : List Secret := []
  deriving DecidableEq

/-- The fields of details of clients. -/
def ClientDetail.schema : Schema ClientDetail where
  title := "ClientDetailResponse"
  blank := { id := default, name := "" }
  fields := [
    .of "id" .required Identifier.codec (·.id) (fun value detail =>
      { detail with id := value }),
    .of "name" .required .text (·.name) (fun value detail =>
      { detail with name := value }),
    .of "description" .defaulted optionalText (·.description) (fun value detail =>
      { detail with description := value }),
    .of "creationDate" .defaulted optionalText (·.creationDate) (fun value detail =>
      { detail with creationDate := value }),
    .of "updateDate" .defaulted optionalText (·.updateDate) (fun value detail =>
      { detail with updateDate := value }),
    .of "createdBy" .defaulted optionalText (·.createdBy) (fun value detail =>
      { detail with createdBy := value }),
    .of "updatedBy" .defaulted optionalText (·.updatedBy) (fun value detail =>
      { detail with updatedBy := value }),
    .of "groups" .defaulted Group.schema.codec.array (·.groups) (fun value detail =>
      { detail with groups := value }),
    .of "secrets" .defaulted Secret.schema.codec.array (·.secrets) (fun value detail =>
      { detail with secrets := value })]

/-- The codec of details of clients. -/
def ClientDetail.codec : Codec ClientDetail := schema.codec

/-- A secret with its groups and the clients that can read it. -/
structure SecretDetail where
  id : SecretId
  name : String
  description : Option String := none
  createdAt : Option String := none
  createdBy : Option String := none
  updatedAt : Option String := none
  updatedBy : Option String := none
  metadata : OrderedMap String String := .empty
  groups : List Group := []
  clients : List Client := []
  deriving DecidableEq

/-- The fields of details of secrets. -/
def SecretDetail.schema : Schema SecretDetail where
  title := "SecretDetailResponse"
  blank := { id := default, name := "" }
  fields := [
    .of "id" .required Identifier.codec (·.id) (fun value detail =>
      { detail with id := value }),
    .of "name" .required .text (·.name) (fun value detail =>
      { detail with name := value }),
    .of "description" .defaulted optionalText (·.description) (fun value detail =>
      { detail with description := value }),
    .of "createdAt" .defaulted optionalText (·.createdAt) (fun value detail =>
      { detail with createdAt := value }),
    .of "createdBy" .defaulted optionalText (·.createdBy) (fun value detail =>
      { detail with createdBy := value }),
    .of "updatedAt" .defaulted optionalText (·.updatedAt) (fun value detail =>
      { detail with updatedAt := value }),
    .of "updatedBy" .defaulted optionalText (·.updatedBy) (fun value detail =>
      { detail with updatedBy := value }),
    .of "metadata" .defaulted .dictionary (·.metadata) (fun value detail =>
      { detail with metadata := value }),
    .of "groups" .defaulted Group.schema.codec.array (·.groups) (fun value detail =>
      { detail with groups := value }),
    .of "clients" .defaulted Client.schema.codec.array (·.clients) (fun value detail =>
      { detail with clients := value })]

/-- The codec of details of secrets. -/
def SecretDetail.codec : Codec SecretDetail := schema.codec

end SecretsAdmin.Model
