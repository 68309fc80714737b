import SecretsAdmin.Json.Codec

namespace SecretsAdmin.Server

/-!
# Records and details

What the server stores about clients, groups and secrets, and the details that it computes from
its store. All of them have every field, except that an unversioned secret has no version.
-/

open Json (Codec Field Schema)

/-- A stored client. -/
structure Client where
  id : Int64
  name : String
  description : String
  createdBy : String
  enabled : Bool
  automationAllowed : Bool
  deriving DecidableEq

/-- The fields of stored clients. -/
def Client.schema : Schema Client where
  title := "Client"
  blank := ⟨0, "", "", "", false, false⟩
  fields := [
    .of "id" .required .integer (·.id) (fun value client =>
      { client with id := value }),
    .of "name" .required .text (·.name) (fun value client =>
      { client with name := value }),
    .of "description" .required .text (·.description) (fun value client =>
      { client with description := value }),
    .of "createdBy" .required .text (·.createdBy) (fun value client =>
      { client with createdBy := value }),
    .of "enabled" .required .boolean (·.enabled) (fun value client =>
      { client with enabled := value }),
    .of "automationAllowed" .required .boolean (·.automationAllowed) (fun value client =>
      { client with automationAllowed := value })]

/-- The codec of stored clients. -/
def Client.codec : Codec Client := schema.codec

/-- A stored group. -/
structure Group where
  id : Int64
  name : String
  description : String
  createdBy : String
  deriving DecidableEq

/-- The fields of stored groups. -/
def Group.schema : Schema Group where
  title := "Group"
  blank := ⟨0, "", "", ""⟩
  fields := [
    .of "id" .required .integer (·.id) (fun value group =>
      { group with id := value }),
    .of "name" .required .text (·.name) (fun value group =>
      { group with name := value }),
    .of "description" .required .text (·.description) (fun value group =>
      { group with description := value }),
    .of "createdBy" .required .text (·.createdBy) (fun value group =>
      { group with createdBy := value })]

/-- The codec of stored groups. -/
def Group.codec : Codec Group := schema.codec

/-- A stored secret; its content is not kept. -/
structure Secret where
  id : Int64
  name : String
  description : String
  version : Option String
  createdBy : String
  metadata : OrderedMap String String
  deriving DecidableEq

/-- The fields of stored secrets. -/
def Secret.schema : Schema Secret where
  title := "SanitizedSecret"
  blank := ⟨0, "", "", none, "", .empty⟩
  fields := [
    .of "id" .required .integer (·.id) (fun value secret =>
      { secret with id := value }),
    .of "name" .required .text (·.name) (fun value secret =>
      { secret with name := value }),
    .of "description" .required .text (·.description) (fun value secret =>
      { secret with description := value }),
    .omittable "version" .nullable .text (·.version) (fun value secret =>
      { secret with version := value }),
    .of "createdBy" .required .text (·.createdBy) (fun value secret =>
      { secret with createdBy := value }),
    .of "metadata" .required .dictionary (·.metadata) (fun value secret =>
      { secret with metadata := value })]

/-- The codec of stored secrets. -/
def Secret.codec : Codec Secret := schema.codec

/-- A group with the secrets and the clients in it. -/
structure GroupDetail where
  id : Int64
  name : String
  description : String
  createdBy : String
  secrets : List Secret
  clients : List Client
  deriving DecidableEq

/-- The fields of group details. -/
def GroupDetail.schema : Schema GroupDetail where
  title := "GroupDetail"
  blank := ⟨0, "", "", "", [], []⟩
  fields := [
    .of "id" .required .integer (·.id) (fun value detail =>
      { detail with id := value }),
    .of "name" .required .text (·.name) (fun value detail =>
      { detail with name := value }),
    .of "description" .required .text (·.description) (fun value detail =>
      { detail with description := value }),
    .of "createdBy" .required .text (·.createdBy) (fun value detail =>
      { detail with createdBy := value }),
    .of "secrets" .required Secret.schema.codec.array (·.secrets) (fun value detail =>
      { detail with secrets := value }),
    .of "clients" .required Client.schema.codec.array (·.clients) (fun value detail =>
      { detail with clients := value })]

/-- The codec of group details. -/
def GroupDetail.codec : Codec GroupDetail := schema.codec

/-- A client with its groups and the secrets in them. -/
structure ClientDetail where
  id : Int64
  name : String
  description : String
  createdBy : String
  groups : List Group
  secrets : List Secret
  deriving DecidableEq

/-- The fields of client details. -/
def ClientDetail.schema : Schema ClientDetail where
  title := "ClientDetail"
  blank := ⟨0, "", "", "", [], []⟩
  fields := [
    .of "id" .required .integer (·.id) (fun value detail =>
      { detail with id := value }),
    .of "name" .required .text (·.name) (fun value detail =>
      { detail with name := value }),
    .of "description" .required .text (·.description) (fun value detail =>
      { detail with description := value }),
    .of "createdBy" .required .text (·.createdBy) (fun value detail =>
      { detail with createdBy := value }),
    .of "groups" .required Group.schema.codec.array (·.groups) (fun value detail =>
      { detail with groups := value }),
    .of "secrets" .required Secret.schema.codec.array (·.secrets) (fun value detail =>
      { detail with secrets := value })]

/-- The codec of client details. -/
def ClientDetail.codec : Codec ClientDetail := schema.codec

/-- A secret with its groups and the clients in them. -/
structure SecretDetail where
  id : Int64
  name : String
  description : String
  createdBy : String
  metadata : OrderedMap String String
  groups : List Group
  clients : List Client
  deriving DecidableEq

/-- The fields of secret details. -/
def SecretDetail.schema : Schema SecretDetail where
  title := "SecretDetail"
  blank := ⟨0, "", "", "", .empty, [], []⟩
  fields := [
    .of "id" .required .integer (·.id) (fun value detail =>
      { detail with id := value }),
    .of "name" .required .text (·.name) (fun value detail =>
      { detail with name := value }),
    .of "description" .required .text (·.description) (fun value detail =>
      { detail with description := value }),
    .of "createdBy" .required .text (·.createdBy) (fun value detail =>
      { detail with createdBy := value }),
    .of "metadata" .required .dictionary (·.metadata) (fun value detail =>
      { detail with metadata := value }),
    .of "groups" .required Group.schema.codec.array (·.groups) (fun value detail =>
      { detail with groups := value }),
    .of "clients" .required Client.schema.codec.array (·.clients) (fun value detail =>
      { detail with clients := value })]

/-- The codec of secret details. -/
def SecretDetail.codec : Codec SecretDetail := schema.codec

end SecretsAdmin.Server
