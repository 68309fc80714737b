import SecretsAdmin.Base64
import SecretsAdmin.Client.Call
import SecretsAdmin.Model.Request
import SecretsAdmin.Model.Response

namespace SecretsAdmin.Client

/-!
# The administration interface

The calls with which a client administers a server: sessions, groups, secrets, clients and
memberships. Each call has its own type of result.
-/

open Model

/-- The complaint about an empty text, if it is empty. -/
def complainIfEmpty
    (text : String)
    (complaint : String) :
    Option String :=
  if text.isEmpty then some complaint else none

/-- A value in the body of a request. -/
def Task.postValue
    {α : Type}
    (codec : Json.Codec α)
    (value : α) :
    Task :=
  .postJson (.ofJson (codec.write value))

/-! ## Sessions -/

/-- Log in, and keep the cookies of the server; the result is how many were kept. -/
def login (username password : String) : Call Nat where
  segments := ["admin", "login"]
  task := .postValue Login.codec ⟨username, password⟩
  keepsCookies := true
  read response := .ok (Session.keptCount (response.headerValues "set-cookie"))

/-- Whether the server knows the session. -/
def isLoggedIn : Call Bool where
  segments := ["admin", "me"]
  task := .get
  read _ := .ok true
  onRefusal
    | .unauthorized => some false
    | _ => none

/-! ## Groups -/

/-- Where a group is. -/
def groupSegments (group : GroupId) : List String :=
  ["admin", "groups", group.text]

/-- All groups. -/
def allGroups : Call (List Group) where
  segments := ["admin", "groups", ""]
  task := .get
  read := readBody Group.codec.array

/-- Create a group. -/
def createGroup (name description : String) : Call GroupDetail where
  complaint := complainIfEmpty name "group name must not be empty"
  segments := ["admin", "groups"]
  task := .postValue NewGroup.codec ⟨name, description⟩
  read := readBody GroupDetail.codec

/-- A group with its secrets and clients. -/
def groupDetails (group : GroupId) : Call GroupDetail where
  segments := groupSegments group
  task := .get
  read := readBody GroupDetail.codec

/-- Delete a group. -/
def deleteGroup (group : GroupId) : Call Unit where
  segments := groupSegments group
  task := .delete
  read _ := .ok ()

/-- The group of a name. -/
def groupByName (name : String) : Call Group where
  complaint := complainIfEmpty name "group name must not be empty"
  segments := ["admin", "groups"]
  query := [("name", name)]
  task := .get
  read := readBody Group.codec

/-! ## Secrets -/

/-- Where a secret is. -/
def secretSegments (secret : SecretId) : List String :=
  ["admin", "secrets", secret.text]

/-- All secrets. -/
def allSecrets : Call (List Secret) where
  segments := ["admin", "secrets"]
  task := .get
  read := readBody Secret.codec.array

/-- Create a secret with some content. -/
def createSecret
    (name description : String)
    (content : Octets)
    (withVersion : Bool)
    (metadata : OrderedMap String String) :
    Call SecretDetail where
  complaint :=
    complainIfEmpty name "secret name must not be empty" <|>
      if content.isEmpty then some "Content must not be empty" else none
  segments := ["admin", "secrets"]
  task := .postValue NewSecret.codec
    { name, description, content := Base64.encode content, withVersion, metadata }
  read := readBody SecretDetail.codec

/-- A secret with its groups and clients. -/
def secretDetails (secret : SecretId) : Call SecretDetail where
  segments := secretSegments secret
  task := .get
  read := readBody SecretDetail.codec

/-- Delete a secret. -/
def deleteSecret (secret : SecretId) : Call Unit where
  segments := secretSegments secret
  task := .delete
  read _ := .ok ()

/-- Have a generator make secrets. -/
def generateSecrets
    (generator : String)
    (parameters : Payload) :
    Call (List Secret) where
  complaint := complainIfEmpty generator "generator name must not be empty"
  segments := ["admin", "secrets", "generators", generator]
  task := .postJson parameters
  read := readBody Secret.codec.array

/-- Have a generator make secrets for each of many parameters. -/
def batchGenerateSecrets
    (generator : String)
    (parameters : List Payload) :
    Call (List Secret) where
  complaint := complainIfEmpty generator "generator name must not be empty"
  segments := ["admin", "secrets", "generators", generator, "batch"]
  task := .postJson (.list parameters)
  read := readBody Secret.codec.array

/-- The secret of a name and a version; the empty version stands for none. -/
def secretByNameAndVersion (name version : String) : Call Secret where
  complaint := complainIfEmpty name "secret name must not be empty"
  segments := ["admin", "secrets"]
  query := [("name", name), ("version", version)]
  task := .get
  read := readBody Secret.codec

/-- The versions of the secrets of a name. -/
def versionsOfSecret (name : String) : Call (List String) where
  segments := ["admin", "secrets", "versions"]
  query := [("name", name)]
  task := .get
  read := readBody Json.Codec.text.array

/-! ## Clients -/

/-- Where a client is. -/
def clientSegments (client : ClientId) : List String :=
  ["admin", "clients", client.text]

/-- All clients. -/
def allClients : Call (List Model.Client) where
  segments := ["admin", "clients", ""]
  task := .get
  read := readBody Client.codec.array

/-- Create a client. -/
def createClient (name : String) : Call ClientDetail where
  complaint := complainIfEmpty name "client name must not be empty"
  segments := ["admin", "clients"]
  task := .postValue NewClient.codec ⟨name⟩
  read := readBody ClientDetail.codec

/-- A client with its groups and secrets. -/
def clientDetails (client : ClientId) : Call ClientDetail where
  segments := clientSegments client
  task := .get
  read := readBody ClientDetail.codec

/-- Delete a client. -/
def deleteClient (client : ClientId) : Call Unit where
  segments := clientSegments client
  task := .delete
  read _ := .ok ()

/-- The client of a name. -/
def clientByName (name : String) : Call Model.Client where
  complaint := complainIfEmpty name "client name must not be empty"
  segments := ["admin", "clients"]
  query := [("name", name)]
  task := .get
  read := readBody Client.codec

/-! ## Memberships -/

/-- Where the membership of a client in a group is. -/
def clientMembership (client : ClientId) (group : GroupId) : List String :=
  ["admin", "memberships", "clients", client.text, "groups", group.text]

/-- Where the membership of a secret in a group is. -/
def secretMembership (secret : SecretId) (group : GroupId) : List String :=
  ["admin", "memberships", "secrets", secret.text, "groups", group.text]

/-- Put a client into a group. -/
def enrollClient (client : ClientId) (group : GroupId) : Call Unit where
  segments := clientMembership client group
  task := .putEmpty
  read _ := .ok ()

/-- Take a client out of a group. -/
def evictClient (client : ClientId) (group : GroupId) : Call Unit where
  segments := clientMembership client group
  task := .delete
  read _ := .ok ()

/-- Put a secret into a group. -/
def grantSecret (secret : SecretId) (group : GroupId) : Call Unit where
  segments := secretMembership secret group
  task := .putEmpty
  read _ := .ok ()

/-- Take a secret out of a group. -/
def revokeSecret (secret : SecretId) (group : GroupId) : Call Unit where
  segments := secretMembership secret group
  task := .delete
  read _ := .ok ()

end SecretsAdmin.Client
