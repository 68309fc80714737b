import SecretsAdmin.Client.Administration

namespace SecretsAdmin.Client

/-!
# Operations

All calls of the administration interface as one type, with one type of results, for runs of many
calls.
-/

open Model

/-- The operations with their arguments. -/
inductive Operation where
  | login (username password : String)
  | isLoggedIn
  | allGroups
  | createGroup (name description : String)
  | groupDetails (group : GroupId)
  | deleteGroup (group : GroupId)
  | groupByName (name : String)
  | allSecrets
  | createSecret
      (name description : String)
      (content : Octets)
      (withVersion : Bool)
      (metadata : OrderedMap String String)
  | secretDetails (secret : SecretId)
  | deleteSecret (secret : SecretId)
  | generateSecrets (generator : String) (parameters : Payload)
  | batchGenerateSecrets (generator : String) (parameters : List Payload)
  | secretByNameAndVersion (name version : String)
  | versionsOfSecret (name : String)
  | allClients
  | createClient (name : String)
  | clientDetails (client : ClientId)
  | deleteClient (client : ClientId)
  | clientByName (name : String)
  | enrollClient (client : ClientId) (group : GroupId)
  | evictClient (client : ClientId) (group : GroupId)
  | grantSecret (secret : SecretId) (group : GroupId)
  | revokeSecret (secret : SecretId) (group : GroupId)

/-- A login as it is noted: who logged in, and how many cookies were kept. -/
structure LoginNote where
  username : String
  cookies : Nat
  deriving DecidableEq, Repr

/-- The sentence under which logins are noted. -/
def LoginNote.sentence : String := "logged in to keywhiz"

/-- The results of operations. -/
inductive Reply where
  | done
  | loggedIn (note : LoginNote)
  | flag (value : Bool)
  | group (group : Group)
  | groups (groups : List Group)
  | groupDetail (detail : GroupDetail)
  | secret (secret : Secret)
  | secrets (secrets : List Secret)
  | secretDetail (detail : SecretDetail)
  | versions (versions : List String)
  | client (client : Model.Client)
  | clients (clients : List Model.Client)
  | clientDetail (detail : ClientDetail)
  deriving DecidableEq

/-- The document of a result. -/
def Reply.toJson : Reply → Json
  | .done | .loggedIn _ => .null
  | .flag value => .boolean value
  | .group value => Group.codec.write value
  | .groups values => Group.codec.array.write values
  | .groupDetail value => GroupDetail.codec.write value
  | .secret value => Secret.codec.write value
  | .secrets values => Secret.codec.array.write values
  | .secretDetail value => SecretDetail.codec.write value
  | .versions values => Json.Codec.text.array.write values
  | .client value => Client.codec.write value
  | .clients values => Client.codec.array.write values
  | .clientDetail value => ClientDetail.codec.write value

/-- The call of an operation. -/
def Operation.call : Operation → Call Reply
  | login username password =>
      (Client.login username password).map fun cookies => .loggedIn ⟨username, cookies⟩
  | isLoggedIn => Client.isLoggedIn.map .flag
  | allGroups => Client.allGroups.map .groups
  | createGroup name description => (Client.createGroup name description).map .groupDetail
  | groupDetails group => (Client.groupDetails group).map .groupDetail
  | deleteGroup group => (Client.deleteGroup group).map fun _ => .done
  | groupByName name => (Client.groupByName name).map .group
  | allSecrets => Client.allSecrets.map .secrets
  | createSecret name description content withVersion metadata =>
      (Client.createSecret name description content withVersion metadata).map .secretDetail
  | secretDetails secret => (Client.secretDetails secret).map .secretDetail
  | deleteSecret secret => (Client.deleteSecret secret).map fun _ => .done
  | generateSecrets generator parameters =>
      (Client.generateSecrets generator parameters).map .secrets
  | batchGenerateSecrets generator parameters =>
      (Client.batchGenerateSecrets generator parameters).map .secrets
  | secretByNameAndVersion name version =>
      (Client.secretByNameAndVersion name version).map .secret
  | versionsOfSecret name => (Client.versionsOfSecret name).map .versions
  | allClients => Client.allClients.map .clients
  | createClient name => (Client.createClient name).map .clientDetail
  | clientDetails client => (Client.clientDetails client).map .clientDetail
  | deleteClient client => (Client.deleteClient client).map fun _ => .done
  | clientByName name => (Client.clientByName name).map .client
  | enrollClient client group => (Client.enrollClient client group).map fun _ => .done
  | evictClient client group => (Client.evictClient client group).map fun _ => .done
  | grantSecret secret group => (Client.grantSecret secret group).map fun _ => .done
  | revokeSecret secret group => (Client.revokeSecret secret group).map fun _ => .done

end SecretsAdmin.Client
