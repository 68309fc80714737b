import SecretsAdmin.Server.Argument
import SecretsAdmin.Server.Command

namespace SecretsAdmin.Server

/-!
# Routes

Which paths the server knows, which methods each of them allows, and how a request to each of
them is read as a command. A path is compared as it is written; only its parameters are decoded.
-/

/-- The resources that need a session. -/
inductive Resource where
  | user
  | groupList
  | groups
  | group (id : Parameter)
  | secrets
  | versions
  | secret (id : Parameter)
  | generator (name : Parameter)
  | batch (name : Parameter)
  | clientList
  | clients
  | client (id : Parameter)
  | clientMembership (client group : Parameter)
  | secretMembership (secret group : Parameter)
  deriving DecidableEq, Repr

/-- What a path leads to. -/
inductive Route where
  | login
  | administration (resource : Resource)
  deriving DecidableEq, Repr

/-- A resource with a parameter at the end of its path, which must not be empty. -/
def Resource.ending
    (make : Parameter → Resource)
    (name written : String) :
    Option Resource :=
  if written.isEmpty then none else some (make ⟨name, written⟩)

/-- The resource at the segments of a path below the common first one. -/
def Resource.ofSegments? : List String → Option Resource
  | ["me"] => some .user
  | ["groups", ""] => some .groupList
  | ["groups"] => some .groups
  | ["groups", id] => Resource.ending .group "id" id
  | ["secrets"] => some .secrets
  | ["secrets", "versions"] => some .versions
  | ["secrets", id] => Resource.ending .secret "id" id
  | ["secrets", "generators", name] => Resource.ending .generator "name" name
  | ["secrets", "generators", name, "batch"] => some (.batch ⟨"name", name⟩)
  | ["clients", ""] => some .clientList
  | ["clients"] => some .clients
  | ["clients", id] => Resource.ending .client "id" id
  | ["memberships", "clients", member, "groups", container] =>
      Resource.ending (.clientMembership ⟨"client_id", member⟩) "group_id" container
  | ["memberships", "secrets", member, "groups", container] =>
      Resource.ending (.secretMembership ⟨"secret_id", member⟩) "group_id" container
  | _ => none

/-- Where a path leads. -/
def Route.ofPath? (path : String) : Option Route :=
  match (path.toList.splitOn '/').map String.ofList with
  | ["", "admin", "login"] => some .login
  | "" :: "admin" :: segments => (Resource.ofSegments? segments).map .administration
  | _ => none

/-- How a request is read as a command. -/
abbrev CommandReader := Request → Except Rejection Command

namespace CommandReader

/-- A command without arguments. -/
def plain (command : Command) : CommandReader :=
  fun _ => .ok command

/-- A command about the identifier in the path. -/
def ofId
    (make : Int64 → Command)
    (parameter : Parameter) :
    CommandReader :=
  fun _ => (readId parameter).map make

/-- A command about the two identifiers in the path. -/
def ofLink
    (make : Link → Command)
    (member group : Parameter) :
    CommandReader :=
  fun _ => (readIds member group).map fun ids => make ⟨ids.1, ids.2⟩

/-- A command about the name in the query. -/
def ofName (make : String → Command) : CommandReader :=
  fun request => (readName request).map make

/-- A command about the name and the version in the query; without a name it is about all. -/
def ofVersion : CommandReader := fun request => do
  match ← readNameAndVersion request with
  | (none, _) => return .listSecrets
  | (some name, version) => return .findSecret name (version.getD "")

/-- A command about the body. -/
def ofBody
    {α : Type}
    (make : α → Command)
    (codec : Json.Codec α) :
    CommandReader :=
  fun request => (readBody codec.read request).map make

/-- The command to generate a secret of the parameters in the body. -/
def ofParameters (generator : Parameter) : CommandReader := fun request => do
  let generator ← generator.text
  let parameters ← readBody (Json.readValue Json.greatestDepth) request
  return .generate generator [parameters]

/-- The command to generate secrets of the list of parameters in the body. -/
def ofBatch (generator : Parameter) : CommandReader := fun request => do
  let generator ← generator.text
  let parameters ← readBody (Json.readArray (Json.readValue (Json.greatestDepth - 1))) request
  return .generate generator parameters

end CommandReader

open CommandReader

/-- How a request with a method to a resource is read, if the resource allows the method. -/
def Resource.reader? : Resource → (method : String) → Option CommandReader
  | .user, "GET" => some (plain .tellUser)
  | .groupList, "GET" => some (plain .listGroups)
  | .groups, "GET" => some (ofName .findGroup)
  | .groups, "POST" => some (ofBody .createGroup GroupInput.codec)
  | .group id, "GET" => some (ofId .showGroup id)
  | .group id, "DELETE" => some (ofId .deleteGroup id)
  | .secrets, "GET" => some ofVersion
  | .secrets, "POST" => some (ofBody .createSecret SecretInput.codec)
  | .versions, "GET" => some (ofName .listVersions)
  | .secret id, "GET" => some (ofId .showSecret id)
  | .secret id, "DELETE" => some (ofId .deleteSecret id)
  | .generator name, "POST" => some (ofParameters name)
  | .batch name, "POST" => some (ofBatch name)
  | .clientList, "GET" => some (plain .listClients)
  | .clients, "GET" => some (ofName .findClient)
  | .clients, "POST" => some (ofBody .createClient ClientInput.codec)
  | .client id, "GET" => some (ofId .showClient id)
  | .client id, "DELETE" => some (ofId .deleteClient id)
  | .clientMembership member container, "PUT" => some (ofLink .enrollClient member container)
  | .clientMembership member container, "DELETE" => some (ofLink .evictClient member container)
  | .secretMembership member container, "PUT" => some (ofLink .grantSecret member container)
  | .secretMembership member container, "DELETE" => some (ofLink .revokeSecret member container)
  | _, _ => none

/-- The methods that a resource allows; whoever may get it may also ask for its head. -/
def Resource.allowed (resource : Resource) : List String :=
  ["GET", "POST", "PUT", "DELETE"].flatMap fun method =>
    if (resource.reader? method).isSome then
      if method = "GET" then ["GET", "HEAD"] else [method]
    else
      []

end SecretsAdmin.Server
