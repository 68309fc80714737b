import SecretsAdmin.Base64
import SecretsAdmin.Server.Input
import SecretsAdmin.Server.Link
import SecretsAdmin.Server.Record

namespace SecretsAdmin.Server

/-!
# The store

What the server remembers: sessions, clients, groups, secrets, and which clients and secrets are
in which groups. Every function that changes the store says on what condition it refuses to.
-/

/-- Why the server does not do what it is asked. -/
inductive Denial where
  | unauthorized
  | notFound
  | conflict
  | unprocessable
  deriving DecidableEq, Repr

/-- The status of a denial. -/
def Denial.status : Denial → Nat
  | unauthorized => 401
  | notFound => 404
  | conflict => 409
  | unprocessable => 422

/-- What the server remembers. -/
structure Store where
  /-- The identifier that was given last. -/
  lastId : Int64 := 0
  /-- The users of the sessions by their tokens. -/
  sessions : OrderedMap String String := .empty
  clients : OrderedMap Int64 Client := .empty
  groups : OrderedMap Int64 Group := .empty
  secrets : OrderedMap Int64 Secret := .empty
  clientLinks : Links := .empty
  secretLinks : Links := .empty
  deriving DecidableEq

namespace Store

/-- The store of a server that was never asked anything. -/
def fresh : Store := {}

/-- The identifier that is given next. -/
def nextId (store : Store) : Int64 :=
  store.lastId + 1

/-! ## Sessions -/

/-- The user who may administer the server. -/
def administrator : String := "keywhizAdmin"

/-- The password of the administrator. -/
def password : String := "adminPass"

/-- Begin a session with a token, if the credentials are those of the administrator. -/
def login
    (store : Store)
    (token : String)
    (credentials : LoginInput) :
    Except Denial Store :=
  if credentials.username = administrator ∧ credentials.password = password then
    .ok { store with sessions := store.sessions.insert token credentials.username }
  else
    .error .unauthorized

/-! ## Views -/

/-- The groups that a client is in. -/
def groupsOfClient (store : Store) (client : Int64) : List Group :=
  (store.clientLinks.groupsOf client).filterMap store.groups.find?

/-- The groups that a secret is in. -/
def groupsOfSecret (store : Store) (secret : Int64) : List Group :=
  (store.secretLinks.groupsOf secret).filterMap store.groups.find?

/-- The clients in a group. -/
def clientsInGroup (store : Store) (group : Int64) : List Client :=
  (store.clientLinks.membersOf group).filterMap store.clients.find?

/-- The secrets in a group. -/
def secretsInGroup (store : Store) (group : Int64) : List Secret :=
  (store.secretLinks.membersOf group).filterMap store.secrets.find?

/-- A group with its secrets and clients. -/
def detailOfGroup (store : Store) (group : Group) : GroupDetail where
  id := group.id
  name := group.name
  description := group.description
  createdBy := group.createdBy
  secrets := store.secretsInGroup group.id
  clients := store.clientsInGroup group.id

/-- A secret with its groups, and with their clients, group by group. -/
def detailOfSecret (store : Store) (secret : Secret) : SecretDetail :=
  let groups := store.groupsOfSecret secret.id
  { id := secret.id
    name := secret.name
    description := secret.description
    createdBy := secret.createdBy
    metadata := secret.metadata
    groups
    clients := groups.flatMap fun group => store.clientsInGroup group.id }

/-- A client with its groups, and with their secrets, group by group. -/
def detailOfClient (store : Store) (client : Client) : ClientDetail :=
  let groups := store.groupsOfClient client.id
  { id := client.id
    name := client.name
    description := client.description
    createdBy := client.createdBy
    groups
    secrets := groups.flatMap fun group => store.secretsInGroup group.id }

/-- The detail of the group of an identifier. -/
def groupDetail? (store : Store) (id : Int64) : Option GroupDetail :=
  (store.groups.find? id).map store.detailOfGroup

/-- The detail of the secret of an identifier. -/
def secretDetail? (store : Store) (id : Int64) : Option SecretDetail :=
  (store.secrets.find? id).map store.detailOfSecret

/-- The detail of the client of an identifier. -/
def clientDetail? (store : Store) (id : Int64) : Option ClientDetail :=
  (store.clients.find? id).map store.detailOfClient

/-! ## Groups -/

/-- The group of a name. -/
def groupNamed? (store : Store) (name : String) : Option Group :=
  store.groups.values.find? fun group => group.name == name

/-- Create a group with a name of its own. -/
def createGroup
    (store : Store)
    (user : String)
    (input : GroupInput) :
    Except Denial (GroupDetail × Store) :=
  if input.name.isEmpty then
    .error .unprocessable
  else if (store.groupNamed? input.name).isSome then
    .error .conflict
  else
    let group : Group := ⟨store.nextId, input.name, input.description, user⟩
    let store :=
      { store with
        lastId := store.nextId
        groups := store.groups.insert group.id group }
    .ok (store.detailOfGroup group, store)

/-- Delete a group, and take all clients and secrets out of it. -/
def deleteGroup
    (store : Store)
    (id : Int64) :
    Except Denial Store :=
  if store.groups.contains id then
    .ok { store with
      groups := store.groups.erase id
      clientLinks := store.clientLinks.withoutGroup id
      secretLinks := store.secretLinks.withoutGroup id }
  else
    .error .notFound

/-! ## Secrets -/

/-- The version of a secret that is created with an identifier: sixteen hexadecimal digits. -/
def versionOf (id : Int64) : String :=
  String.ofList (Hex.fixed 16 id.toUInt64.toNat)

/-- Whether some secret has a name. -/
def hasSecretNamed (store : Store) (name : String) : Bool :=
  store.secrets.values.any fun secret => secret.name == name

/-- Keep a new secret. Only a secret with a version may have the name of another. -/
def insertSecret
    (store : Store)
    (user : String)
    (input : SecretInput) :
    Except Denial (Secret × Store) :=
  if store.hasSecretNamed input.name ∧ !input.withVersion then
    .error .conflict
  else
    let id := store.nextId
    let secret : Secret := {
      id
      name := input.name
      description := input.description
      version := if input.withVersion then some (versionOf id) else none
      createdBy := user
      metadata := input.metadata }
    .ok (secret, { store with lastId := id, secrets := store.secrets.insert id secret })

/-- Whether a text is the base64 text of at least one byte. -/
def isContent (text : String) : Bool :=
  (Base64.decode? text).any fun octets => !octets.isEmpty

/-- Create a secret with a name and a content. -/
def createSecret
    (store : Store)
    (user : String)
    (input : SecretInput) :
    Except Denial (SecretDetail × Store) :=
  if input.name.isEmpty ∨ !isContent input.content then
    .error .unprocessable
  else do
    let (secret, store) ← store.insertSecret user input
    return (store.detailOfSecret secret, store)

/-- The secret of a name and a version; the empty version stands for none. -/
def secretNamed?
    (store : Store)
    (name version : String) :
    Option Secret :=
  store.secrets.values.find? fun secret =>
    secret.name == name && secret.version.getD "" == version

/-- The versions of the secrets of a name, if there are such secrets. -/
def versionsNamed? (store : Store) (name : String) : Option (List String) :=
  let named := store.secrets.values.filter fun secret => secret.name == name
  if named.isEmpty then none else some (named.filterMap Secret.version)

/-- Delete a secret, and take it out of all groups. -/
def deleteSecret
    (store : Store)
    (id : Int64) :
    Except Denial Store :=
  if store.secrets.contains id then
    .ok { store with
      secrets := store.secrets.erase id
      secretLinks := store.secretLinks.withoutMember id }
  else
    .error .notFound

/-! ## Generators -/

/-- The name of the only generator. -/
def generatorName : String := "templated"

/--
The secret that the generator makes of parameters. Its content is not kept, so the text that is
drawn where there is no template is left out and taken as empty.
-/
def generated (input : TemplateInput) : SecretInput where
  name := input.name
  description := input.description
  content := Base64.encode (Utf8.encode (input.template.getD ""))

/--
Make secrets of parameters one after the other. The first one that cannot be made ends this, and
the secrets before it stay.
-/
def generateAll
    (user : String)
    (made : List Secret) :
    List TemplateInput → Store → Except Denial (List Secret) × Store
  | [], store => (.ok made.reverse, store)
  | input :: rest, store =>
      if input.name.isEmpty then
        (.error .unprocessable, store)
      else
        match store.insertSecret user (generated input) with
        | .error denial => (.error denial, store)
        | .ok (secret, store) => generateAll user (secret :: made) rest store

/-- Have a generator make secrets; all parameters are read before the first secret is made. -/
def generate
    (store : Store)
    (user : String)
    (generator : String)
    (parameters : List Json) :
    Except Denial (List Secret) × Store :=
  if generator = generatorName then
    match parameters.mapM TemplateInput.ofJson? with
    | none => (.error .unprocessable, store)
    | some inputs => generateAll user [] inputs store
  else
    (.error .notFound, store)

/-! ## Clients -/

/-- The client of a name. -/
def clientNamed? (store : Store) (name : String) : Option Client :=
  store.clients.values.find? fun client => client.name == name

/-- Create a client with a name of its own. -/
def createClient
    (store : Store)
    (user : String)
    (input : ClientInput) :
    Except Denial (ClientDetail × Store) :=
  if input.name.isEmpty then
    .error .unprocessable
  else if (store.clientNamed? input.name).isSome then
    .error .conflict
  else
    let client : Client := {
      id := store.nextId
      name := input.name
      description := ""
      createdBy := user
      enabled := true
      automationAllowed := false }
    let store :=
      { store with
        lastId := store.nextId
        clients := store.clients.insert client.id client }
    .ok (store.detailOfClient client, store)

/-- Delete a client, and take it out of all groups. -/
def deleteClient
    (store : Store)
    (id : Int64) :
    Except Denial Store :=
  if store.clients.contains id then
    .ok { store with
      clients := store.clients.erase id
      clientLinks := store.clientLinks.withoutMember id }
  else
    .error .notFound

/-! ## Memberships -/

/-- Change the groups of clients, if the client and the group of a link exist. -/
def changeClientLink
    (store : Store)
    (change : Links → Links)
    (link : Link) :
    Except Denial Store :=
  if store.clients.contains link.member ∧ store.groups.contains link.group then
    .ok { store with clientLinks := change store.clientLinks }
  else
    .error .notFound

/-- Change the groups of secrets, if the secret and the group of a link exist. -/
def changeSecretLink
    (store : Store)
    (change : Links → Links)
    (link : Link) :
    Except Denial Store :=
  if store.secrets.contains link.member ∧ store.groups.contains link.group then
    .ok { store with secretLinks := change store.secretLinks }
  else
    .error .notFound

/-- Put a client into a group. -/
def enrollClient (store : Store) (link : Link) : Except Denial Store :=
  store.changeClientLink (·.insert link ()) link

/-- Take a client out of a group. -/
def evictClient (store : Store) (link : Link) : Except Denial Store :=
  store.changeClientLink (·.erase link) link

/-- Put a secret into a group. -/
def grantSecret (store : Store) (link : Link) : Except Denial Store :=
  store.changeSecretLink (·.insert link ()) link

/-- Take a secret out of a group. -/
def revokeSecret (store : Store) (link : Link) : Except Denial Store :=
  store.changeSecretLink (·.erase link) link

end Store

end SecretsAdmin.Server
