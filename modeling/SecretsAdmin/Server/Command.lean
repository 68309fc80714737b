import SecretsAdmin.Server.Store

namespace SecretsAdmin.Server

/-!
# Commands

What an administrator can have the server do once a session is known, and what the server
answers.
-/

/-- What the server is to do. -/
inductive Command where
  | tellUser
  | listGroups
  | findGroup (name : String)
  | createGroup (input : GroupInput)
  | showGroup (id : Int64)
  | deleteGroup (id : Int64)
  | listSecrets
  | findSecret (name version : String)
  | listVersions (name : String)
  | createSecret (input : SecretInput)
  | showSecret (id : Int64)
  | deleteSecret (id : Int64)
  | generate (generator : String) (parameters : List Json)
  | listClients
  | findClient (name : String)
  | createClient (input : ClientInput)
  | showClient (id : Int64)
  | deleteClient (id : Int64)
  | enrollClient (link : Link)
  | evictClient (link : Link)
  | grantSecret (link : Link)
  | revokeSecret (link : Link)

/-- What the server answers. -/
inductive Answer where
  | denied (denial : Denial)
  | done
  | removed
  | found (document : Json)
  | created (document : Json)

namespace Answer

/-- The answer with a document, or that there is none. -/
def ofFound
    {α : Type}
    (codec : Json.Codec α)
    (found : Option α) :
    Answer :=
  match found with
  | some value => .found (codec.write value)
  | none => .denied .notFound

end Answer

namespace Store

/-- The answer to a creation, and the store after it. -/
def answerCreated
    {α : Type}
    (store : Store)
    (codec : Json.Codec α)
    (result : Except Denial (α × Store)) :
    Answer × Store :=
  match result with
  | .ok (value, after) => (.created (codec.write value), after)
  | .error denial => (.denied denial, store)

/-- The answer to a change without a result, and the store after it. -/
def answerChanged
    (store : Store)
    (answer : Answer)
    (result : Except Denial Store) :
    Answer × Store :=
  match result with
  | .ok after => (answer, after)
  | .error denial => (.denied denial, store)

/-- Do what a user of a session says. -/
def execute
    (store : Store)
    (user : String) :
    Command → Answer × Store
  | .tellUser => (.found (.object [("username", .text user)]), store)
  | .listGroups => (.found (Group.codec.array.write store.groups.values), store)
  | .findGroup name => (.ofFound Group.codec (store.groupNamed? name), store)
  | .createGroup input =>
      store.answerCreated GroupDetail.codec (store.createGroup user input)
  | .showGroup id => (.ofFound GroupDetail.codec (store.groupDetail? id), store)
  | .deleteGroup id => store.answerChanged .removed (store.deleteGroup id)
  | .listSecrets => (.found (Secret.codec.array.write store.secrets.values), store)
  | .findSecret name version =>
      (.ofFound Secret.codec (store.secretNamed? name version), store)
  | .listVersions name =>
      (.ofFound Json.Codec.text.array (store.versionsNamed? name), store)
  | .createSecret input =>
      store.answerCreated SecretDetail.codec (store.createSecret user input)
  | .showSecret id => (.ofFound SecretDetail.codec (store.secretDetail? id), store)
  | .deleteSecret id => store.answerChanged .removed (store.deleteSecret id)
  | .generate generator parameters =>
      match store.generate user generator parameters with
      | (.ok secrets, after) => (.found (Secret.codec.array.write secrets), after)
      | (.error denial, after) => (.denied denial, after)
  | .listClients => (.found (Client.codec.array.write store.clients.values), store)
  | .findClient name => (.ofFound Client.codec (store.clientNamed? name), store)
  | .createClient input =>
      store.answerCreated ClientDetail.codec (store.createClient user input)
  | .showClient id => (.ofFound ClientDetail.codec (store.clientDetail? id), store)
  | .deleteClient id => store.answerChanged .removed (store.deleteClient id)
  | .enrollClient link => store.answerChanged .done (store.enrollClient link)
  | .evictClient link => store.answerChanged .done (store.evictClient link)
  | .grantSecret link => store.answerChanged .done (store.grantSecret link)
  | .revokeSecret link => store.answerChanged .done (store.revokeSecret link)

end Store

end SecretsAdmin.Server
