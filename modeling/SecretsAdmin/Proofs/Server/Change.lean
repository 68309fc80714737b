import Mathlib.Logic.Relation
import SecretsAdmin.Proofs.Server.Generation
import SecretsAdmin.Proofs.Server.Serving

namespace SecretsAdmin.Server.Store

/-!
# Changes of the store

All that can happen to a store: a session, a group, a client or a secret comes in, one of them
goes out with its memberships, or one membership comes or goes. A request makes none of these
changes, one, or as many as a generator makes secrets.
-/

/-! ## New objects -/

/-- The store with one more group, which has the identifier given last. -/
def withGroup
    (store : Store)
    (group : Group) :
    Store :=
  { store with lastId := group.id, groups := store.groups.insert group.id group }

/-- The store with one more client, which has the identifier given last. -/
def withClient
    (store : Store)
    (client : Client) :
    Store :=
  { store with lastId := client.id, clients := store.clients.insert client.id client }

/-- The store with one more secret, which has the identifier given last. -/
def withSecret
    (store : Store)
    (secret : Secret) :
    Store :=
  { store with lastId := secret.id, secrets := store.secrets.insert secret.id secret }

/-- The secret that is made of an input in a store. -/
def newSecret
    (store : Store)
    (user : String)
    (input : SecretInput) :
    Secret where
  id := store.nextId
  name := input.name
  description := input.description
  version := if input.withVersion then some (versionOf store.nextId) else none
  createdBy := user
  metadata := input.metadata

/-- The group that is made of an input in a store. -/
def newGroup
    (store : Store)
    (user : String)
    (input : GroupInput) :
    Group :=
  ⟨store.nextId, input.name, input.description, user⟩

/-- The client that is made of an input in a store. -/
def newClient
    (store : Store)
    (user : String)
    (input : ClientInput) :
    Client :=
  ⟨store.nextId, input.name, "", user, true, false⟩

/-! ## Objects and memberships that go -/

/-- The store without a group and without its memberships. -/
def withoutGroup
    (store : Store)
    (id : Int64) :
    Store :=
  { store with
    groups := store.groups.erase id
    clientLinks := store.clientLinks.withoutGroup id
    secretLinks := store.secretLinks.withoutGroup id }

/-- The store without a client and without its memberships. -/
def withoutClient
    (store : Store)
    (id : Int64) :
    Store :=
  { store with
    clients := store.clients.erase id
    clientLinks := store.clientLinks.withoutMember id }

/-- The store without a secret and without its memberships. -/
def withoutSecret
    (store : Store)
    (id : Int64) :
    Store :=
  { store with
    secrets := store.secrets.erase id
    secretLinks := store.secretLinks.withoutMember id }

/-- The store with other memberships of clients. -/
def withClientLinks
    (store : Store)
    (links : Links) :
    Store :=
  { store with clientLinks := links }

/-- The store with other memberships of secrets. -/
def withSecretLinks
    (store : Store)
    (links : Links) :
    Store :=
  { store with secretLinks := links }

/-! ## Single changes -/

/-- One change of a store, and the condition on which it happens. -/
inductive Change (store : Store) : Store → Prop where
  | session
      (token user : String) :
      Change store { store with sessions := store.sessions.insert token user }
  | group
      (user : String)
      (input : GroupInput)
      (named : input.name ≠ "")
      (unused : store.groupNamed? input.name = none) :
      Change store (store.withGroup (store.newGroup user input))
  | client
      (user : String)
      (input : ClientInput)
      (named : input.name ≠ "")
      (unused : store.clientNamed? input.name = none) :
      Change store (store.withClient (store.newClient user input))
  | secret
      (user : String)
      (input : SecretInput)
      (named : input.name ≠ "")
      (unused : store.hasSecretNamed input.name = true → input.withVersion = true) :
      Change store (store.withSecret (store.newSecret user input))
  | groupGone
      (id : Int64)
      (known : store.groups.contains id = true) :
      Change store (store.withoutGroup id)
  | clientGone
      (id : Int64)
      (known : store.clients.contains id = true) :
      Change store (store.withoutClient id)
  | secretGone
      (id : Int64)
      (known : store.secrets.contains id = true) :
      Change store (store.withoutSecret id)
  | clientLinked
      (link : Link)
      (member : store.clients.contains link.member = true)
      (group : store.groups.contains link.group = true) :
      Change store (store.withClientLinks (store.clientLinks.insert link ()))
  | clientUnlinked
      (link : Link) :
      Change store (store.withClientLinks (store.clientLinks.erase link))
  | secretLinked
      (link : Link)
      (member : store.secrets.contains link.member = true)
      (group : store.groups.contains link.group = true) :
      Change store (store.withSecretLinks (store.secretLinks.insert link ()))
  | secretUnlinked
      (link : Link) :
      Change store (store.withSecretLinks (store.secretLinks.erase link))

/-- Any number of changes one after the other. -/
abbrev Changes : Store → Store → Prop :=
  Relation.ReflTransGen Change

/-! ## What the operations do -/

/-- A group is created exactly when its name is neither empty nor in use. -/
theorem createGroup_eq_ok_iff
    {store after : Store}
    {user : String}
    {input : GroupInput}
    {detail : GroupDetail} :
    store.createGroup user input = .ok (detail, after) ↔
      input.name ≠ "" ∧
        store.groupNamed? input.name = none ∧
        after = store.withGroup (store.newGroup user input) ∧
        detail = after.detailOfGroup (store.newGroup user input) := by
  unfold createGroup
  split
  next isEmpty => simp_all
  next notEmpty =>
    split
    next isUsed => simp [Option.isSome_iff_ne_none.mp isUsed]
    next unused =>
      have notUsed : store.groupNamed? input.name = none := by simpa using unused
      have named : input.name ≠ "" := by simpa using notEmpty
      constructor
      · intro same
        cases same
        exact ⟨named, notUsed, rfl, rfl⟩
      · rintro ⟨-, -, rfl, rfl⟩
        rfl

theorem createClient_eq_ok_iff
    {store after : Store}
    {user : String}
    {input : ClientInput}
    {detail : ClientDetail} :
    store.createClient user input = .ok (detail, after) ↔
      input.name ≠ "" ∧
        store.clientNamed? input.name = none ∧
        after = store.withClient (store.newClient user input) ∧
        detail = after.detailOfClient (store.newClient user input) := by
  unfold createClient
  split
  next isEmpty => simp_all
  next notEmpty =>
    split
    next isUsed => simp [Option.isSome_iff_ne_none.mp isUsed]
    next unused =>
      have notUsed : store.clientNamed? input.name = none := by simpa using unused
      have named : input.name ≠ "" := by simpa using notEmpty
      constructor
      · intro same
        cases same
        exact ⟨named, notUsed, rfl, rfl⟩
      · rintro ⟨-, -, rfl, rfl⟩
        rfl

/-- A secret is kept exactly when its name is not in use or it has a version. -/
theorem insertSecret_eq_ok_iff
    {store after : Store}
    {user : String}
    {input : SecretInput}
    {secret : Secret} :
    store.insertSecret user input = .ok (secret, after) ↔
      (store.hasSecretNamed input.name = true → input.withVersion = true) ∧
        secret = store.newSecret user input ∧
        after = store.withSecret secret := by
  unfold insertSecret
  split
  next isUsed => simp_all
  next unused =>
    have free : store.hasSecretNamed input.name = true → input.withVersion = true := by
      simpa using unused
    constructor
    · intro same
      cases same
      exact ⟨free, rfl, rfl⟩
    · rintro ⟨-, rfl, rfl⟩
      rfl

/-- A secret is created exactly when it has a name and a content and can be kept. -/
theorem createSecret_eq_ok_iff
    {store after : Store}
    {user : String}
    {input : SecretInput}
    {detail : SecretDetail} :
    store.createSecret user input = .ok (detail, after) ↔
      input.name ≠ "" ∧
        isContent input.content = true ∧
        (store.hasSecretNamed input.name = true → input.withVersion = true) ∧
        after = store.withSecret (store.newSecret user input) ∧
        detail = after.detailOfSecret (store.newSecret user input) := by
  unfold createSecret
  split
  next bad =>
    simp only [reduceCtorEq, false_iff]
    rintro ⟨named, content, -⟩
    simp [named, content] at bad
  next good =>
    obtain ⟨notEmpty, hasContent⟩ := not_or.mp good
    have named : input.name ≠ "" := by simpa using notEmpty
    have content : isContent input.content = true := by simpa using hasContent
    cases kept : store.insertSecret user input with
    | error denial =>
        constructor
        · intro same
          cases same
        · rintro ⟨-, -, free, -⟩
          rw [insertSecret_eq_ok_iff.mpr ⟨free, rfl, rfl⟩] at kept
          cases kept
    | ok result =>
        obtain ⟨secret, between⟩ := result
        obtain ⟨free, rfl, rfl⟩ := insertSecret_eq_ok_iff.mp kept
        constructor
        · intro same
          cases same
          exact ⟨named, content, free, rfl, rfl⟩
        · rintro ⟨-, -, -, rfl, rfl⟩
          rfl

/-- No group of a name is found exactly when no group has it. -/
theorem groupNamed?_eq_none_iff
    {store : Store}
    {name : String} :
    store.groupNamed? name = none ↔ ¬∃ group ∈ store.groups.values, group.name = name := by
  simp [groupNamed?]

theorem clientNamed?_eq_none_iff
    {store : Store}
    {name : String} :
    store.clientNamed? name = none ↔ ¬∃ client ∈ store.clients.values, client.name = name := by
  simp [clientNamed?]

theorem hasSecretNamed_iff
    {store : Store}
    {name : String} :
    store.hasSecretNamed name = true ↔ ∃ secret ∈ store.secrets.values, secret.name = name := by
  simp [hasSecretNamed]

/-- A group whose name is in use is in conflict. -/
theorem createGroup_of_used
    {store : Store}
    {input : GroupInput}
    (named : input.name ≠ "")
    (used : store.groupNamed? input.name ≠ none)
    (user : String) :
    store.createGroup user input = .error .conflict := by
  simp [createGroup, named, Option.isSome_iff_ne_none.mpr used]

theorem createClient_of_used
    {store : Store}
    {input : ClientInput}
    (named : input.name ≠ "")
    (used : store.clientNamed? input.name ≠ none)
    (user : String) :
    store.createClient user input = .error .conflict := by
  simp [createClient, named, Option.isSome_iff_ne_none.mpr used]

/-- A secret whose name is in use is in conflict, unless it has a version. -/
theorem createSecret_of_used
    {store : Store}
    {input : SecretInput}
    (named : input.name ≠ "")
    (content : isContent input.content = true)
    (used : store.hasSecretNamed input.name = true)
    (unversioned : input.withVersion = false)
    (user : String) :
    store.createSecret user input = .error .conflict := by
  have notKept : store.insertSecret user input = .error .conflict := by
    simp [insertSecret, used, unversioned]
  have isWhole : ¬(input.name.isEmpty = true ∨ (!isContent input.content) = true) := by
    simp [named, content]
  rw [createSecret, if_neg isWhole, notKept]
  rfl

/-- One secret of a generator is a new secret with a name of its own and without a version. -/
theorem generateOne_eq_ok_iff
    {store after : Store}
    {user : String}
    {input : TemplateInput}
    {secret : Secret} :
    store.generateOne user input = .ok (secret, after) ↔
      input.name ≠ "" ∧
        store.hasSecretNamed input.name = false ∧
        secret = store.newSecret user (generated input) ∧
        after = store.withSecret secret := by
  unfold generateOne
  split
  next isEmpty => simp_all
  next notEmpty =>
    have named : input.name ≠ "" := by simpa using notEmpty
    rw [insertSecret_eq_ok_iff]
    simp [generated, named]

/-- A session begins exactly with the credentials of the administrator. -/
theorem login_eq_ok_iff
    {store after : Store}
    {token : String}
    {credentials : LoginInput} :
    store.login token credentials = .ok after ↔
      credentials = ⟨administrator, password⟩ ∧
        after = { store with sessions := store.sessions.insert token administrator } := by
  obtain ⟨username, secret⟩ := credentials
  unfold login
  split
  next right =>
    obtain ⟨rfl, rfl⟩ := right
    constructor
    · intro same
      cases same
      exact ⟨rfl, rfl⟩
    · rintro ⟨-, rfl⟩
      rfl
  next wrong => simp_all

private theorem ite_eq_ok_iff
    {condition : Prop}
    [Decidable condition]
    {after final : Store}
    {denial : Denial} :
    (if condition then .ok final else .error denial : Except Denial Store) = .ok after ↔
      condition ∧ after = final := by
  split
  next holds => simp [holds, eq_comm]
  next fails => simp [fails]

/-- A group is deleted exactly when it is there. -/
theorem deleteGroup_eq_ok_iff
    {store after : Store}
    {id : Int64} :
    store.deleteGroup id = .ok after ↔
      store.groups.contains id = true ∧ after = store.withoutGroup id := by
  exact ite_eq_ok_iff

theorem deleteClient_eq_ok_iff
    {store after : Store}
    {id : Int64} :
    store.deleteClient id = .ok after ↔
      store.clients.contains id = true ∧ after = store.withoutClient id := by
  exact ite_eq_ok_iff

theorem deleteSecret_eq_ok_iff
    {store after : Store}
    {id : Int64} :
    store.deleteSecret id = .ok after ↔
      store.secrets.contains id = true ∧ after = store.withoutSecret id := by
  exact ite_eq_ok_iff

/-- A membership of a client changes exactly when the client and the group are there. -/
theorem changeClientLink_eq_ok_iff
    {store after : Store}
    {change : Links → Links}
    {link : Link} :
    store.changeClientLink change link = .ok after ↔
      store.clients.contains link.member = true ∧
        store.groups.contains link.group = true ∧
        after = store.withClientLinks (change store.clientLinks) := by
  rw [← and_assoc]
  exact ite_eq_ok_iff

theorem changeSecretLink_eq_ok_iff
    {store after : Store}
    {change : Links → Links}
    {link : Link} :
    store.changeSecretLink change link = .ok after ↔
      store.secrets.contains link.member = true ∧
        store.groups.contains link.group = true ∧
        after = store.withSecretLinks (change store.secretLinks) := by
  rw [← and_assoc]
  exact ite_eq_ok_iff

/-! ## What commands do -/

/-- Secrets that are generated come in one after the other. -/
theorem Generates.changes
    {user : String}
    {store after : Store}
    {inputs : List TemplateInput}
    {secrets : List Secret}
    (generates : Generates user store inputs secrets after) :
    Changes store after := by
  induction generates with
  | done => exact .refl
  | next first _ inductionHypothesis =>
      obtain ⟨named, unused, rfl, rfl⟩ := generateOne_eq_ok_iff.mp first
      refine .head (.secret user (generated _) named fun isUsed => ?_) inductionHypothesis
      rw [generated, unused] at isUsed
      cases isUsed

/-- The store after a generator was asked is the one that it left. -/
theorem generate_of_execute
    {store after : Store}
    {user generator : String}
    {parameters : List Json}
    {answer : Answer}
    (executed : store.execute user (.generate generator parameters) = (answer, after)) :
    ∃ result, store.generate user generator parameters = (result, after) := by
  rw [execute] at executed
  split at executed
  next outcome =>
    cases executed
    exact ⟨_, outcome⟩
  next outcome =>
    cases executed
    exact ⟨_, outcome⟩

/-- A creation is answered with the new object, or denied and without effect. -/
theorem answerCreated_cases
    {α : Type}
    {store after : Store}
    {codec : Json.Codec α}
    {result : Except Denial (α × Store)}
    {answer : Answer}
    (answered : store.answerCreated codec result = (answer, after)) :
    (∃ value, result = .ok (value, after) ∧ answer = .created (codec.write value)) ∨
      ∃ denial, result = .error denial ∧ answer = .denied denial ∧ after = store := by
  unfold answerCreated at answered
  split at answered
  next value final =>
    cases answered
    exact .inl ⟨value, rfl, rfl⟩
  next denial =>
    cases answered
    exact .inr ⟨denial, rfl, rfl, rfl⟩

/-- A change is answered as it should be, or denied and without effect. -/
theorem answerChanged_cases
    {store after : Store}
    {success answer : Answer}
    {result : Except Denial Store}
    (answered : store.answerChanged success result = (answer, after)) :
    (result = .ok after ∧ answer = success) ∨
      ∃ denial, result = .error denial ∧ answer = .denied denial ∧ after = store := by
  unfold answerChanged at answered
  split at answered
  next final =>
    cases answered
    exact .inl ⟨rfl, rfl⟩
  next denial =>
    cases answered
    exact .inr ⟨denial, rfl, rfl, rfl⟩

/-- What holds of a store, and after a success, holds whatever the answer is. -/
@[elab_as_elim]
theorem of_answerChanged
    {motive : Store → Prop}
    {store after : Store}
    {success answer : Answer}
    {result : Except Denial Store}
    (kept : motive store)
    (changed : ∀ {final}, result = .ok final → motive final)
    (answered : store.answerChanged success result = (answer, after)) :
    motive after := by
  obtain ⟨succeeded, -⟩ | ⟨_, -, -, rfl⟩ := answerChanged_cases answered
  · exact changed succeeded
  · exact kept

@[elab_as_elim]
theorem of_answerCreated
    {α : Type}
    {motive : Store → Prop}
    {store after : Store}
    {codec : Json.Codec α}
    {result : Except Denial (α × Store)}
    {answer : Answer}
    (kept : motive store)
    (changed : ∀ {value final}, result = .ok (value, final) → motive final)
    (answered : store.answerCreated codec result = (answer, after)) :
    motive after := by
  obtain ⟨value, succeeded, -⟩ | ⟨_, -, -, rfl⟩ := answerCreated_cases answered
  · exact changed succeeded
  · exact kept

/-- A command makes at most one change, unless it is one for a generator. -/
theorem change_of_execute
    {store after : Store}
    {user : String}
    {command : Command}
    {answer : Answer}
    (executed : store.execute user command = (answer, after))
    (notGenerator : ∀ generator parameters, command ≠ .generate generator parameters) :
    Relation.ReflGen Change store after := by
  cases command with
  | createGroup input =>
      refine of_answerCreated .refl (fun created => .single ?_) executed
      obtain ⟨named, unused, rfl, -⟩ := createGroup_eq_ok_iff.mp created
      exact .group user input named unused
  | createClient input =>
      refine of_answerCreated .refl (fun created => .single ?_) executed
      obtain ⟨named, unused, rfl, -⟩ := createClient_eq_ok_iff.mp created
      exact .client user input named unused
  | createSecret input =>
      refine of_answerCreated .refl (fun created => .single ?_) executed
      obtain ⟨named, -, unused, rfl, -⟩ := createSecret_eq_ok_iff.mp created
      exact .secret user input named unused
  | deleteGroup id =>
      refine of_answerChanged .refl (fun deleted => .single ?_) executed
      obtain ⟨known, rfl⟩ := deleteGroup_eq_ok_iff.mp deleted
      exact .groupGone id known
  | deleteClient id =>
      refine of_answerChanged .refl (fun deleted => .single ?_) executed
      obtain ⟨known, rfl⟩ := deleteClient_eq_ok_iff.mp deleted
      exact .clientGone id known
  | deleteSecret id =>
      refine of_answerChanged .refl (fun deleted => .single ?_) executed
      obtain ⟨known, rfl⟩ := deleteSecret_eq_ok_iff.mp deleted
      exact .secretGone id known
  | enrollClient link =>
      refine of_answerChanged .refl (fun changed => .single ?_) executed
      obtain ⟨member, group, rfl⟩ := changeClientLink_eq_ok_iff.mp changed
      exact .clientLinked link member group
  | evictClient link =>
      refine of_answerChanged .refl (fun changed => .single ?_) executed
      obtain ⟨-, -, rfl⟩ := changeClientLink_eq_ok_iff.mp changed
      exact .clientUnlinked link
  | grantSecret link =>
      refine of_answerChanged .refl (fun changed => .single ?_) executed
      obtain ⟨member, group, rfl⟩ := changeSecretLink_eq_ok_iff.mp changed
      exact .secretLinked link member group
  | revokeSecret link =>
      refine of_answerChanged .refl (fun changed => .single ?_) executed
      obtain ⟨-, -, rfl⟩ := changeSecretLink_eq_ok_iff.mp changed
      exact .secretUnlinked link
  | generate generator parameters => exact absurd rfl (notGenerator generator parameters)
  | _ =>
      cases executed
      exact .refl

/-- Whatever a command does to the store, it does by changes. -/
theorem execute_changes
    {store after : Store}
    {user : String}
    {command : Command}
    {answer : Answer}
    (executed : store.execute user command = (answer, after)) :
    Changes store after := by
  cases command with
  | generate generator parameters =>
      obtain ⟨_, outcome⟩ := generate_of_execute executed
      obtain ⟨_, _, generates, -⟩ := exists_generates_of_generate outcome
      exact generates.changes
  | _ => exact (change_of_execute executed nofun).to_reflTransGen

/-- Whatever a request does to the store, it does by changes. -/
theorem serve_changes
    (store : Store)
    (token : String)
    (request : Request) :
    Changes store (store.serve token request).2 := by
  have served := store.serve_served token request
  generalize (store.serve token request).1 = response at served
  generalize (store.serve token request).2 = after at served
  cases served with
  | refused _ => exact .refl
  | begun _ login =>
      obtain ⟨-, same⟩ := login_eq_ok_iff.mp login
      rw [same]
      exact .single (.session token administrator)
  | obeyed _ _ executed _ => exact execute_changes executed

end SecretsAdmin.Server.Store
