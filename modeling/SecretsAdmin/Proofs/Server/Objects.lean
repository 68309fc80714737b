import Mathlib.Data.List.Basic
import Mathlib.Data.List.Induction
import SecretsAdmin.Model.Identifier
import SecretsAdmin.Proofs.Server.Numbering

namespace SecretsAdmin.Server

/-!
# Objects that come and go

Clients, groups and secrets are objects of three kinds, which are numbered together. A request
takes one object away, puts new ones behind the others of their kind, or leaves all as they are.
-/

open Model (Kind)

/-- A stored object. -/
inductive Object where
  | client (client : Client)
  | group (group : Group)
  | secret (secret : Secret)
  deriving DecidableEq

namespace Object

/-- The kind of an object. -/
def kind : Object → Kind
  | .client _ => .client
  | .group _ => .group
  | .secret _ => .secret

/-- The identifier of an object. -/
def id : Object → Int64
  | .client stored => stored.id
  | .group stored => stored.id
  | .secret stored => stored.id

/-- What tells an object from all others that are stored at the same time. -/
def key (object : Object) : Kind × Int64 :=
  (object.kind, object.id)

/-- The detail of an object that has no memberships. -/
def alone : Object → Json
  | .client stored =>
      ClientDetail.codec.write
        ⟨stored.id, stored.name, stored.description, stored.createdBy, [], []⟩
  | .group stored =>
      GroupDetail.codec.write
        ⟨stored.id, stored.name, stored.description, stored.createdBy, [], []⟩
  | .secret stored =>
      SecretDetail.codec.write
        ⟨stored.id, stored.name, stored.description, stored.createdBy, stored.metadata, [], []⟩

end Object

namespace Command

/-- The object that a user has created by a command, once it has an identifier. -/
def object?
    (command : Command)
    (user : String)
    (id : Int64) :
    Option Object :=
  match command with
  | createClient input => some (.client ⟨id, input.name, "", user, true, false⟩)
  | createGroup input => some (.group ⟨id, input.name, input.description, user⟩)
  | createSecret input =>
      let version := if input.withVersion then some (Store.versionOf id) else none
      some (.secret ⟨id, input.name, input.description, version, user, input.metadata⟩)
  | _ => none

/-- The kind and the identifier of the object that a command deletes. -/
def target? : Command → Option (Kind × Int64)
  | deleteClient id => some (.client, id)
  | deleteGroup id => some (.group, id)
  | deleteSecret id => some (.secret, id)
  | _ => none

end Command

/-- A command that creates an object is posted, and deletes none. -/
theorem Command.posted_of_creates
    {command : Command}
    {user : String}
    {id : Int64}
    {object : Object}
    (creates : command.object? user id = some object) :
    command.method = "POST" ∧ command.target? = none := by
  cases command with
  | createClient _ | createGroup _ | createSecret _ => exact ⟨rfl, rfl⟩
  | _ => cases creates

/-- Only what was created is answered so. -/
theorem Answer.created_of_status
    {answer : Answer}
    (isCreated : answer.response.status = 201) :
    ∃ document, answer = .created document := by
  cases answer with
  | created document => exact ⟨document, rfl⟩
  | denied denial => exact absurd isCreated (by cases denial <;> decide)
  | done | removed | found => cases isCreated

/-- The response with an answer to a request; who asks for a head gets no body. -/
def Answer.responseTo
    (answer : Answer)
    (request : Request) :
    Http.Response :=
  if request.method = "HEAD" then { answer.response with body := "" } else answer.response

/-- Leaving out a body does not change the status. -/
theorem Answer.status_responseTo
    (answer : Answer)
    (request : Request) :
    (answer.responseTo request).status = answer.response.status := by
  unfold Answer.responseTo
  split <;> rfl

/-- No request for a head posts anything. -/
theorem Request.notHead_of_post
    {request : Request}
    {command : Command}
    (asked : request.command? = some command)
    (post : command.method = "POST") :
    request.method ≠ "HEAD" := by
  intro isHead
  have served := (Request.isAt_of_command? asked).1
  rw [Request.servedMethod, if_pos isHead, post] at served
  exact absurd served (by decide)

/-- The response to a posted command has a body: only requests for the head get none. -/
theorem Answer.responseTo_of_post
    {request : Request}
    {command : Command}
    (answer : Answer)
    (asked : request.command? = some command)
    (post : command.method = "POST") :
    answer.responseTo request = answer.response :=
  if_neg (Request.notHead_of_post asked post)

/-- What is looked up is not reported as created. -/
theorem Answer.ofFound_ne_created
    {α : Type}
    (codec : Json.Codec α)
    (found : Option α)
    (document : Json) :
    Answer.ofFound codec found ≠ .created document := by
  cases found <;> nofun

namespace Store

/-! ## Objects of a store -/

/-- The objects of a kind, ordered by their identifiers. -/
def objectsOf (store : Store) : Kind → List Object
  | .client => store.clients.values.map .client
  | .group => store.groups.values.map .group
  | .secret => store.secrets.values.map .secret

/-- The objects of a store, kind by kind. -/
def objects (store : Store) : List Object :=
  store.objectsOf .client ++ store.objectsOf .group ++ store.objectsOf .secret

/-- The objects of a kind are of that kind. -/
theorem kind_of_mem_objectsOf
    {store : Store}
    {kind : Kind}
    {object : Object}
    (member : object ∈ store.objectsOf kind) :
    object.kind = kind := by
  cases kind <;> obtain ⟨_, -, rfl⟩ := List.mem_map.mp member <;> rfl

/-- An object of a store is one of the objects of its kind. -/
theorem mem_objects_iff
    {store : Store}
    {object : Object} :
    object ∈ store.objects ↔ object ∈ store.objectsOf object.kind := by
  rw [objects, List.mem_append, List.mem_append]
  constructor
  · rintro ((member | member) | member) <;> rwa [kind_of_mem_objectsOf member]
  · intro member
    cases object with
    | client => exact .inl (.inl member)
    | group => exact .inl (.inr member)
    | secret => exact .inr member

/-- A client is an object of the store if the store has the client. -/
@[simp] theorem client_mem_objects_iff
    {store : Store}
    {client : Client} :
    .client client ∈ store.objects ↔ client ∈ store.clients.values := by
  simp [mem_objects_iff, objectsOf, Object.kind]

/-- A group is an object of the store if the store has the group. -/
@[simp] theorem group_mem_objects_iff
    {store : Store}
    {group : Group} :
    .group group ∈ store.objects ↔ group ∈ store.groups.values := by
  simp [mem_objects_iff, objectsOf, Object.kind]

/-- A secret is an object of the store if the store has the secret. -/
@[simp] theorem secret_mem_objects_iff
    {store : Store}
    {secret : Secret} :
    .secret secret ∈ store.objects ↔ secret ∈ store.secrets.values := by
  simp [mem_objects_iff, objectsOf, Object.kind]

/-- Whether the records of a store stand under their identifiers, and these were given. -/
structure InOrder (store : Store) : Prop where
  consistent : store.Consistent
  numbered : store.Numbered

section Records

variable {α : Type} {records : OrderedMap Int64 α} {idOf : α → Int64}

/-- A record is found by its own identifier. -/
theorem OwnIds.find?_eq_some
    (own : OwnIds records idOf)
    {record : α}
    (member : record ∈ records.values) :
    records.find? (idOf record) = some record := by
  obtain ⟨id, found⟩ := OrderedMap.mem_values_iff.mp member
  rw [own id record found]
  exact found

/-- The identifier of a record is in use. -/
theorem OwnIds.mem_keys
    (own : OwnIds records idOf)
    {record : α}
    (member : record ∈ records.values) :
    idOf record ∈ records.keys := by
  rw [← OrderedMap.contains_iff_mem_keys, OrderedMap.contains, own.find?_eq_some member]
  rfl

/-- Under an identifier that is there stands a record that has it. -/
theorem OwnIds.exists_mem_values
    (own : OwnIds records idOf)
    {id : Int64}
    (known : records.contains id = true) :
    ∃ record ∈ records.values, idOf record = id := by
  obtain ⟨record, found⟩ := Option.isSome_iff_exists.mp known
  exact ⟨record, OrderedMap.mem_values_iff.mpr ⟨id, found⟩, own id record found⟩

/-- Records are listed in the order of their identifiers. -/
theorem OwnIds.pairwise_values
    (own : OwnIds records idOf) :
    records.values.Pairwise fun earlier later => idOf earlier < idOf later := by
  rw [OrderedMap.values, List.pairwise_map]
  refine records.ascending.imp_of_mem fun {earlier later} isEarlier isLater before => ?_
  rw [own _ _ (OrderedMap.find?_eq_some_iff.mpr isEarlier),
    own _ _ (OrderedMap.find?_eq_some_iff.mpr isLater)]
  exact Std.compare_eq_lt.mp before

/-- The records that are left when one goes are those with other identifiers. -/
theorem OwnIds.values_erase
    (own : OwnIds records idOf)
    (gone : Int64) :
    (records.erase gone).values = records.values.filter fun record => gone ≠ idOf record := by
  rw [OrderedMap.values, OrderedMap.values, List.filter_map]
  refine congrArg (List.map _) (List.filter_congr fun entry member => ?_)
  have isOwn : idOf entry.2 = entry.1 := own _ _ (OrderedMap.find?_eq_some_iff.mpr member)
  rw [Function.comp_apply, isOwn, Bool.eq_iff_iff, bne_iff_ne, decide_eq_true_iff,
    ne_eq, ne_eq, Std.LawfulEqOrd.compare_eq_iff_eq]

end Records

namespace InOrder

variable {store : Store}

/-- The identifier of every object was given. -/
theorem id_le_lastId
    (inOrder : store.InOrder)
    {object : Object}
    (member : object ∈ store.objects) :
    object.id ≤ store.lastId := by
  obtain ⟨consistent, numbered⟩ := inOrder
  cases object with
  | client stored =>
      exact numbered.clients _ (consistent.clients.mem_keys (client_mem_objects_iff.mp member))
  | group stored =>
      exact numbered.groups _ (consistent.groups.mem_keys (group_mem_objects_iff.mp member))
  | secret stored =>
      exact numbered.secrets _ (consistent.secrets.mem_keys (secret_mem_objects_iff.mp member))

end InOrder

/-! ## What becomes of the objects -/

/--
Whether a store has the objects of another one, without the one that goes, and with those that
come behind the others of their kind. The new identifiers are greater than all that were given.
-/
structure Turns
    (store : Store)
    (gone : Option (Kind × Int64))
    (born : List Object)
    (after : Store) :
    Prop where
  objectsOf :
    ∀ kind,
      after.objectsOf kind =
        (store.objectsOf kind).filter (fun object => gone ≠ some object.key) ++
          born.filter fun object => object.kind = kind
  lastId : store.lastId ≤ after.lastId
  isGreater : ∀ object ∈ born, store.lastId < object.id
  ascending : (born.map Object.id).Pairwise (· < ·)
  oneKind : ∃ kind, ∀ object ∈ born, object.kind = kind

namespace Turns

variable {store between after : Store} {gone : Option (Kind × Int64)} {born others : List Object}

/-- Nothing comes or goes where the objects and the last identifier stay. -/
theorem unchanged
    (clients : after.clients = store.clients)
    (groups : after.groups = store.groups)
    (secrets : after.secrets = store.secrets)
    (lastId : after.lastId = store.lastId) :
    store.Turns none [] after where
  objectsOf kind := by cases kind <;> simp [Store.objectsOf, clients, groups, secrets]
  lastId := by rw [lastId]; exact Int64.le_refl _
  isGreater := nofun
  ascending := .nil
  oneKind := ⟨.client, nofun⟩

/-- One object comes, and is the last one of its kind. -/
theorem one
    {object : Object}
    (isLess : store.lastId < object.id)
    (lastId : after.lastId = object.id)
    (objectsOf :
      ∀ kind,
        after.objectsOf kind =
          store.objectsOf kind ++ [object].filter fun object => object.kind = kind) :
    store.Turns none [object] after where
  objectsOf kind := by simp [objectsOf]
  lastId := by rw [lastId]; exact Int64.le_of_lt isLess
  isGreater other member := by rwa [List.mem_singleton.mp member]
  ascending := List.pairwise_singleton _ _
  oneKind := ⟨object.kind, fun other member => by rw [List.mem_singleton.mp member]⟩

/-- A new client comes behind all others, and nothing goes. -/
theorem client
    {client : Client}
    (numbered : store.Numbered)
    (isLess : store.lastId < client.id) :
    store.Turns none [.client client] (store.withClient client) := by
  have values := values_insert_of_lt numbered.clients isLess client
  refine .one isLess rfl fun kind => ?_
  cases kind <;> simp [Store.objectsOf, withClient, values, Object.kind]

/-- A new group comes behind all others, and nothing goes. -/
theorem group
    {group : Group}
    (numbered : store.Numbered)
    (isLess : store.lastId < group.id) :
    store.Turns none [.group group] (store.withGroup group) := by
  have values := values_insert_of_lt numbered.groups isLess group
  refine .one isLess rfl fun kind => ?_
  cases kind <;> simp [Store.objectsOf, withGroup, values, Object.kind]

/-- A new secret comes behind all others, and nothing goes. -/
theorem secret
    {secret : Secret}
    (numbered : store.Numbered)
    (isLess : store.lastId < secret.id) :
    store.Turns none [.secret secret] (store.withSecret secret) := by
  have values := values_insert_of_lt numbered.secrets isLess secret
  refine .one isLess rfl fun kind => ?_
  cases kind <;> simp [Store.objectsOf, withSecret, values, Object.kind]

/-- One object goes. -/
theorem without
    {kind : Kind}
    {id : Int64}
    (lastId : after.lastId = store.lastId)
    (objectsOf :
      ∀ other,
        after.objectsOf other =
          (store.objectsOf other).filter fun object => (kind, id) ≠ object.key) :
    store.Turns (some (kind, id)) [] after where
  objectsOf other := by simp [objectsOf]
  lastId := by rw [lastId]; exact Int64.le_refl _
  isGreater := nofun
  ascending := .nil
  oneKind := ⟨.client, nofun⟩

/-- A client that is deleted goes alone. -/
theorem withoutClient
    (own : OwnIds store.clients Client.id)
    (id : Int64) :
    store.Turns (some (.client, id)) [] (store.withoutClient id) := by
  refine .without rfl fun kind => ?_
  cases kind <;>
    simp [Store.objectsOf, Store.withoutClient, own.values_erase, List.filter_map, Object.key,
      Object.kind, Object.id, Function.comp_def]

/-- A group that is deleted goes alone. -/
theorem withoutGroup
    (own : OwnIds store.groups Group.id)
    (id : Int64) :
    store.Turns (some (.group, id)) [] (store.withoutGroup id) := by
  refine .without rfl fun kind => ?_
  cases kind <;>
    simp [Store.objectsOf, Store.withoutGroup, own.values_erase, List.filter_map, Object.key,
      Object.kind, Object.id, Function.comp_def]

/-- A secret that is deleted goes alone. -/
theorem withoutSecret
    (own : OwnIds store.secrets Secret.id)
    (id : Int64) :
    store.Turns (some (.secret, id)) [] (store.withoutSecret id) := by
  refine .without rfl fun kind => ?_
  cases kind <;>
    simp [Store.objectsOf, Store.withoutSecret, own.values_erase, List.filter_map, Object.key,
      Object.kind, Object.id, Function.comp_def]

/-- Those that come first and those that come next are of one kind. -/
theorem trans
    (first : store.Turns none born between)
    (next : between.Turns none others after)
    (given : ∀ object ∈ born, object.id ≤ between.lastId)
    (oneKind : ∃ kind, ∀ object ∈ born ++ others, object.kind = kind) :
    store.Turns none (born ++ others) after where
  objectsOf kind := by simp [first.objectsOf, next.objectsOf]
  lastId := Int64.le_trans first.lastId next.lastId
  isGreater object member := by
    rcases List.mem_append.mp member with isFirst | isNext
    · exact first.isGreater object isFirst
    · exact Int64.lt_of_le_of_lt first.lastId (next.isGreater object isNext)
  ascending := by
    rw [List.map_append, List.pairwise_append]
    refine ⟨first.ascending, next.ascending, ?_⟩
    intro earlier isEarlier later isLater
    obtain ⟨object, isFirst, rfl⟩ := List.mem_map.mp isEarlier
    obtain ⟨other, isNext, rfl⟩ := List.mem_map.mp isLater
    exact Int64.lt_of_le_of_lt (given object isFirst) (next.isGreater other isNext)
  oneKind := oneKind

end Turns

/-- Secrets that are generated come in the order in which they are made. -/
theorem Generates.turns
    {user : String}
    {store after : Store}
    {inputs : List TemplateInput}
    {secrets : List Secret}
    (generates : Generates user store inputs secrets after)
    (numbered : store.Numbered)
    (room : store.lastId.toInt + inputs.length < 2 ^ 63) :
    store.Turns none (secrets.map .secret) after := by
  induction generates with
  | done => exact .unchanged rfl rfl rfl rfl
  | @next store between after input inputs secret secrets first rest inductionHypothesis =>
      rw [List.length_cons] at room
      have between_numbered : between.Numbered :=
        (Generates.next first .done).numbered numbered (by simp; omega)
      obtain ⟨-, -, rfl, rfl⟩ := generateOne_eq_ok_iff.mp first
      have next := toInt_nextId numbered.lastId (by omega)
      have isLess : store.lastId < store.nextId := by
        rw [Int64.lt_iff_toInt_lt]
        omega
      have later := inductionHypothesis between_numbered (by
        show store.nextId.toInt + _ < _
        omega)
      have one : store.Turns none [.secret (store.newSecret user (generated input))] _ :=
        .secret numbered isLess
      refine one.trans later (fun object member => ?_) ⟨.secret, fun object member => ?_⟩
      · rw [List.mem_singleton.mp member]
        exact Int64.le_refl _
      · rw [List.singleton_append, ← List.map_cons] at member
        obtain ⟨_, -, rfl⟩ := List.mem_map.mp member
        rfl

/-! ## What commands do to the objects -/

/-- How a command is answered, which object it takes away, and which ones it creates. -/
inductive Outcome
    (store : Store)
    (user : String) :
    Command → Answer → Option (Kind × Int64) → List Object → Prop where
  | denied
      (command : Command)
      (denial : Denial) :
      Outcome store user command (.denied denial) none []
  | told
      {command : Command}
      {answer : Answer}
      (notCreated : ∀ document, answer ≠ .created document)
      (deletesNone : command.target? = none)
      (createsNone : ∀ id, command.object? user id = none)
      (notGenerator : ∀ generator parameters, command ≠ .generate generator parameters) :
      Outcome store user command answer none []
  | deleted
      {command : Command}
      {object : Object}
      (isThere : object ∈ store.objects)
      (target : command.target? = some object.key) :
      Outcome store user command .removed (some object.key) []
  | created
      {command : Command}
      {object : Object}
      (creates : command.object? user store.nextId = some object) :
      Outcome store user command (.created object.alone) none [object]
  | generated
      {generator : String}
      {parameters : List Json}
      {inputs : List TemplateInput}
      {secrets : List Secret}
      {after : Store}
      (described : parameters.mapM TemplateInput.ofJson? = some inputs)
      (generates : Generates user store inputs secrets after) :
      Outcome store user (.generate generator parameters)
        (.found (Secret.codec.array.write secrets)) none (secrets.map .secret)
  | brokenOff
      {generator : String}
      {parameters : List Json}
      {inputs : List TemplateInput}
      {secrets : List Secret}
      {after : Store}
      (denial : Denial)
      (fewer : inputs.length < parameters.length)
      (generates : Generates user store inputs secrets after) :
      Outcome store user (.generate generator parameters) (.denied denial) none
        (secrets.map .secret)

section Details

variable {store : Store}

/-- The detail of a client that was just created shows it without memberships. -/
theorem Ordered.alone_client
    (ordered : store.Ordered)
    (user : String)
    (input : ClientInput) :
    let client := store.newClient user input
    (Object.client client).alone =
      ClientDetail.codec.write ((store.withClient client).detailOfClient client) := by
  intro client
  obtain ⟨noGroups, noSecrets, -⟩ := ordered.newClient user input
  let detail := (store.withClient client).detailOfClient client
  show _ = ClientDetail.codec.write
    ⟨client.id, client.name, client.description, client.createdBy, detail.groups, detail.secrets⟩
  rw [noGroups, noSecrets, Object.alone]

/-- The detail of a group that was just created has no secrets and no clients. -/
theorem Ordered.alone_group
    (ordered : store.Ordered)
    (user : String)
    (input : GroupInput) :
    let group := store.newGroup user input
    (Object.group group).alone =
      GroupDetail.codec.write ((store.withGroup group).detailOfGroup group) := by
  intro group
  obtain ⟨noSecrets, noClients, -⟩ := ordered.newGroup user input
  let detail := (store.withGroup group).detailOfGroup group
  show _ = GroupDetail.codec.write
    ⟨group.id, group.name, group.description, group.createdBy, detail.secrets, detail.clients⟩
  rw [noSecrets, noClients, Object.alone]

/-- The detail of a secret that was just created has no groups and no clients. -/
theorem Ordered.alone_secret
    (ordered : store.Ordered)
    (user : String)
    (input : SecretInput) :
    let secret := store.newSecret user input
    (Object.secret secret).alone =
      SecretDetail.codec.write ((store.withSecret secret).detailOfSecret secret) := by
  intro secret
  obtain ⟨noGroups, noClients, -⟩ := ordered.newSecret user input
  let detail := (store.withSecret secret).detailOfSecret secret
  show _ = SecretDetail.codec.write
    ⟨secret.id, secret.name, secret.description, secret.createdBy, secret.metadata,
      detail.groups, detail.clients⟩
  rw [noGroups, noClients, Object.alone]

end Details

/-- A generator is answered with all secrets that it makes, or breaks off behind some of them. -/
theorem generate_outcome
    {store after : Store}
    {user generator : String}
    {parameters : List Json}
    {answer : Answer}
    (inOrder : store.InOrder)
    (kept : 0 ≤ after.lastId)
    (few : parameters.length ≤ greatestLength)
    (executed : store.execute user (.generate generator parameters) = (answer, after)) :
    ∃ born,
      store.Outcome user (.generate generator parameters) answer none born ∧
        store.Turns none born after := by
  have turns {inputs secrets} (generates : Generates user store inputs secrets after)
      (fewer : inputs.length ≤ parameters.length) :
      store.Turns none (secrets.map .secret) after := by
    refine generates.turns inOrder.numbered ?_
    rw [generates.lastId] at kept
    rw [← toInt_add_ofNat (Nat.le_trans fewer few)
      (Int64.le_iff_toInt_le.mp inOrder.numbered.lastId) (Int64.le_iff_toInt_le.mp kept)]
    exact Int64.toInt_lt _
  rw [execute] at executed
  split at executed
  next secrets final succeeded =>
    cases executed
    obtain ⟨inputs, -, described, generates⟩ := generate_eq_ok succeeded
    exact ⟨_, .generated described generates,
      turns generates (Nat.le_of_eq (length_of_mapM described))⟩
  next denial final failed =>
    cases executed
    obtain rfl | ⟨inputs, -, described, stopped⟩ := generate_eq_error failed
    · exact ⟨[], .denied _ denial, .unchanged rfl rfl rfl rfl⟩
    obtain ⟨front, secrets, input, rest, rfl, generates, -⟩ := generateAll_eq_error_iff.mp stopped
    have fewer : front.length < parameters.length := by
      rw [← length_of_mapM described, List.length_append, List.length_cons]
      omega
    exact ⟨_, .brokenOff denial fewer generates, turns generates (Nat.le_of_lt fewer)⟩

/-- Every command has one of these outcomes, and the objects turn accordingly. -/
theorem execute_turns
    {store after : Store}
    {user : String}
    {command : Command}
    {answer : Answer}
    (inOrder : store.InOrder)
    (kept : 0 ≤ after.lastId)
    (few :
      ∀ generator parameters,
        command = .generate generator parameters → parameters.length ≤ greatestLength)
    (executed : store.execute user command = (answer, after)) :
    ∃ gone born, store.Outcome user command answer gone born ∧ store.Turns gone born after := by
  have numbered := inOrder.numbered
  have consistent := inOrder.consistent
  have denied {command : Command} (denial : Denial) :
      ∃ gone born,
        store.Outcome user command (.denied denial) gone born ∧ store.Turns gone born store :=
    ⟨none, [], .denied command denial, .unchanged rfl rfl rfl rfl⟩
  cases command with
  | createClient input =>
      obtain ⟨_, succeeded, rfl⟩ | ⟨denial, -, rfl, rfl⟩ := answerCreated_cases executed
      · obtain ⟨-, -, rfl, rfl⟩ := createClient_eq_ok_iff.mp succeeded
        have isLess := lastId_lt_nextId numbered.lastId kept
        have alone := Ordered.alone_client ⟨consistent, numbered, isLess⟩ user input
        exact ⟨none, _, alone ▸ .created rfl, .client numbered isLess⟩
      · exact denied denial
  | createGroup input =>
      obtain ⟨_, succeeded, rfl⟩ | ⟨denial, -, rfl, rfl⟩ := answerCreated_cases executed
      · obtain ⟨-, -, rfl, rfl⟩ := createGroup_eq_ok_iff.mp succeeded
        have isLess := lastId_lt_nextId numbered.lastId kept
        have alone := Ordered.alone_group ⟨consistent, numbered, isLess⟩ user input
        exact ⟨none, _, alone ▸ .created rfl, .group numbered isLess⟩
      · exact denied denial
  | createSecret input =>
      obtain ⟨_, succeeded, rfl⟩ | ⟨denial, -, rfl, rfl⟩ := answerCreated_cases executed
      · obtain ⟨-, -, -, rfl, rfl⟩ := createSecret_eq_ok_iff.mp succeeded
        have isLess := lastId_lt_nextId numbered.lastId kept
        have alone := Ordered.alone_secret ⟨consistent, numbered, isLess⟩ user input
        exact ⟨none, _, alone ▸ .created rfl, .secret numbered isLess⟩
      · exact denied denial
  | deleteClient id =>
      obtain ⟨succeeded, rfl⟩ | ⟨denial, -, rfl, rfl⟩ := answerChanged_cases executed
      · obtain ⟨known, rfl⟩ := deleteClient_eq_ok_iff.mp succeeded
        obtain ⟨client, isThere, rfl⟩ := consistent.clients.exists_mem_values known
        exact ⟨_, [], .deleted (client_mem_objects_iff.mpr isThere) rfl,
          .withoutClient consistent.clients client.id⟩
      · exact denied denial
  | deleteGroup id =>
      obtain ⟨succeeded, rfl⟩ | ⟨denial, -, rfl, rfl⟩ := answerChanged_cases executed
      · obtain ⟨known, rfl⟩ := deleteGroup_eq_ok_iff.mp succeeded
        obtain ⟨group, isThere, rfl⟩ := consistent.groups.exists_mem_values known
        exact ⟨_, [], .deleted (group_mem_objects_iff.mpr isThere) rfl,
          .withoutGroup consistent.groups group.id⟩
      · exact denied denial
  | deleteSecret id =>
      obtain ⟨succeeded, rfl⟩ | ⟨denial, -, rfl, rfl⟩ := answerChanged_cases executed
      · obtain ⟨known, rfl⟩ := deleteSecret_eq_ok_iff.mp succeeded
        obtain ⟨secret, isThere, rfl⟩ := consistent.secrets.exists_mem_values known
        exact ⟨_, [], .deleted (secret_mem_objects_iff.mpr isThere) rfl,
          .withoutSecret consistent.secrets secret.id⟩
      · exact denied denial
  | generate generator parameters =>
      obtain ⟨born, outcome, turns⟩ :=
        generate_outcome inOrder kept (few generator parameters rfl) executed
      exact ⟨none, born, outcome, turns⟩
  | enrollClient link | evictClient link =>
      obtain ⟨succeeded, rfl⟩ | ⟨denial, -, rfl, rfl⟩ := answerChanged_cases executed
      · obtain ⟨-, -, rfl⟩ := changeClientLink_eq_ok_iff.mp succeeded
        exact ⟨none, [], .told nofun rfl (fun _ => rfl) nofun, .unchanged rfl rfl rfl rfl⟩
      · exact denied denial
  | grantSecret link | revokeSecret link =>
      obtain ⟨succeeded, rfl⟩ | ⟨denial, -, rfl, rfl⟩ := answerChanged_cases executed
      · obtain ⟨-, -, rfl⟩ := changeSecretLink_eq_ok_iff.mp succeeded
        exact ⟨none, [], .told nofun rfl (fun _ => rfl) nofun, .unchanged rfl rfl rfl rfl⟩
      · exact denied denial
  | tellUser | listGroups | listSecrets | listClients =>
      cases executed
      exact ⟨none, [], .told nofun rfl (fun _ => rfl) nofun, .unchanged rfl rfl rfl rfl⟩
  | findGroup _ | showGroup _ | findSecret _ _ | listVersions _ | showSecret _ | findClient _
  | showClient _ =>
      cases executed
      exact ⟨none, [],
        .told (fun _ => Answer.ofFound_ne_created _ _ _) rfl (fun _ => rfl) nofun,
        .unchanged rfl rfl rfl rfl⟩

/--
What passes when a request is served, and which object goes and which ones come by it: nothing if
the request fails or begins a session, else what its command leads to.
-/
inductive Passes
    (store : Store)
    (request : Request)
    (after : Store) :
    Http.Response → Option (Kind × Int64) → List Object → Prop where
  | nothing
      {response : Http.Response}
      (idle :
        400 ≤ response.status ∨
          request.command? = none ∧ response.status = 200 ∧ response.body = "") :
      Passes store request after response none []
  | obeyed
      {user : String}
      {command : Command}
      {answer : Answer}
      {gone : Option (Kind × Int64)}
      {born : List Object}
      (known : store.user? request = some user)
      (asked : request.command? = some command)
      (executed : store.execute user command = (answer, after))
      (outcome : store.Outcome user command answer gone born) :
      Passes store request after
        (answer.responseTo request) gone born

/-- Whatever passes, the objects turn accordingly. -/
theorem serve_turns
    {store : Store}
    {token : String}
    {request : Request}
    (inOrder : store.InOrder)
    (kept : 0 ≤ (store.serve token request).2.lastId) :
    ∃ gone born,
      store.Passes request (store.serve token request).2 (store.serve token request).1 gone born ∧
        store.Turns gone born (store.serve token request).2 := by
  have served := store.serve_served token request
  generalize isResponse : (store.serve token request).1 = response at served ⊢
  generalize isAfter : (store.serve token request).2 = after at served kept ⊢
  cases served with
  | refused failure => exact ⟨none, [], .nothing (.inl failure), .unchanged rfl rfl rfl rfl⟩
  | begun route login =>
      obtain ⟨-, rfl⟩ := login_eq_ok_iff.mp login
      have noCommand : request.command? = none := by
        rw [Request.command?, route]
      exact ⟨none, [], .nothing (.inr ⟨noCommand, rfl, rfl⟩), .unchanged rfl rfl rfl rfl⟩
  | @obeyed user command answer _ _ known asked executed status =>
      obtain ⟨gone, born, outcome, turns⟩ :=
        execute_turns inOrder kept (fun generator parameters same =>
          length_parameters_le (same ▸ asked)) executed
      rw [serve_of_command token known asked, executed] at isResponse
      exact ⟨gone, born, isResponse ▸ .obeyed known asked executed outcome, turns⟩

/-! ## Identifiers that a run gives -/

/-- How many identifiers a run gives: by how many each request moves the last one on. -/
def issued (store : Store) : List Arrival → Nat
  | [] => 0
  | arrival :: rest =>
      let after := (store.serve arrival.token arrival.request).2
      (after.lastId - store.lastId).toNatClampNeg + after.issued rest

/-- A request gives at most as many identifiers as bytes are read, and keeps them in order. -/
theorem serve_issues
    (store : Store)
    (arrival : Arrival) :
    store.issued [arrival] ≤ greatestLength ∧
      (store.serve arrival.token arrival.request).2.lastId =
        store.lastId + Int64.ofNat (store.issued [arrival]) ∧
      (store.Numbered → 0 ≤ (store.serve arrival.token arrival.request).2.lastId →
        (store.serve arrival.token arrival.request).2.Numbered) := by
  obtain ⟨count, few, taken, keeps⟩ := store.serve_takes arrival.token arrival.request
  have isCount : store.issued [arrival] = count := by
    unfold greatestLength at few
    rw [issued, taken, Int64.add_comm, Int64.add_sub_cancel,
      Int64.toNatClampNeg_ofNat_of_lt (by omega), issued, Nat.add_zero]
  rw [isCount]
  exact ⟨few, taken, keeps⟩

/-- A longer run gives what its beginning gives, and then what the rest gives. -/
theorem issued_append
    (store : Store)
    (earlier later : List Arrival) :
    store.issued (earlier ++ later) =
      store.issued earlier + (store.run earlier).2.issued later := by
  induction earlier generalizing store with
  | nil => simp [issued]
  | cons arrival rest inductionHypothesis =>
      rw [List.cons_append, issued, issued, inductionHypothesis, run_cons, Nat.add_assoc]

/-- The beginning of a run gives no more identifiers than the whole. -/
theorem issued_mono
    (store : Store)
    {earlier arrivals : List Arrival}
    (isEarlier : earlier <+: arrivals) :
    store.issued earlier ≤ store.issued arrivals := by
  obtain ⟨later, rfl⟩ := isEarlier
  rw [issued_append]
  exact Nat.le_add_right _ _

/-- A bound on what a run gives is one on what its beginning gives. -/
theorem issued_lt_of_append
    {earlier later : List Arrival}
    {bound : Nat}
    (few : fresh.issued (earlier ++ later) < bound) :
    fresh.issued earlier < bound :=
  Nat.lt_of_le_of_lt (issued_mono fresh (List.prefix_append _ _)) few

/-- A run gives at most as many identifiers as bytes are read of its requests. -/
theorem issued_le
    (store : Store)
    (arrivals : List Arrival) :
    store.issued arrivals ≤ greatestLength * arrivals.length := by
  induction arrivals generalizing store with
  | nil => exact Nat.le_refl _
  | cons arrival rest inductionHypothesis =>
      have first := (store.serve_issues arrival).1
      have later := inductionHypothesis (store.serve arrival.token arrival.request).2
      rw [← List.singleton_append, issued_append, run_cons, run_nil, List.length_append,
        List.length_singleton, Nat.mul_add, Nat.mul_one]
      dsimp only
      exact Nat.add_le_add first later

/--
In a run that gives fewer than 2^63 identifiers, the last one is their number, and the records of
the store are in order.
-/
theorem lastId_run
    {arrivals : List Arrival}
    (few : fresh.issued arrivals < 2 ^ 63) :
    (fresh.run arrivals).2.lastId.toInt = fresh.issued arrivals ∧
      (fresh.run arrivals).2.Numbered := by
  induction arrivals using List.reverseRecOn with
  | nil => exact ⟨rfl, fresh_numbered⟩
  | append_singleton earlier last inductionHypothesis =>
      rw [issued_append] at few ⊢
      obtain ⟨same, numbered⟩ := inductionHypothesis (by omega)
      rw [run_concat]
      dsimp only
      obtain ⟨small, taken, keeps⟩ := (fresh.run earlier).2.serve_issues last
      generalize (fresh.run earlier).2.issued [last] = count at few small taken ⊢
      have sum : ((fresh.run earlier).2.lastId + Int64.ofNat count).toInt =
          (fresh.run earlier).2.lastId.toInt + count := by
        rw [Int64.toInt_add, Int64.toInt_ofNat_of_lt (by omega), Int.bmod_def]
        omega
      have zero : (0 : Int64).toInt = 0 := rfl
      have kept : 0 ≤ (fresh.run earlier).2.lastId + Int64.ofNat count := by
        rw [Int64.le_iff_toInt_le]
        omega
      rw [taken] at keeps ⊢
      refine ⟨?_, keeps numbered kept⟩
      omega

/-- The records of a store are in order as long as identifiers do not run out. -/
theorem inOrder_run
    {arrivals : List Arrival}
    (few : fresh.issued arrivals < 2 ^ 63) :
    (fresh.run arrivals).2.InOrder :=
  ⟨Reachable.consistent ⟨arrivals, rfl⟩, (lastId_run few).2⟩

/-- Whether the identifiers do not run out in a run: there is always a next one to give. -/
def Unexhausted (arrivals : List Arrival) : Prop :=
  ∀ earlier, earlier <+: arrivals → 0 < (fresh.run earlier).2.nextId

/-- There is a next identifier exactly if the last one is not the greatest of all. -/
theorem nextId_pos_iff {store : Store} :
    0 < store.nextId ↔ 0 ≤ store.lastId ∧ store.lastId.toInt + 1 < 2 ^ 63 := by
  have least := store.lastId.le_toInt
  have less := store.lastId.toInt_lt
  have zero : (0 : Int64).toInt = 0 := rfl
  rw [nextId, Int64.lt_iff_toInt_lt, Int64.le_iff_toInt_le, Int64.toInt_add, Int64.toInt_one,
    Int.bmod_def]
  omega

/-- After a run in which the identifiers do not run out, the last one is their number. -/
theorem Unexhausted.lastId
    {arrivals : List Arrival}
    (unexhausted : Unexhausted arrivals) :
    (fresh.run arrivals).2.lastId.toInt = fresh.issued arrivals := by
  induction arrivals using List.reverseRecOn with
  | nil => rfl
  | append_singleton earlier last inductionHypothesis =>
      have before := unexhausted earlier (List.prefix_append _ _)
      have after := unexhausted _ (List.prefix_refl _)
      have same := inductionHypothesis fun first isFirst =>
        unexhausted first (isFirst.trans (List.prefix_append _ _))
      have least := (nextId_pos_iff.mp before).1
      have kept := (nextId_pos_iff.mp after).1
      rw [run_concat] at kept ⊢
      dsimp only at kept ⊢
      rw [issued_append, Int.natCast_add, ← same]
      generalize (fresh.run earlier).2 = store at least kept ⊢
      obtain ⟨small, taken, -⟩ := store.serve_issues last
      rw [taken] at kept ⊢
      generalize store.issued [last] = count at small kept ⊢
      exact toInt_add_ofNat small (Int64.le_iff_toInt_le.mp least)
        (Int64.le_iff_toInt_le.mp kept)

/-- The identifiers do not run out exactly if the run leaves one of them to give. -/
theorem unexhausted_iff {arrivals : List Arrival} :
    Unexhausted arrivals ↔ fresh.issued arrivals + 1 < 2 ^ 63 := by
  constructor
  · intro unexhausted
    have room := (nextId_pos_iff.mp (unexhausted arrivals (List.prefix_refl _))).2
    rw [unexhausted.lastId] at room
    omega
  · intro few earlier isEarlier
    have fewer := issued_mono fresh isEarlier
    have isFew : fresh.issued earlier < 2 ^ 63 := by omega
    obtain ⟨same, numbered⟩ := lastId_run isFew
    exact nextId_pos_iff.mpr ⟨numbered.lastId, by omega⟩

/-- The identifiers do not run out in runs of fewer than 2^42 requests. -/
theorem unexhausted_of_length
    {arrivals : List Arrival}
    (few : arrivals.length < 2 ^ 42) :
    Unexhausted arrivals := by
  have bound := issued_le fresh arrivals
  unfold greatestLength at bound
  exact unexhausted_iff.mpr (by omega)

/-- As long as identifiers do not run out, the records of a store are in order. -/
theorem Unexhausted.ordered
    {arrivals : List Arrival}
    (unexhausted : Unexhausted arrivals) :
    (fresh.run arrivals).2.Ordered := by
  have few := unexhausted_iff.mp unexhausted
  have isFew : fresh.issued arrivals < 2 ^ 63 := by omega
  have numbered := (lastId_run isFew).2
  have next := unexhausted arrivals (List.prefix_refl _)
  exact ⟨Reachable.consistent ⟨arrivals, rfl⟩, numbered,
    lastId_lt_nextId numbered.lastId (Int64.le_of_lt next)⟩

/-- In a run that does not give too many identifiers, each request turns the objects. -/
theorem run_turns
    {earlier : List Arrival}
    {next : Arrival}
    (few : fresh.issued (earlier ++ [next]) < 2 ^ 63) :
    ∃ gone born,
      (fresh.run earlier).2.Passes next.request
          ((fresh.run earlier).2.serve next.token next.request).2
          ((fresh.run earlier).2.serve next.token next.request).1 gone born ∧
        (fresh.run earlier).2.Turns gone born
          ((fresh.run earlier).2.serve next.token next.request).2 := by
  have fewer := issued_lt_of_append few
  have kept := (inOrder_run few).numbered.lastId
  rw [run_concat] at kept
  dsimp only at kept
  exact serve_turns (inOrder_run fewer) kept

end Store

end SecretsAdmin.Server
