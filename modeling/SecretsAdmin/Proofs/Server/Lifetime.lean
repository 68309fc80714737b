import Mathlib.Data.List.Nodup
import SecretsAdmin.Proofs.Server.Membership
import SecretsAdmin.Proofs.Server.Objects

namespace SecretsAdmin.Server

/-!
# The lives of objects

No identifier is given twice, whatever the kind of the object, and whoever is deleted never comes
back: nothing is found under the identifier, and no response has an object with it.
-/

open Model (Kind)

/-! ## Requests about an identifier -/

/-- The resource of an object. -/
def Resource.object : Kind → Parameter → Resource
  | .client => .client
  | .group => .group
  | .secret => .secret

/-- Whether a request is about an identifier: about its object, or about one of its memberships. -/
inductive Request.Names (request : Request) (id : Int64) : Prop where
  | object
      (kind : Kind)
      (method : request.method ∈ ["GET", "HEAD", "DELETE"])
      (isAt : request.AtId (Resource.object kind) id)
  | membership
      (kind : MemberKind)
      (link : Link)
      (method : request.method ∈ ["PUT", "DELETE"])
      (isAt : request.AtLink kind.membership link)
      (isEnd : link.member = id ∨ link.group = id)

/-- Whether an exchange deletes an object. -/
def Exchange.Deletes
    (exchange : Exchange)
    (kind : Kind)
    (id : Int64) :
    Prop :=
  exchange.request.method = "DELETE" ∧
    exchange.request.AtId (Resource.object kind) id ∧
    exchange.response.status = 204

namespace Command

/-- Whether a command is about the object of an identifier, or about one of its memberships. -/
def Names (id : Int64) : Command → Prop
  | showClient other | showGroup other | showSecret other => other = id
  | deleteClient other | deleteGroup other | deleteSecret other => other = id
  | enrollClient link | evictClient link | grantSecret link | revokeSecret link =>
      link.member = id ∨ link.group = id
  | _ => False

end Command

/-- A request about an identifier stands for a command about it. -/
theorem Request.Names.exists_command
    {request : Request}
    {id : Int64}
    (names : request.Names id) :
    ∃ command, request.command? = some command ∧ command.Names id := by
  cases names with
  | object kind method isAt =>
      obtain ⟨parameter, route, isRead⟩ := isAt
      have read {make : Int64 → Command} :
          CommandReader.ofId make parameter request = .ok (make id) :=
        CommandReader.ofId_eq_ok_iff.mpr ⟨id, isRead, rfl⟩
      have served : request.servedMethod = "GET" ∨ request.servedMethod = "DELETE" := by
        unfold servedMethod
        simp only [List.mem_cons, List.not_mem_nil, or_false] at method
        rcases method with same | same | same <;> simp [same]
      rcases served with isGet | isDelete
      · cases kind <;>
          refine ⟨_, command?_of_reader route (by rw [isGet]; rfl) read, ?_⟩ <;> rfl
      · cases kind <;>
          refine ⟨_, command?_of_reader route (by rw [isDelete]; rfl) read, ?_⟩ <;> rfl
  | membership kind link method isAt isEnd =>
      obtain ⟨member, group, route, isRead⟩ := isAt
      have read {make : Link → Command} :
          CommandReader.ofLink make member group request = .ok (make link) :=
        CommandReader.ofLink_eq_ok_iff.mpr ⟨link, isRead, rfl⟩
      have served : request.servedMethod = "PUT" ∨ request.servedMethod = "DELETE" := by
        unfold servedMethod
        simp only [List.mem_cons, List.not_mem_nil, or_false] at method
        rcases method with same | same <;> simp [same]
      rcases served with isPut | isDelete
      · cases kind <;>
          refine ⟨_, command?_of_reader route (by rw [isPut]; rfl) read, ?_⟩ <;> exact isEnd
      · cases kind <;>
          refine ⟨_, command?_of_reader route (by rw [isDelete]; rfl) read, ?_⟩ <;> exact isEnd

/-- An exchange that deletes an object stands for the command to do so. -/
theorem Exchange.Deletes.exists_command
    {exchange : Exchange}
    {kind : Kind}
    {id : Int64}
    (deletes : exchange.Deletes kind id) :
    ∃ command, exchange.request.command? = some command ∧ command.target? = some (kind, id) := by
  obtain ⟨method, ⟨parameter, route, isRead⟩, -⟩ := deletes
  have read {make : Int64 → Command} :
      CommandReader.ofId make parameter exchange.request = .ok (make id) :=
    CommandReader.ofId_eq_ok_iff.mpr ⟨id, isRead, rfl⟩
  have served : exchange.request.servedMethod = "DELETE" := by
    rw [Request.servedMethod, method]
    rfl
  cases kind <;>
    refine ⟨_, Request.command?_of_reader route (by rw [served]; rfl) read, ?_⟩ <;> rfl

/-! ## Documents -/

/-- Whether some object in a document has an identifier. -/
inductive Shows (id : Int64) : Json → Prop where
  | here
      {members : List (String × Json)}
      (isId : ("id", Json.integer id.toInt) ∈ members) :
      Shows id (.object members)
  | member
      {members : List (String × Json)}
      {name : String}
      {document : Json}
      (isMember : (name, document) ∈ members)
      (shows : Shows id document) :
      Shows id (.object members)
  | element
      {elements : List Json}
      {document : Json}
      (isElement : document ∈ elements)
      (shows : Shows id document) :
      Shows id (.array elements)

namespace Shows

variable {id : Int64}

/-- An object shows an identifier as its own, or within the value of a member. -/
@[simp] theorem object_iff
    {members : List (String × Json)} :
    Shows id (.object members) ↔
      ("id", Json.integer id.toInt) ∈ members ∨ ∃ entry ∈ members, Shows id entry.2 := by
  constructor
  · intro shows
    cases shows with
    | here isId => exact .inl isId
    | member isMember shows => exact .inr ⟨_, isMember, shows⟩
  · rintro (isId | ⟨⟨name, document⟩, isMember, shows⟩)
    · exact .here isId
    · exact .member isMember shows

/-- A list shows what its elements show. -/
@[simp] theorem array_iff
    {elements : List Json} :
    Shows id (.array elements) ↔ ∃ document ∈ elements, Shows id document := by
  constructor
  · intro shows
    cases shows with
    | element isElement shows => exact ⟨_, isElement, shows⟩
  · rintro ⟨document, isElement, shows⟩
    exact .element isElement shows

@[simp] theorem not_text (value : String) : ¬Shows id (.text value) := nofun

@[simp] theorem not_integer (value : Int) : ¬Shows id (.integer value) := nofun

@[simp] theorem not_boolean (value : Bool) : ¬Shows id (.boolean value) := nofun

/-- A list shows what its elements show. -/
theorem codec_array_iff
    {α : Type}
    {codec : Json.Codec α}
    {values : List α} :
    Shows id (codec.array.write values) ↔ ∃ value ∈ values, Shows id (codec.write value) := by
  simp [Json.Codec.array]

/-- A map of texts has no number, so it shows no identifier, whatever its names are. -/
theorem not_dictionary (map : OrderedMap String String) :
    ¬Shows id (Json.Codec.dictionary.write map) := by
  simp [Json.Codec.dictionary]

/-- A stored client shows its own identifier only. -/
theorem client_iff
    {client : Client} :
    Shows id (Client.codec.write client) ↔ client.id = id := by
  show Shows id (.object [
    ("id", .integer client.id.toInt), ("name", .text client.name),
    ("description", .text client.description), ("createdBy", .text client.createdBy),
    ("enabled", .boolean client.enabled),
    ("automationAllowed", .boolean client.automationAllowed)]) ↔ _
  simp [Int64.toInt_inj, eq_comm]

/-- A group is written with no identifier but its own. -/
theorem group_iff
    {group : Group} :
    Shows id (Group.codec.write group) ↔ group.id = id := by
  show Shows id (.object [
    ("id", .integer group.id.toInt), ("name", .text group.name),
    ("description", .text group.description), ("createdBy", .text group.createdBy)]) ↔ _
  simp [Int64.toInt_inj, eq_comm]

/-- A secret is written with no identifier but its own. -/
theorem secret_iff
    {secret : Secret} :
    Shows id (Secret.codec.write secret) ↔ secret.id = id := by
  obtain ⟨number, name, description, version, createdBy, metadata⟩ := secret
  cases version with
  | none =>
      show Shows id (.object [
        ("id", .integer number.toInt), ("name", .text name), ("description", .text description),
        ("createdBy", .text createdBy),
        ("metadata", Json.Codec.dictionary.write metadata)]) ↔ _
      simp [not_dictionary, Int64.toInt_inj, eq_comm]
  | some version =>
      show Shows id (.object [
        ("id", .integer number.toInt), ("name", .text name), ("description", .text description),
        ("version", .text version), ("createdBy", .text createdBy),
        ("metadata", Json.Codec.dictionary.write metadata)]) ↔ _
      simp [not_dictionary, Int64.toInt_inj, eq_comm]

/-- The detail of a group shows the group and its members. -/
theorem groupDetail_iff
    {detail : GroupDetail} :
    Shows id (GroupDetail.codec.write detail) ↔
      detail.id = id ∨ (∃ secret ∈ detail.secrets, secret.id = id) ∨
        ∃ client ∈ detail.clients, client.id = id := by
  show Shows id (.object [
    ("id", .integer detail.id.toInt), ("name", .text detail.name),
    ("description", .text detail.description), ("createdBy", .text detail.createdBy),
    ("secrets", Secret.codec.array.write detail.secrets),
    ("clients", Client.codec.array.write detail.clients)]) ↔ _
  simp [codec_array_iff, secret_iff, client_iff, Int64.toInt_inj, eq_comm]

/-- The detail of a client shows the client and the groups and secrets in it. -/
theorem clientDetail_iff
    {detail : ClientDetail} :
    Shows id (ClientDetail.codec.write detail) ↔
      detail.id = id ∨ (∃ group ∈ detail.groups, group.id = id) ∨
        ∃ secret ∈ detail.secrets, secret.id = id := by
  show Shows id (.object [
    ("id", .integer detail.id.toInt), ("name", .text detail.name),
    ("description", .text detail.description), ("createdBy", .text detail.createdBy),
    ("groups", Group.codec.array.write detail.groups),
    ("secrets", Secret.codec.array.write detail.secrets)]) ↔ _
  simp [codec_array_iff, group_iff, secret_iff, Int64.toInt_inj, eq_comm]

/-- The detail of a secret shows the secret and the groups and clients in it. -/
theorem secretDetail_iff
    {detail : SecretDetail} :
    Shows id (SecretDetail.codec.write detail) ↔
      detail.id = id ∨ (∃ group ∈ detail.groups, group.id = id) ∨
        ∃ client ∈ detail.clients, client.id = id := by
  show Shows id (.object [
    ("id", .integer detail.id.toInt), ("name", .text detail.name),
    ("description", .text detail.description), ("createdBy", .text detail.createdBy),
    ("metadata", Json.Codec.dictionary.write detail.metadata),
    ("groups", Group.codec.array.write detail.groups),
    ("clients", Client.codec.array.write detail.clients)]) ↔ _
  simp [codec_array_iff, group_iff, client_iff, not_dictionary, Int64.toInt_inj, eq_comm]

/-- The detail of an object without memberships shows the object only. -/
theorem alone_iff
    {object : Object} :
    Shows id object.alone ↔ object.id = id := by
  cases object with
  | client stored => simp [Object.alone, clientDetail_iff, Object.id]
  | group stored => simp [Object.alone, groupDetail_iff, Object.id]
  | secret stored => simp [Object.alone, secretDetail_iff, Object.id]

end Shows

/-- What is found is written as it is. -/
theorem Answer.ofFound_eq_found_iff
    {α : Type}
    {codec : Json.Codec α}
    {found : Option α}
    {document : Json} :
    Answer.ofFound codec found = .found document ↔
      ∃ value, found = some value ∧ codec.write value = document := by
  cases found <;> simp [Answer.ofFound]

namespace Store

/-! ## What is told about an identifier -/

/-- Whether no object of a store has an identifier. -/
def Lacks (store : Store) (id : Int64) : Prop :=
  ∀ object ∈ store.objects, object.id ≠ id

section Lacks

variable {store after : Store} {id : Int64}

/-- What identifiers find is among the records. -/
private theorem mem_values_of_mem_filterMap
    {α : Type}
    {records : OrderedMap Int64 α}
    {ids : List Int64}
    {record : α}
    (member : record ∈ ids.filterMap records.find?) :
    record ∈ records.values := by
  obtain ⟨key, -, found⟩ := List.mem_filterMap.mp member
  exact OrderedMap.mem_values_iff.mpr ⟨key, found⟩

/-- A store that lacks an identifier has no client with it. -/
theorem Lacks.client
    (lacks : store.Lacks id)
    {client : Client}
    (isThere : client ∈ store.clients.values) :
    client.id ≠ id :=
  lacks (.client client) (client_mem_objects_iff.mpr isThere)

/-- A store that lacks an identifier has no group with it. -/
theorem Lacks.group
    (lacks : store.Lacks id)
    {group : Group}
    (isThere : group ∈ store.groups.values) :
    group.id ≠ id :=
  lacks (.group group) (group_mem_objects_iff.mpr isThere)

/-- A store that lacks an identifier has no secret with it. -/
theorem Lacks.secret
    (lacks : store.Lacks id)
    {secret : Secret}
    (isThere : secret ∈ store.secrets.values) :
    secret.id ≠ id :=
  lacks (.secret secret) (secret_mem_objects_iff.mpr isThere)

/-- The detail of a stored group shows objects of the store only. -/
theorem Lacks.not_shows_group
    (lacks : store.Lacks id)
    {group : Group}
    (isThere : group ∈ store.groups.values) :
    ¬Shows id (GroupDetail.codec.write (store.detailOfGroup group)) := by
  rw [Shows.groupDetail_iff]
  rintro (isId | ⟨secret, member, isId⟩ | ⟨client, member, isId⟩)
  · exact lacks.group isThere isId
  · exact lacks.secret (mem_values_of_mem_filterMap member) isId
  · exact lacks.client (mem_values_of_mem_filterMap member) isId

/-- The detail of a client names only objects that are there. -/
theorem Lacks.not_shows_client
    (lacks : store.Lacks id)
    {client : Client}
    (isThere : client ∈ store.clients.values) :
    ¬Shows id (ClientDetail.codec.write (store.detailOfClient client)) := by
  rw [Shows.clientDetail_iff]
  rintro (isId | ⟨group, member, isId⟩ | ⟨secret, member, isId⟩)
  · exact lacks.client isThere isId
  · exact lacks.group (mem_values_of_mem_filterMap member) isId
  · obtain ⟨group, -, isListed⟩ := List.mem_flatMap.mp member
    exact lacks.secret (mem_values_of_mem_filterMap isListed) isId

/-- The detail of a secret names only objects that are there. -/
theorem Lacks.not_shows_secret
    (lacks : store.Lacks id)
    {secret : Secret}
    (isThere : secret ∈ store.secrets.values) :
    ¬Shows id (SecretDetail.codec.write (store.detailOfSecret secret)) := by
  rw [Shows.secretDetail_iff]
  rintro (isId | ⟨group, member, isId⟩ | ⟨client, member, isId⟩)
  · exact lacks.secret isThere isId
  · exact lacks.group (mem_values_of_mem_filterMap member) isId
  · obtain ⟨group, -, isListed⟩ := List.mem_flatMap.mp member
    exact lacks.client (mem_values_of_mem_filterMap isListed) isId

/-- What is found for a command shows objects of the store only, unless a generator made it. -/
theorem Lacks.not_shows_found
    (lacks : store.Lacks id)
    {user : String}
    {command : Command}
    {document : Json}
    (executed : store.execute user command = (.found document, after))
    (notGenerator : ∀ generator parameters, command ≠ .generate generator parameters) :
    ¬Shows id document := by
  cases command with
  | tellUser =>
      cases executed
      simp
  | listGroups =>
      cases executed
      rw [Shows.codec_array_iff]
      rintro ⟨group, isThere, shows⟩
      exact lacks.group isThere (Shows.group_iff.mp shows)
  | listClients =>
      cases executed
      rw [Shows.codec_array_iff]
      rintro ⟨client, isThere, shows⟩
      exact lacks.client isThere (Shows.client_iff.mp shows)
  | listSecrets =>
      cases executed
      rw [Shows.codec_array_iff]
      rintro ⟨secret, isThere, shows⟩
      exact lacks.secret isThere (Shows.secret_iff.mp shows)
  | findGroup name =>
      obtain ⟨group, isNamed, rfl⟩ := Answer.ofFound_eq_found_iff.mp (congrArg Prod.fst executed)
      have isThere := List.mem_of_find?_eq_some isNamed
      intro shows
      exact lacks.group isThere (Shows.group_iff.mp shows)
  | findClient name =>
      obtain ⟨client, isNamed, rfl⟩ := Answer.ofFound_eq_found_iff.mp (congrArg Prod.fst executed)
      have isThere := List.mem_of_find?_eq_some isNamed
      intro shows
      exact lacks.client isThere (Shows.client_iff.mp shows)
  | findSecret name version =>
      obtain ⟨secret, isNamed, rfl⟩ := Answer.ofFound_eq_found_iff.mp (congrArg Prod.fst executed)
      have isThere := List.mem_of_find?_eq_some isNamed
      intro shows
      exact lacks.secret isThere (Shows.secret_iff.mp shows)
  | listVersions name =>
      obtain ⟨versions, -, rfl⟩ := Answer.ofFound_eq_found_iff.mp (congrArg Prod.fst executed)
      simp [Shows.codec_array_iff, Json.Codec.text]
  | showGroup other =>
      obtain ⟨detail, shown, rfl⟩ := Answer.ofFound_eq_found_iff.mp (congrArg Prod.fst executed)
      obtain ⟨group, found, rfl⟩ := Option.map_eq_some_iff.mp shown
      exact lacks.not_shows_group (OrderedMap.mem_values_iff.mpr ⟨other, found⟩)
  | showClient other =>
      obtain ⟨detail, shown, rfl⟩ := Answer.ofFound_eq_found_iff.mp (congrArg Prod.fst executed)
      obtain ⟨client, found, rfl⟩ := Option.map_eq_some_iff.mp shown
      exact lacks.not_shows_client (OrderedMap.mem_values_iff.mpr ⟨other, found⟩)
  | showSecret other =>
      obtain ⟨detail, shown, rfl⟩ := Answer.ofFound_eq_found_iff.mp (congrArg Prod.fst executed)
      obtain ⟨secret, found, rfl⟩ := Option.map_eq_some_iff.mp shown
      exact lacks.not_shows_secret (OrderedMap.mem_values_iff.mpr ⟨other, found⟩)
  | createGroup _ | createClient _ | createSecret _ =>
      obtain ⟨_, -, same⟩ | ⟨_, -, same, -⟩ := answerCreated_cases executed <;> cases same
  | deleteGroup _ | deleteClient _ | deleteSecret _ | enrollClient _ | evictClient _
  | grantSecret _ | revokeSecret _ =>
      obtain ⟨-, same⟩ | ⟨_, -, same, -⟩ := answerChanged_cases executed <;> cases same
  | generate generator parameters => exact absurd rfl (notGenerator generator parameters)

/-- Where no object has an identifier, none is found by it. -/
theorem Lacks.contains_eq_false
    (lacks : store.Lacks id)
    (consistent : store.Consistent) :
    store.clients.contains id = false ∧
      store.groups.contains id = false ∧
      store.secrets.contains id = false := by
  refine ⟨?_, ?_, ?_⟩ <;> rw [Bool.eq_false_iff] <;> intro known
  · obtain ⟨client, isThere, isId⟩ := consistent.clients.exists_mem_values known
    exact lacks.client isThere isId
  · obtain ⟨group, isThere, isId⟩ := consistent.groups.exists_mem_values known
    exact lacks.group isThere isId
  · obtain ⟨secret, isThere, isId⟩ := consistent.secrets.exists_mem_values known
    exact lacks.secret isThere isId

/-- A command about an identifier that no object has is answered that nothing is found. -/
theorem Lacks.execute_names
    (lacks : store.Lacks id)
    (consistent : store.Consistent)
    {command : Command}
    (names : command.Names id)
    (user : String) :
    (store.execute user command).1 = .denied .notFound := by
  obtain ⟨noClient, noGroup, noSecret⟩ := lacks.contains_eq_false consistent
  have noneFound {α : Type} {records : OrderedMap Int64 α} (absent : records.contains id = false) :
      records.find? id = none := by
    simpa [OrderedMap.contains] using absent
  cases command with
  | showClient other =>
      obtain rfl : other = id := names
      simp [execute, clientDetail?, noneFound noClient, Answer.ofFound]
  | showGroup other =>
      obtain rfl : other = id := names
      simp [execute, groupDetail?, noneFound noGroup, Answer.ofFound]
  | showSecret other =>
      obtain rfl : other = id := names
      simp [execute, secretDetail?, noneFound noSecret, Answer.ofFound]
  | deleteClient other =>
      obtain rfl : other = id := names
      simp [execute, deleteClient, noClient, answerChanged]
  | deleteGroup other =>
      obtain rfl : other = id := names
      simp [execute, deleteGroup, noGroup, answerChanged]
  | deleteSecret other =>
      obtain rfl : other = id := names
      simp [execute, deleteSecret, noSecret, answerChanged]
  | enrollClient link | evictClient link =>
      rcases names with rfl | rfl
      · simp [execute, enrollClient, evictClient, changeClientLink, noClient, answerChanged]
      · simp [execute, enrollClient, evictClient, changeClientLink, noGroup, answerChanged]
  | grantSecret link | revokeSecret link =>
      rcases names with rfl | rfl
      · simp [execute, grantSecret, revokeSecret, changeSecretLink, noSecret, answerChanged]
      · simp [execute, grantSecret, revokeSecret, changeSecretLink, noGroup, answerChanged]
  | _ => exact names.elim

end Lacks

/-! ## Births -/

/-- The objects of a store that another one did not have, kind by kind. -/
def newcomers (store after : Store) : List Object :=
  after.objects.filter fun object => object ∉ store.objects

/-- The objects that a run creates, in the order of the requests. -/
def births (store : Store) : List Arrival → List Object
  | [] => []
  | arrival :: rest =>
      let after := (store.serve arrival.token arrival.request).2
      store.newcomers after ++ after.births rest

/-- The objects that are born in a longer run are those of its beginning, and then later ones. -/
theorem births_append
    (store : Store)
    (earlier later : List Arrival) :
    store.births (earlier ++ later) =
      store.births earlier ++ (store.run earlier).2.births later := by
  induction earlier generalizing store with
  | nil => rfl
  | cons arrival rest inductionHypothesis =>
      rw [List.cons_append, births, births, inductionHypothesis, run_cons, List.append_assoc]

/-- One more request adds the objects that are new after it. -/
theorem births_concat
    (store : Store)
    (earlier : List Arrival)
    (last : Arrival) :
    store.births (earlier ++ [last]) =
      store.births earlier ++
        (store.run earlier).2.newcomers
          ((store.run earlier).2.serve last.token last.request).2 := by
  rw [births_append, births, births, List.append_nil]

section Turns

variable {store after : Store} {gone : Option (Kind × Int64)} {born : List Object}

/-- An object that is there after the objects turned was there before or is new. -/
theorem Turns.mem_objects
    (turns : store.Turns gone born after)
    {object : Object}
    (member : object ∈ after.objects) :
    object ∈ store.objects ∧ gone ≠ some object.key ∨ object ∈ born := by
  rw [mem_objects_iff, turns.objectsOf, List.mem_append, List.mem_filter, List.mem_filter] at member
  rcases member with ⟨wasThere, stays⟩ | ⟨isNew, -⟩
  · exact .inl ⟨mem_objects_iff.mpr wasThere, of_decide_eq_true stays⟩
  · exact .inr isNew

/-- What is new is what was born. -/
theorem Turns.newcomers
    (turns : store.Turns gone born after)
    (inOrder : store.InOrder) :
    store.newcomers after = born := by
  have isNew : ∀ object ∈ born, object ∉ store.objects := by
    intro object member wasThere
    have given := Int64.lt_of_lt_of_le (turns.isGreater object member) (inOrder.id_le_lastId wasThere)
    exact Int64.lt_irrefl given
  have ofKind :
      ∀ kind,
        (after.objectsOf kind).filter (fun object => object ∉ store.objects) =
          born.filter fun object => object.kind = kind := by
    intro kind
    rw [turns.objectsOf, List.filter_append]
    have noneLeft :
        ((store.objectsOf kind).filter fun object => gone ≠ some object.key).filter
          (fun object => object ∉ store.objects) = [] := by
      refine List.filter_eq_nil_iff.mpr fun object member => ?_
      have wasThere := (List.mem_filter.mp member).1
      have isThere : object ∈ store.objects := by
        rwa [mem_objects_iff, kind_of_mem_objectsOf wasThere]
      simpa using isThere
    have allNew :
        (born.filter fun object => object.kind = kind).filter
          (fun object => object ∉ store.objects) = born.filter fun object => object.kind = kind := by
      refine List.filter_eq_self.mpr fun object member => ?_
      exact decide_eq_true (isNew object (List.mem_filter.mp member).1)
    rw [noneLeft, allNew, List.nil_append]
  obtain ⟨kind, isKind⟩ := turns.oneKind
  have all : (born.filter fun object => object.kind = kind) = born :=
    List.filter_eq_self.mpr fun object member => decide_eq_true (isKind object member)
  have noOther (other : Kind) (differs : kind ≠ other) :
      (born.filter fun object => object.kind = other) = [] :=
    List.filter_eq_nil_iff.mpr fun object member => by simpa [isKind object member] using differs
  show (after.objectsOf .client ++ after.objectsOf .group ++ after.objectsOf .secret).filter _ = _
  rw [List.filter_append, List.filter_append, ofKind, ofKind, ofKind]
  cases kind with
  | client => rw [all, noOther .group nofun, noOther .secret nofun, List.append_nil, List.append_nil]
  | group => rw [all, noOther .client nofun, noOther .secret nofun, List.append_nil, List.nil_append]
  | secret => rw [all, noOther .client nofun, noOther .group nofun, List.nil_append, List.nil_append]

end Turns

/--
Whether objects were created in the order of their identifiers, the last of which was given last,
and all objects of a store are among them.
-/
structure Register
    (store : Store)
    (created : List Object) :
    Prop where
  ascending : (created.map Object.id).Pairwise (· < ·)
  given : ∀ object ∈ created, object.id ≤ store.lastId
  recorded : ∀ object ∈ store.objects, object ∈ created

/-- A register is continued by what is born. -/
theorem Register.turns
    {store after : Store}
    {gone : Option (Kind × Int64)}
    {born created : List Object}
    (register : store.Register created)
    (turns : store.Turns gone born after)
    (given : ∀ object ∈ born, object.id ≤ after.lastId) :
    after.Register (created ++ born) where
  ascending := by
    rw [List.map_append, List.pairwise_append]
    refine ⟨register.ascending, turns.ascending, fun first isFirst next isNext => ?_⟩
    obtain ⟨object, isEarlier, rfl⟩ := List.mem_map.mp isFirst
    obtain ⟨other, isNew, rfl⟩ := List.mem_map.mp isNext
    exact Int64.lt_of_le_of_lt (register.given object isEarlier) (turns.isGreater other isNew)
  given object member := by
    rcases List.mem_append.mp member with isEarlier | isNew
    · exact Int64.le_trans (register.given object isEarlier) turns.lastId
    · exact given object isNew
  recorded object member := by
    rcases turns.mem_objects member with ⟨wasThere, -⟩ | isNew
    · exact List.mem_append_left _ (register.recorded object wasThere)
    · exact List.mem_append_right _ isNew

/-! ## Runs -/

/-- The objects that a run creates are a register of the store after it. -/
theorem register_births
    {arrivals : List Arrival}
    (few : fresh.issued arrivals < 2 ^ 63) :
    (fresh.run arrivals).2.Register (fresh.births arrivals) := by
  induction arrivals using List.reverseRecOn with
  | nil => exact ⟨.nil, nofun, nofun⟩
  | append_singleton earlier last inductionHypothesis =>
      have fewer := issued_lt_of_append few
      obtain ⟨gone, born, -, turns⟩ := run_turns few
      have newcomers := turns.newcomers (inOrder_run fewer)
      have inOrder := inOrder_run few
      rw [births_concat, newcomers]
      rw [run_concat] at inOrder ⊢
      dsimp only at inOrder ⊢
      refine (inductionHypothesis fewer).turns turns fun object isNew => ?_
      rw [← newcomers] at isNew
      exact inOrder.id_le_lastId (List.mem_filter.mp isNew).1

/-- Identifiers are given from one. -/
theorem id_pos_of_mem_births
    {arrivals : List Arrival}
    {object : Object}
    (few : fresh.issued arrivals < 2 ^ 63)
    (member : object ∈ fresh.births arrivals) :
    0 < object.id := by
  induction arrivals using List.reverseRecOn with
  | nil => cases member
  | append_singleton earlier last inductionHypothesis =>
      have fewer := issued_lt_of_append few
      obtain ⟨gone, born, -, turns⟩ := run_turns few
      rw [births_concat, turns.newcomers (inOrder_run fewer)] at member
      rcases List.mem_append.mp member with wasThere | isNew
      · exact inductionHypothesis fewer wasThere
      · exact Int64.lt_of_le_of_lt (inOrder_run fewer).numbered.lastId (turns.isGreater _ isNew)

/-- One identifier names one object, at whatever times of a run it is looked at. -/
theorem eq_of_id_eq
    {arrivals earlier later : List Arrival}
    {object other : Object}
    (few : fresh.issued arrivals < 2 ^ 63)
    (isEarlier : earlier <+: arrivals)
    (isLater : later <+: arrivals)
    (member : object ∈ (fresh.run earlier).2.objects)
    (isOther : other ∈ (fresh.run later).2.objects)
    (sameId : object.id = other.id) :
    object = other := by
  have created {part : List Arrival} (isPart : part <+: arrivals) {object : Object}
      (isThere : object ∈ (fresh.run part).2.objects) : object ∈ fresh.births arrivals := by
    have fewer := Nat.lt_of_le_of_lt (issued_mono fresh isPart) few
    obtain ⟨rest, rfl⟩ := isPart
    rw [births_append]
    exact List.mem_append_left _ ((register_births fewer).recorded object isThere)
  have distinct : ((fresh.births arrivals).map Object.id).Nodup :=
    (register_births few).ascending.imp Int64.ne_of_lt
  exact List.inj_on_of_nodup_map distinct (created isEarlier member) (created isLater isOther)
    sameId

/-! ## Identifiers that are gone -/

/-- Whether an identifier was given, and no object has it any more. -/
structure Forgets (store : Store) (id : Int64) : Prop where
  given : id ≤ store.lastId
  lacks : store.Lacks id

/-- An identifier that is gone stays so. -/
theorem Forgets.turns
    {store after : Store}
    {gone : Option (Kind × Int64)}
    {born : List Object}
    {id : Int64}
    (forgets : store.Forgets id)
    (turns : store.Turns gone born after) :
    after.Forgets id where
  given := Int64.le_trans forgets.given turns.lastId
  lacks object member := by
    rcases turns.mem_objects member with ⟨wasThere, -⟩ | isNew
    · exact forgets.lacks object wasThere
    · intro isId
      have greater := turns.isGreater object isNew
      rw [isId] at greater
      exact Int64.lt_irrefl (Int64.lt_of_lt_of_le greater forgets.given)

/-- What was forgotten once stays forgotten, whatever is asked after that. -/
theorem Forgets.run
    {earlier later : List Arrival}
    {id : Int64}
    (few : fresh.issued (earlier ++ later) < 2 ^ 63)
    (forgets : (fresh.run earlier).2.Forgets id) :
    (fresh.run (earlier ++ later)).2.Forgets id := by
  induction later using List.reverseRecOn with
  | nil => rwa [List.append_nil]
  | append_singleton front last inductionHypothesis =>
      rw [← List.append_assoc] at few ⊢
      have fewer := issued_lt_of_append few
      obtain ⟨gone, born, -, turns⟩ := run_turns few
      rw [run_concat]
      dsimp only
      exact (inductionHypothesis fewer).turns turns

/-- A deletion that succeeds takes an object away that was there. -/
theorem Passes.deleted
    {store after : Store}
    {request : Request}
    {response : Http.Response}
    {gone : Option (Kind × Int64)}
    {born : List Object}
    {command : Command}
    {target : Kind × Int64}
    (passes : store.Passes request after response gone born)
    (asked : request.command? = some command)
    (isTarget : command.target? = some target)
    (removed : response.status = 204) :
    gone = some target ∧ born = [] ∧ ∃ object ∈ store.objects, object.key = target := by
  cases passes with
  | nothing idle =>
      rcases idle with failure | ⟨noCommand, -⟩
      · omega
      · rw [noCommand] at asked
        cases asked
  | @obeyed _ _ answer _ _ _ isAsked _ outcome =>
      obtain rfl := Option.some.inj (asked.symm.trans isAsked)
      cases outcome with
      | denied _ denial =>
          rw [Answer.status_responseTo] at removed
          exact absurd removed (by cases denial <;> decide)
      | told _ deletesNone =>
          rw [isTarget] at deletesNone
          cases deletesNone
      | deleted isThere isKey =>
          obtain rfl := Option.some.inj (isTarget.symm.trans isKey)
          exact ⟨rfl, rfl, _, isThere, rfl⟩
      | created creates =>
          rw [(Command.posted_of_creates creates).2] at isTarget
          cases isTarget
      | generated | brokenOff => cases isTarget

/-- Where an object goes whose identifier no other one has, none is left with it. -/
theorem Turns.forgets
    {store after : Store}
    {object : Object}
    (turns : store.Turns (some object.key) [] after)
    (given : object.id ≤ store.lastId)
    (isOnly : ∀ other ∈ store.objects, other.id = object.id → other = object) :
    after.Forgets object.id where
  given := Int64.le_trans given turns.lastId
  lacks other member := by
    intro sameId
    rcases turns.mem_objects member with ⟨wasThere, stays⟩ | isNew
    · exact stays (by rw [isOnly other wasThere sameId])
    · cases isNew

/-- An exchange that deletes an object leaves none behind with its identifier. -/
theorem forgets_of_deletes
    {earlier : List Arrival}
    {deletion : Arrival}
    {kind : Kind}
    {id : Int64}
    (few : fresh.issued (earlier ++ [deletion]) < 2 ^ 63)
    (deletes :
      Exchange.Deletes
        ⟨deletion.request,
          ((fresh.run earlier).2.serve deletion.token deletion.request).1⟩ kind id) :
    (fresh.run (earlier ++ [deletion])).2.Forgets id := by
  have removed := deletes.2.2
  obtain ⟨command, asked, target⟩ := deletes.exists_command
  have fewer := issued_lt_of_append few
  obtain ⟨gone, born, passes, turns⟩ := run_turns few
  rw [run_concat]
  dsimp only at asked removed ⊢
  obtain ⟨rfl, rfl, object, isThere, isKey⟩ := passes.deleted asked target removed
  obtain rfl : object.id = id := congrArg Prod.snd isKey
  rw [← isKey] at turns
  refine turns.forgets ((inOrder_run fewer).id_le_lastId isThere) fun other wasThere sameId => ?_
  exact eq_of_id_eq fewer (List.prefix_refl _) (List.prefix_refl _) wasThere isThere sameId

/-! ## Responses -/

/-- Whether a response has no object with an identifier. -/
def Omits
    (id : Int64)
    (response : Http.Response) :
    Prop :=
  400 ≤ response.status ∨ response.body = "" ∨
    ∃ status document, response = documentResponse status document ∧ ¬Shows id document

/-- Whether a response shows what was created: alone, or in the order in which it was made. -/
structure Introduces
    (store after : Store)
    (request : Request)
    (response : Http.Response) :
    Prop where
  created :
    response.status = 201 →
      ∃ object,
        store.newcomers after = [object] ∧ response = documentResponse 201 object.alone
  generated :
    ∀ generator parameters,
      request.command? = some (.generate generator parameters) →
        response.status = 200 →
          ∃ secrets,
            store.newcomers after = secrets.map .secret ∧
              response = documentResponse 200 (Secret.codec.array.write secrets)

section Passes

variable {store after : Store} {request : Request} {response : Http.Response}
variable {gone : Option (Kind × Int64)} {born : List Object}

/-- No response has an object that is gone. -/
theorem Passes.omits
    {id : Int64}
    (passes : store.Passes request after response gone born)
    (turns : store.Turns gone born after)
    (forgets : store.Forgets id) :
    Omits id response := by
  have isOther : ∀ object ∈ born, object.id ≠ id := by
    intro object member isId
    have greater := turns.isGreater object member
    rw [isId] at greater
    exact Int64.lt_irrefl (Int64.lt_of_lt_of_le greater forgets.given)
  cases passes with
  | nothing idle => exact idle.imp_right fun isLogin => .inl isLogin.2.2
  | @obeyed user command answer _ _ known asked executed outcome =>
      unfold Answer.responseTo
      split
      · exact .inr (.inl rfl)
      have omits {status : Nat} {document : Json} (free : ¬Shows id document) :
          Omits id (documentResponse status document) :=
        .inr (.inr ⟨status, document, rfl, free⟩)
      cases outcome with
      | denied _ denial | brokenOff denial => exact .inl denial.failure
      | deleted => exact .inr (.inl rfl)
      | created =>
          refine omits fun shows => ?_
          exact isOther _ List.mem_cons_self (Shows.alone_iff.mp shows)
      | generated =>
          refine omits fun shows => ?_
          obtain ⟨secret, member, shows⟩ := Shows.codec_array_iff.mp shows
          exact isOther _ (List.mem_map_of_mem member) (Shows.secret_iff.mp shows)
      | told notCreated _ _ notGenerator =>
          cases answer with
          | denied denial => exact .inl denial.failure
          | done | removed => exact .inr (.inl rfl)
          | found document => exact omits (forgets.lacks.not_shows_found executed notGenerator)
          | created document => exact absurd rfl (notCreated document)

/-- A response shows what was created. -/
theorem Passes.introduces
    (passes : store.Passes request after response gone born)
    (turns : store.Turns gone born after)
    (inOrder : store.InOrder) :
    store.Introduces after request response := by
  have newcomers := turns.newcomers inOrder
  cases passes with
  | nothing idle =>
      refine ⟨fun isCreated => ?_, fun generator parameters asked isOk => ?_⟩
      · omega
      · rcases idle with failure | ⟨noCommand, -⟩
        · omega
        · rw [noCommand] at asked
          cases asked
  | @obeyed user command answer _ _ known asked executed outcome =>
      refine ⟨fun isCreated => ?_, fun generator parameters isAsked isOk => ?_⟩
      · rw [Answer.status_responseTo] at isCreated
        obtain ⟨document, rfl⟩ := Answer.created_of_status isCreated
        cases outcome with
        | told notCreated => exact absurd rfl (notCreated document)
        | created creates =>
            rw [Answer.responseTo_of_post _ asked (Command.posted_of_creates creates).1]
            exact ⟨_, newcomers, rfl⟩
      · obtain rfl := Option.some.inj (isAsked.symm.trans asked)
        rw [Answer.responseTo_of_post answer asked rfl] at isOk ⊢
        cases outcome with
        | denied _ denial | brokenOff denial => exact absurd isOk (by cases denial <;> decide)
        | told _ _ _ notGenerator => exact absurd rfl (notGenerator generator parameters)
        | deleted _ target => cases target
        | created creates => cases creates
        | generated => exact ⟨_, newcomers, rfl⟩

end Passes

/-! ## Lives of objects -/

/--
In a run that gives fewer than 2^63 identifiers, what is created has greater identifiers than all
before, so no two objects share one at whatever times they are there. A new object is shown without
memberships. And once an object is deleted, every request about its identifier is answered that
nothing is found, and no response has an object with it.
-/
theorem objects_live_once
    {arrivals : List Arrival}
    (few : fresh.issued arrivals < 2 ^ 63) :
    ((fresh.births arrivals).map Object.id).Pairwise (· < ·) ∧
      (∀ earlier later object other,
        earlier <+: arrivals →
          later <+: arrivals →
            object ∈ (fresh.run earlier).2.objects →
              other ∈ (fresh.run later).2.objects → object.id = other.id → object = other) ∧
      (∀ earlier next,
        earlier ++ [next] <+: arrivals →
          let store := (fresh.run earlier).2
          let served := store.serve next.token next.request
          store.Introduces served.2 next.request served.1) ∧
      ∀ earlier deletion later next kind id,
        earlier ++ [deletion] ++ later ++ [next] <+: arrivals →
          Exchange.Deletes
              ⟨deletion.request,
                ((fresh.run earlier).2.serve deletion.token deletion.request).1⟩ kind id →
            let store := (fresh.run (earlier ++ [deletion] ++ later)).2
            let response := (store.serve next.token next.request).1
            (store.user? next.request ≠ none → next.request.Names id → response.status = 404) ∧
              Omits id response := by
  have fewer {part : List Arrival} (isPart : part <+: arrivals) : fresh.issued part < 2 ^ 63 :=
    Nat.lt_of_le_of_lt (issued_mono fresh isPart) few
  refine ⟨(register_births few).ascending, ?same, ?introduces, ?gone⟩
  case same =>
    intro earlier later object other isEarlier isLater member isOther sameId
    exact eq_of_id_eq few isEarlier isLater member isOther sameId
  case introduces =>
    intro earlier next isPart
    obtain ⟨gone, born, passes, turns⟩ := run_turns (fewer isPart)
    have fewEarlier := fewer ((List.prefix_append _ _).trans isPart)
    exact passes.introduces turns (inOrder_run fewEarlier)
  case gone =>
    intro earlier deletion later next kind id isPart deletes
    have isBefore := (List.prefix_append _ _).trans isPart
    have isDeletion := (List.prefix_append _ _).trans isBefore
    have forgets := (forgets_of_deletes (fewer isDeletion) deletes).run (fewer isBefore)
    obtain ⟨gone, born, passes, turns⟩ := run_turns (fewer isPart)
    refine ⟨fun isKnown names => ?_, passes.omits turns forgets⟩
    obtain ⟨user, known⟩ := Option.ne_none_iff_exists'.mp isKnown
    obtain ⟨command, asked, isNamed⟩ := names.exists_command
    have consistent := (inOrder_run (fewer isBefore)).consistent
    rw [serve_of_command next.token known asked,
      forgets.lacks.execute_names consistent isNamed user]
    dsimp only
    split <;> rfl

/-- A client and a group are created, and a batch of two secrets. -/
private def beginnings : List Arrival := [
  .login "t",
  ⟨"", .posting "/admin/clients" "t" "\x7b\"name\":\"c\"\x7d"⟩,
  ⟨"", .posting "/admin/groups" "t" "\x7b\"name\":\"g\"\x7d"⟩,
  ⟨"", .posting "/admin/secrets/generators/templated/batch" "t"
    "[\x7b\"name\":\"a\"\x7d,\x7b\"name\":\"b\"\x7d]"⟩]

/-- The group is deleted. -/
private def deletion : Arrival :=
  ⟨"", { Request.posting "/admin/groups/2" "t" "" with method := "DELETE" }⟩

/-- Another group of the same name is created. -/
private def replacement : List Arrival := [
  ⟨"", .posting "/admin/groups" "t" "\x7b\"name\":\"g\"\x7d"⟩]

/-- The identifier of the deleted group is asked for. -/
private def question : Arrival :=
  ⟨"", { Request.posting "/admin/groups/2" "t" "" with method := "GET" }⟩

/-- The whole run. -/
private def turnover : List Arrival :=
  beginnings ++ [deletion] ++ replacement ++ [question]

/-- The group that replaces a deleted one has another identifier, and the old one is not found. -/
theorem objects_live_once_turnover :
    fresh.issued turnover = 5 ∧
      ((fresh.births turnover).map Object.id).Pairwise (· < ·) ∧
      ((fresh.run (beginnings ++ [deletion] ++ replacement)).2.serve
        question.token question.request).1.status = 404 := by
  have issued : fresh.issued turnover = 5 := by decide +kernel
  have few : fresh.issued turnover < 2 ^ 63 := by
    rw [issued]
    decide
  obtain ⟨ascending, -, -, gone⟩ := objects_live_once few
  have atGroup {arrival : Arrival} (path : arrival.request.path = "/admin/groups/2") :
      arrival.request.AtId (Resource.object .group) 2 := by
    refine ⟨⟨"id", "2"⟩, ?_, rfl⟩
    rw [path]
    decide +kernel
  have deletes :
      Exchange.Deletes
        ⟨deletion.request,
          ((fresh.run beginnings).2.serve deletion.token deletion.request).1⟩ .group 2 :=
    ⟨rfl, atGroup (by decide +kernel), by decide +kernel⟩
  have isKnown :
      (fresh.run (beginnings ++ [deletion] ++ replacement)).2.user? question.request ≠ none := by
    decide +kernel
  have answered :=
    gone beginnings deletion replacement question .group 2 (List.prefix_refl turnover) deletes
  exact ⟨issued, ascending,
    answered.1 isKnown (.object .group (by decide) (atGroup (by decide +kernel)))⟩

end Store

end SecretsAdmin.Server
