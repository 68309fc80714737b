import SecretsAdmin.Proofs.Client.Loopback
import SecretsAdmin.Proofs.Model.View
import SecretsAdmin.Proofs.Server.Content
import SecretsAdmin.Proofs.Server.Objects

namespace SecretsAdmin.Client

/-!
# Creation loses nothing on the wire

What a client gives to create a group, a client or a secret arrives at the server unchanged, and
what the server keeps of it comes back unchanged.
-/

open Model
open Server (Loopback)

/-! ## Responses -/

section Result

variable {α β : Type} {call : Call β} {reader : Json.Codec β} {writer : Json.Codec α}
variable {view : α → β}

/-- A document that the server answers is the result of the call that asked for it. -/
theorem Call.result_document
    (reads : call.read = readBody reader)
    (sees : reader.Sees writer view)
    {status : Nat}
    (succeeded : status = 200 ∨ status = 201)
    (value : α) :
    call.result (classify (Server.documentResponse status (writer.write value))) =
      .ok (view value) := by
  have classified :
      classify (Server.documentResponse status (writer.write value)) =
        .ok (Server.documentResponse status (writer.write value)) := by
    rcases succeeded with rfl | rfl <;> rfl
  rw [classified, Call.result, reads]
  exact readBody_documentResponse sees status value

/-- What the server denies is the error of the call, if it has no other result for it. -/
theorem Call.result_denied
    {refusal : Refusal}
    (denial : Server.Denial)
    (refuses : classify (Server.Answer.denied denial).response = .error (.refused refusal))
    (noAnswer : call.onRefusal refusal = none) :
    call.result (classify (Server.Answer.denied denial).response) =
      .error (.refused refusal) := by
  rw [refuses, Call.result, noAnswer]

end Result

/-! ## Calls and their resources -/

section IsAt

/-- A text that is not empty gives no cause for complaint. -/
theorem complainIfEmpty_eq_none
    {text : String}
    (named : text ≠ "")
    (complaint : String) :
    complainIfEmpty text complaint = none := by
  simp [complainIfEmpty, named]

/--
A group with a name is asked for at the place of the groups, with the name and the description.
-/
theorem isAt_createGroup
    {name : String}
    (named : name ≠ "")
    (description : String) :
    (createGroup name description).IsAt .groups
      (some (NewGroup.codec.print ⟨name, description⟩)) where
  noComplaint := complainIfEmpty_eq_none named _
  leads := ⟨["groups"], rfl, by decide, rfl⟩
  noQuery := rfl
  noCookies := rfl
  written := Task.body?_postValue _ _

/-- A client with a name is asked for at the place of the clients, with the name. -/
theorem isAt_createClient
    {name : String}
    (named : name ≠ "") :
    (createClient name).IsAt .clients (some (NewClient.codec.print ⟨name⟩)) where
  noComplaint := complainIfEmpty_eq_none named _
  leads := ⟨["clients"], rfl, by decide, rfl⟩
  noQuery := rfl
  noCookies := rfl
  written := Task.body?_postValue _ _

/--
A secret with a name and a content is asked for at the place of the secrets, with all that it is to
have; its content is encoded.
-/
theorem isAt_createSecret
    {name : String}
    {content : Octets}
    (named : name ≠ "")
    (notEmpty : content ≠ [])
    (description : String)
    (withVersion : Bool)
    (metadata : OrderedMap String String) :
    (createSecret name description content withVersion metadata).IsAt .secrets
      (some (NewSecret.codec.print
        { name, description, content := Base64.encode content, withVersion, metadata })) where
  noComplaint := by
    simp [createSecret, complainIfEmpty_eq_none named, notEmpty]
  leads := ⟨["secrets"], rfl, by decide, rfl⟩
  noQuery := rfl
  noCookies := rfl
  written := Task.body?_postValue _ _

/-- The detail of a group is at the place that its identifier names. -/
theorem isAt_groupDetails (id : GroupId) :
    (groupDetails id).IsAt (.group ⟨"id", id.text⟩) none where
  noComplaint := rfl
  leads := by
    refine ⟨["groups", id.text], rfl, ?_, ?_⟩
    · exact Server.plain_withId (by decide) id
    · have notEmpty := Server.text_ne_empty id
      simp [Server.Resource.ofSegments?, Server.Resource.ending, notEmpty]
  noQuery := rfl
  noCookies := rfl
  written := rfl

/-- The detail of a client is at the place that its identifier names. -/
theorem isAt_clientDetails (id : ClientId) :
    (clientDetails id).IsAt (.client ⟨"id", id.text⟩) none where
  noComplaint := rfl
  leads := by
    refine ⟨["clients", id.text], rfl, ?_, ?_⟩
    · exact Server.plain_withId (by decide) id
    · have notEmpty := Server.text_ne_empty id
      simp [Server.Resource.ofSegments?, Server.Resource.ending, notEmpty]
  noQuery := rfl
  noCookies := rfl
  written := rfl

/--
The detail of a secret is at the place that its identifier names. It is not the place of the
versions, which has as many parts.
-/
theorem isAt_secretDetails (id : SecretId) :
    (secretDetails id).IsAt (.secret ⟨"id", id.text⟩) none where
  noComplaint := rfl
  leads := by
    refine ⟨["secrets", id.text], rfl, ?_, ?_⟩
    · exact Server.plain_withId (by decide) id
    · have notEmpty := Server.text_ne_empty id
      have notWord := Server.text_ne_versions id
      simp [Server.Resource.ofSegments?, Server.Resource.ending, notEmpty]
  noQuery := rfl
  noCookies := rfl
  written := rfl

theorem isAt_allGroups : allGroups.IsAt .groupList none where
  noComplaint := rfl
  leads := ⟨["groups", ""], rfl, by decide, rfl⟩
  noQuery := rfl
  noCookies := rfl
  written := rfl

theorem isAt_allClients : allClients.IsAt .clientList none where
  noComplaint := rfl
  leads := ⟨["clients", ""], rfl, by decide, rfl⟩
  noQuery := rfl
  noCookies := rfl
  written := rfl

theorem isAt_allSecrets : allSecrets.IsAt .secrets none where
  noComplaint := rfl
  leads := ⟨["secrets"], rfl, by decide, rfl⟩
  noQuery := rfl
  noCookies := rfl
  written := rfl

end IsAt

/-! ## Reading back -/

/-- Whether a call over a loopback told what was found, or that nothing was, and changed nothing. -/
structure Outcome.Tells
    {α : Type}
    (outcome : Outcome Loopback α)
    (found : Option α)
    (store : Server.Store) :
    Prop where
  told_iff : ∀ value, outcome.result = .ok value ↔ found = some value
  missing : found = none → outcome.result = .error (.refused .notFound)
  unchanged : outcome.state.store = store

/-- What was found is told as the client sees it. -/
theorem Outcome.Tells.result_eq
    {α β : Type}
    {outcome : Outcome Loopback β}
    {view : α → β}
    {found : Option α}
    {value : α}
    {store : Server.Store}
    (tells : outcome.Tells (found.map view) store)
    (isFound : found = some value) :
    outcome.result = .ok (view value) := by
  rw [tells.told_iff, isFound]
  rfl

section Exchange

variable {α β : Type} {call : Call β} {connection : Connection} {loopback : Loopback}
variable {resource : Server.Resource} {reader : Json.Codec β} {writer : Json.Codec α}
variable {view : α → β}

/-- A value that the server shows a client is the result of the call. -/
theorem Call.IsAt.shown
    {read : Server.CommandReader}
    {value : α}
    (command : Server.Command)
    (isAt : call.IsAt resource none)
    (live : connection.Live loopback.store)
    (reads : call.read = readBody reader)
    (sees : reader.Sees writer view)
    (isReader : resource.reader? call.task.method.word = some read)
    (isRead : ∀ request, request.query = "" → read request = .ok command)
    (executed :
      ∀ user,
        loopback.store.execute user command = (.found (writer.write value), loopback.store))
    (token : Nat → String) :
    (call.perform (Loopback.transport token) connection loopback).result = .ok (view value) := by
  obtain ⟨user, performed⟩ := isAt.obeyed live isReader (fun _ => isRead _) token
  rw [performed, executed user]
  exact call.result_document reads sees (.inl rfl) value

/-- What the server finds for a query is the result of the call. -/
theorem Call.Asks.tells
    {read : Server.CommandReader}
    {command : Server.Command}
    {found : Option α}
    (asks : call.Asks resource none)
    (live : connection.Live loopback.store)
    (reads : call.read = readBody reader)
    (sees : reader.Sees writer view)
    (noAnswer : call.onRefusal .notFound = none)
    (isReader : resource.reader? call.task.method.word = some read)
    (isRead :
      ∀ request : Server.Request,
        request.query = Url.Form.encode call.query → read request = .ok command)
    (executed :
      ∀ user, loopback.store.execute user command = (.ofFound writer found, loopback.store))
    (token : Nat → String) :
    (call.perform (Loopback.transport token) connection loopback).Tells (found.map view)
      loopback.store := by
  obtain ⟨user, performed⟩ := asks.obeyed live isReader (fun _ => isRead _) token
  rw [performed, executed user]
  cases found with
  | none =>
      have result :
          call.result (classify (Server.Answer.denied .notFound).response) =
            .error (.refused .notFound) :=
        call.result_denied .notFound rfl noAnswer
      refine ⟨fun value => ?_, fun _ => result, rfl⟩
      simp [Server.Answer.ofFound, result]
  | some value =>
      have result :
          call.result (classify (Server.Answer.found (writer.write value)).response) =
            .ok (view value) :=
        call.result_document reads sees (.inl rfl) value
      refine ⟨fun other => ?_, nofun, rfl⟩
      simp [Server.Answer.ofFound, result]

/-! ## Sending -/

variable {Input : Type} {inputs : Json.Codec Input} {make : Input → Server.Command}
variable {text : String}

/-- A body that is too long is turned away. -/
theorem Call.IsAt.tooLong
    (isAt : call.IsAt resource (some text))
    (live : connection.Live loopback.store)
    (isJson : call.task.contentType? = some "application/json")
    (isReader :
      resource.reader? call.task.method.word = some (Server.CommandReader.ofBody make inputs))
    (long : Server.greatestLength < (Utf8.encode text).length)
    (token : Nat → String) :
    call.perform (Loopback.transport token) connection loopback =
      ⟨.error (.unexpectedStatus 413 Server.Rejection.tooLong.message), connection,
        ⟨loopback.store, loopback.served + 1⟩⟩ := by
  refine (isAt.asks.rejected .tooLong live isReader (fun url => ?_) token).trans rfl
  have declared :
      Server.declaresJson (connection.arriving url call.task (some text)).headers = true := by
    show Server.declaresJson (connection.headers call.task.contentType?) = true
    rw [isJson]
    exact connection.declaresJson_headers
  have isLong :
      Server.greatestLength <
        (connection.arriving url call.task (some text)).body.length :=
    long
  unfold Server.CommandReader.ofBody Server.readBody
  rw [declared, if_pos isLong]
  rfl

/-- A body that is not too long is read as what the client gave. -/
theorem Call.IsAt.posted
    {Wish : Type}
    {wishes : Json.Codec Wish}
    {wish : Wish}
    {understood : Wish → Input}
    (isAt : call.IsAt resource (some (wishes.print wish)))
    (live : connection.Live loopback.store)
    (isJson : call.task.contentType? = some "application/json")
    (isReader :
      resource.reader? call.task.method.word = some (Server.CommandReader.ofBody make inputs))
    (sees : inputs.Sees wishes understood)
    (short : (Utf8.encode (wishes.print wish)).length ≤ Server.greatestLength)
    (token : Nat → String) :
    ∃ user,
      call.perform (Loopback.transport token) connection loopback =
        ⟨call.result
            (classify (loopback.store.execute user (make (understood wish))).1.response),
          connection,
          ⟨(loopback.store.execute user (make (understood wish))).2, loopback.served + 1⟩⟩ := by
  refine isAt.obeyed live isReader (fun url _ => ?_) token
  refine Server.CommandReader.ofBody_eq_ok_iff.mpr ⟨understood wish, ?_, rfl⟩
  refine Server.readBody_eq_ok_iff.mpr ⟨?_, short, (sees wish).parse⟩
  show Server.declaresJson (connection.headers call.task.contentType?) = true
  rw [isJson]
  exact connection.declaresJson_headers

end Exchange

/-! ## Views of the store -/

section Views

variable {connection : Connection} {loopback : Loopback}

variable (live : connection.Live loopback.store) (id : Int64) (token : Nat → String)
include live

/-- A client is told the detail of a group as the server has it, or that there is none. -/
theorem groupDetails_tells :
    ((groupDetails ⟨id⟩).perform (Loopback.transport token) connection loopback).Tells
      ((loopback.store.groupDetail? id).map Server.GroupDetail.seen) loopback.store :=
  (isAt_groupDetails ⟨id⟩).asks.tells live rfl sees_groupDetail rfl rfl
    (fun request _ => Server.CommandReader.ofId_text .showGroup ⟨id⟩ "id" request) (fun _ => rfl)
    token

/-- A client is told the detail of a client as the server has it, or that there is none. -/
theorem clientDetails_tells :
    ((clientDetails ⟨id⟩).perform (Loopback.transport token) connection loopback).Tells
      ((loopback.store.clientDetail? id).map Server.ClientDetail.seen) loopback.store :=
  (isAt_clientDetails ⟨id⟩).asks.tells live rfl sees_clientDetail rfl rfl
    (fun request _ => Server.CommandReader.ofId_text .showClient ⟨id⟩ "id" request) (fun _ => rfl)
    token

/-- A client is told the detail of a secret as the server has it, or that there is none. -/
theorem secretDetails_tells :
    ((secretDetails ⟨id⟩).perform (Loopback.transport token) connection loopback).Tells
      ((loopback.store.secretDetail? id).map Server.SecretDetail.seen) loopback.store :=
  (isAt_secretDetails ⟨id⟩).asks.tells live rfl sees_secretDetail rfl rfl
    (fun request _ => Server.CommandReader.ofId_text .showSecret ⟨id⟩ "id" request) (fun _ => rfl)
    token

/-- All groups of the server are shown, in its order. -/
theorem allGroups_shown :
    (allGroups.perform (Loopback.transport token) connection loopback).result =
      .ok (loopback.store.groups.values.map Server.Group.seen) :=
  isAt_allGroups.shown .listGroups live rfl sees_group.array rfl (fun _ _ => rfl) (fun _ => rfl)
    token

/-- All clients of the server are shown, in its order. -/
theorem allClients_shown :
    (allClients.perform (Loopback.transport token) connection loopback).result =
      .ok (loopback.store.clients.values.map Server.Client.seen) :=
  isAt_allClients.shown .listClients live rfl sees_client.array rfl (fun _ _ => rfl) (fun _ => rfl)
    token

/-- A client is listed all secrets of the server, if its query asks for none in particular. -/
theorem allSecrets_shown :
    (allSecrets.perform (Loopback.transport token) connection loopback).result =
      .ok (loopback.store.secrets.values.map Server.Secret.seen) :=
  isAt_allSecrets.shown .listSecrets live rfl sees_secret.array rfl
    (fun _ => Server.CommandReader.ofVersion_of_noQuery) (fun _ => rfl) token

end Views

/-! ## How a creation ends -/

/-- The objects of one kind, as a client finds them at the server. -/
structure Collection (Detail Entry : Type) where
  /-- The call that shows the object of a detail. -/
  details : Detail → Call Detail
  /-- The call that lists all objects. -/
  all : Call (List Entry)
  /-- Whether nothing is nested in a detail. -/
  IsAlone : Detail → Prop
  /-- Whether what is listed is the object of a detail. -/
  IsEntry : Detail → Entry → Prop

namespace Collection

def groups : Collection GroupDetail Group where
  details detail := groupDetails detail.id
  all := allGroups
  IsAlone detail := detail.secrets = [] ∧ detail.clients = []
  IsEntry detail group :=
    group = {
      id := detail.id
      name := detail.name
      description := detail.description
      createdBy := detail.createdBy }

/-- The clients of a server; a new one is enabled, and not for automation. -/
def clients : Collection ClientDetail Model.Client where
  details detail := clientDetails detail.id
  all := allClients
  IsAlone detail := detail.groups = [] ∧ detail.secrets = []
  IsEntry detail client :=
    client = {
      id := detail.id
      name := detail.name
      description := detail.description
      createdBy := detail.createdBy
      enabled := true
      automationAllowed := false }

/-- The secrets of a server; a list of them tells their versions too. -/
def secrets : Collection SecretDetail Secret where
  details detail := secretDetails detail.id
  all := allSecrets
  IsAlone detail := detail.groups = [] ∧ detail.clients = []
  IsEntry detail secret :=
    ∃ version,
      secret = {
        id := detail.id
        name := detail.name
        description := detail.description
        version
        createdBy := detail.createdBy
        metadata := detail.metadata }

end Collection

/-- Whether a call over a loopback failed and left a store. -/
def Outcome.Fails
    {α : Type}
    (outcome : Outcome Loopback α)
    (error : Error)
    (store : Server.Store) :
    Prop :=
  outcome.result = .error error ∧ outcome.state.store = store

/--
Whether a call over a loopback created an object: there is a detail with all that was given, and
the server shows the same detail again. If the server has its records in order, nothing is nested
in the detail, and the list of all objects has one more at its end, which is the new one.
-/
structure Outcome.Creates
    {Detail Entry : Type}
    (outcome : Outcome Loopback Detail)
    (collection : Collection Detail Entry)
    (IsGiven : Detail → Prop)
    (ordered : Prop)
    (token : Nat → String)
    (loopback : Loopback)
    (detail : Detail) :
    Prop where
  result : outcome.result = .ok detail
  given : IsGiven detail
  shown :
    ((collection.details detail).perform (Loopback.transport token)
      outcome.connection outcome.state).result = .ok detail
  alone : ordered → collection.IsAlone detail
  listed :
    ordered →
      ∃ before entry,
        collection.IsEntry detail entry ∧
          (collection.all.perform (Loopback.transport token)
            outcome.connection loopback).result = .ok before ∧
          (collection.all.perform (Loopback.transport token)
            outcome.connection outcome.state).result = .ok (before ++ [entry])

/--
Whether a call over a loopback creates an object without any loss. Its body is too long for the
server, and nothing changes; or the object is in conflict with another, and nothing changes; or it
is created.
-/
def Call.CreatesAll
    {Detail Entry : Type}
    (call : Call Detail)
    (collection : Collection Detail Entry)
    (conflicts : Prop)
    (IsGiven : Detail → Prop)
    (ordered : Prop)
    (token : Nat → String)
    (connection : Connection)
    (loopback : Loopback) :
    Prop :=
  let outcome := call.perform (Loopback.transport token) connection loopback
  ∃ body,
    call.task.body? = .ok (some body) ∧
      (Server.greatestLength < (Utf8.encode body).length →
        outcome.Fails (.unexpectedStatus 413 Server.Rejection.tooLong.message) loopback.store) ∧
      ((Utf8.encode body).length ≤ Server.greatestLength →
        (conflicts → outcome.Fails (.refused .conflict) loopback.store) ∧
          (¬conflicts →
            ∃ detail, outcome.Creates collection IsGiven ordered token loopback detail))

section Creation

variable {Wish Input Stored Detail Entry : Type}
variable {call : Call Detail} {collection : Collection Detail Entry}
variable {conflicts ordered : Prop} {IsGiven : Detail → Prop}
variable {token : Nat → String} {connection : Connection} {loopback : Loopback}
variable {resource : Server.Resource} {make : Input → Server.Command}
variable {wishes : Json.Codec Wish} {inputs : Json.Codec Input} {understood : Wish → Input}
variable {reader : Json.Codec Detail} {writer : Json.Codec Stored} {view : Stored → Detail}
variable {wish : Wish}

/-- A call creates an object without loss, if the server obeys the command as it was meant. -/
theorem Call.IsAt.createsAll
    (isAt : call.IsAt resource (some (wishes.print wish)))
    (live : connection.Live loopback.store)
    (isJson : call.task.contentType? = some "application/json")
    (isReader :
      resource.reader? call.task.method.word = some (Server.CommandReader.ofBody make inputs))
    (seesWish : inputs.Sees wishes understood)
    (reads : call.read = readBody reader)
    (seesDetail : reader.Sees writer view)
    (noAnswer : call.onRefusal .conflict = none)
    (denied :
      conflicts →
        ∀ user,
          loopback.store.execute user (make (understood wish)) =
            (.denied .conflict, loopback.store))
    (created :
      ¬conflicts →
        ∀ user served,
          ∃ detail after,
            loopback.store.execute user (make (understood wish)) =
                (.created (writer.write detail), after) ∧
              Outcome.Creates ⟨.ok (view detail), connection, ⟨after, served⟩⟩
                collection IsGiven ordered token loopback (view detail)) :
    call.CreatesAll collection conflicts IsGiven ordered token connection loopback := by
  refine ⟨wishes.print wish, isAt.written, ?tooLong, fun short => ⟨?conflict, ?success⟩⟩
  case tooLong =>
    intro long
    rw [isAt.tooLong live isJson isReader long token]
    exact ⟨rfl, rfl⟩
  case conflict =>
    intro inConflict
    obtain ⟨user, performed⟩ := isAt.posted live isJson isReader seesWish short token
    rw [performed, denied inConflict user]
    exact ⟨call.result_denied .conflict rfl noAnswer, rfl⟩
  case success =>
    intro noConflict
    obtain ⟨user, performed⟩ := isAt.posted live isJson isReader seesWish short token
    obtain ⟨detail, after, executed, creates⟩ := created noConflict user (loopback.served + 1)
    refine ⟨view detail, ?_⟩
    rw [performed, executed]
    dsimp only
    rw [Server.Answer.response, call.result_document reads seesDetail (.inr rfl)]
    exact creates

end Creation

/-- A live session stays live as long as the server keeps its sessions. -/
theorem Connection.Live.of_sessions
    {connection : Connection}
    {store after : Server.Store}
    (live : connection.Live store)
    (same : after.sessions = store.sessions) :
    connection.Live after where
  divided := live.divided
  hasPath := live.hasPath
  hasAuthority := live.hasAuthority
  known := by
    obtain ⟨user, known⟩ := live.known
    exact ⟨user, by rw [Connection.user?, same]; exact known⟩

section Kinds

variable {token : Nat → String} {connection : Connection} {loopback : Loopback} {ordered : Prop}

/-- A group is created without loss, in conflict exactly with a group of its name. -/
theorem createGroup_createsAll
    (live : connection.Live loopback.store)
    (inOrder : ordered → loopback.store.Ordered)
    {name : String}
    (named : name ≠ "")
    (description : String) :
    (createGroup name description).CreatesAll .groups
      (∃ group ∈ loopback.store.groups.values, group.name = name)
      (fun detail => detail.name = name ∧ detail.description = some description)
      ordered token connection loopback := by
  refine (isAt_createGroup named description).createsAll live rfl rfl sees_newGroup rfl
    sees_groupDetail rfl (fun used user => ?denied) (fun unused user served => ?created)
  case denied =>
    have isUsed : loopback.store.groupNamed? name ≠ none :=
      fun unused => Server.Store.groupNamed?_eq_none_iff.mp unused used
    have isDenied :
        loopback.store.createGroup user (.ofWish ⟨name, description⟩) = .error .conflict :=
      Server.Store.createGroup_of_used named isUsed user
    rw [Server.Store.execute, isDenied]
    rfl
  case created =>
    let input := Server.GroupInput.ofWish ⟨name, description⟩
    let group := loopback.store.newGroup user input
    let after := loopback.store.withGroup group
    have isCreated :
        loopback.store.createGroup user input = .ok (after.detailOfGroup group, after) :=
      Server.Store.createGroup_eq_ok_iff.mpr
        ⟨named, Server.Store.groupNamed?_eq_none_iff.mpr unused, rfl, rfl⟩
    have liveAfter : connection.Live (Loopback.mk after served).store := live.of_sessions rfl
    refine ⟨after.detailOfGroup group, after, ?executed, rfl, ⟨rfl, rfl⟩, ?shown,
      fun isOrdered => ?alone, fun isOrdered => ?listed⟩
    case executed =>
      rw [Server.Store.execute, isCreated]
      rfl
    case shown =>
      exact (groupDetails_tells liveAfter _ token).result_eq
        (Server.Store.groupDetail?_withGroup _ group)
    case alone =>
      obtain ⟨noSecrets, noClients, -⟩ := (inOrder isOrdered).newGroup user input
      exact ⟨congrArg (List.map _) noSecrets, congrArg (List.map _) noClients⟩
    case listed =>
      obtain ⟨-, -, atEnd⟩ := (inOrder isOrdered).newGroup user input
      refine ⟨loopback.store.groups.values.map Server.Group.seen, group.seen, rfl,
        allGroups_shown live token, ?_⟩
      refine (allGroups_shown liveAfter token).trans (congrArg Except.ok ?_)
      exact (congrArg (List.map _) atEnd).trans List.map_append

/-- A client is created without loss, in conflict exactly with a client of its name. -/
theorem createClient_createsAll
    (live : connection.Live loopback.store)
    (inOrder : ordered → loopback.store.Ordered)
    {name : String}
    (named : name ≠ "") :
    (createClient name).CreatesAll .clients
      (∃ client ∈ loopback.store.clients.values, client.name = name)
      (fun detail => detail.name = name ∧ detail.description = some "")
      ordered token connection loopback := by
  refine (isAt_createClient named).createsAll live rfl rfl sees_newClient rfl
    sees_clientDetail rfl (fun used user => ?denied) (fun unused user served => ?created)
  case denied =>
    have isUsed : loopback.store.clientNamed? name ≠ none :=
      fun unused => Server.Store.clientNamed?_eq_none_iff.mp unused used
    have isDenied : loopback.store.createClient user (.ofWish ⟨name⟩) = .error .conflict :=
      Server.Store.createClient_of_used named isUsed user
    rw [Server.Store.execute, isDenied]
    rfl
  case created =>
    let input := Server.ClientInput.ofWish ⟨name⟩
    let client := loopback.store.newClient user input
    let after := loopback.store.withClient client
    have isCreated :
        loopback.store.createClient user input = .ok (after.detailOfClient client, after) :=
      Server.Store.createClient_eq_ok_iff.mpr
        ⟨named, Server.Store.clientNamed?_eq_none_iff.mpr unused, rfl, rfl⟩
    have liveAfter : connection.Live (Loopback.mk after served).store := live.of_sessions rfl
    refine ⟨after.detailOfClient client, after, ?executed, rfl, ⟨rfl, rfl⟩, ?shown,
      fun isOrdered => ?alone, fun isOrdered => ?listed⟩
    case executed =>
      rw [Server.Store.execute, isCreated]
      rfl
    case shown =>
      exact (clientDetails_tells liveAfter _ token).result_eq
        (Server.Store.clientDetail?_withClient _ client)
    case alone =>
      obtain ⟨noGroups, noSecrets, -⟩ := (inOrder isOrdered).newClient user input
      exact ⟨congrArg (List.map _) noGroups, congrArg (List.map _) noSecrets⟩
    case listed =>
      obtain ⟨-, -, atEnd⟩ := (inOrder isOrdered).newClient user input
      refine ⟨loopback.store.clients.values.map Server.Client.seen, client.seen, rfl,
        allClients_shown live token, ?_⟩
      refine (allClients_shown liveAfter token).trans (congrArg Except.ok ?_)
      exact (congrArg (List.map _) atEnd).trans List.map_append

/--
A secret is created without loss, in conflict exactly with a secret of its name, and only without
a version.
-/
theorem createSecret_createsAll
    (live : connection.Live loopback.store)
    (inOrder : ordered → loopback.store.Ordered)
    {name : String}
    {content : Octets}
    (named : name ≠ "")
    (notEmpty : content ≠ [])
    (description : String)
    (withVersion : Bool)
    (metadata : OrderedMap String String) :
    (createSecret name description content withVersion metadata).CreatesAll .secrets
      ((∃ secret ∈ loopback.store.secrets.values, secret.name = name) ∧ withVersion = false)
      (fun detail =>
        detail.name = name ∧ detail.description = some description ∧
          detail.metadata = metadata)
      ordered token connection loopback := by
  have isContent := Server.Store.isContent_encode notEmpty
  refine (isAt_createSecret named notEmpty description withVersion metadata).createsAll live rfl
    rfl sees_newSecret rfl sees_secretDetail rfl (fun used user => ?denied)
    (fun unused user served => ?created)
  case denied =>
    obtain ⟨isUsed, unversioned⟩ := used
    have isDenied :
        loopback.store.createSecret user
            ⟨name, description, Base64.encode content, withVersion, metadata⟩ =
          .error .conflict := by
      refine Server.Store.createSecret_of_used ?_ ?_ ?_ ?_ user
      · exact named
      · exact isContent
      · exact Server.Store.hasSecretNamed_iff.mpr isUsed
      · exact unversioned
    exact congrArg (loopback.store.answerCreated Server.SecretDetail.codec) isDenied
  case created =>
    let input : Server.SecretInput :=
      ⟨name, description, Base64.encode content, withVersion, metadata⟩
    let secret := loopback.store.newSecret user input
    let after := loopback.store.withSecret secret
    have free : loopback.store.hasSecretNamed name = true → withVersion = true := by
      intro isUsed
      rw [← Bool.not_eq_false]
      exact fun unversioned =>
        unused ⟨Server.Store.hasSecretNamed_iff.mp isUsed, unversioned⟩
    have isCreated :
        loopback.store.createSecret user input = .ok (after.detailOfSecret secret, after) :=
      Server.Store.createSecret_eq_ok_iff.mpr ⟨named, isContent, free, rfl, rfl⟩
    have liveAfter : connection.Live (Loopback.mk after served).store := live.of_sessions rfl
    refine ⟨after.detailOfSecret secret, after, ?executed, rfl, ⟨rfl, rfl, rfl⟩, ?shown,
      fun isOrdered => ?alone, fun isOrdered => ?listed⟩
    case executed =>
      exact congrArg (loopback.store.answerCreated Server.SecretDetail.codec) isCreated
    case shown =>
      exact (secretDetails_tells liveAfter _ token).result_eq
        (Server.Store.secretDetail?_withSecret _ secret)
    case alone =>
      obtain ⟨noGroups, noClients, -⟩ := (inOrder isOrdered).newSecret user input
      exact ⟨congrArg (List.map _) noGroups, congrArg (List.map _) noClients⟩
    case listed =>
      obtain ⟨-, -, atEnd⟩ := (inOrder isOrdered).newSecret user input
      refine ⟨loopback.store.secrets.values.map Server.Secret.seen, secret.seen,
        ⟨secret.version, rfl⟩, allSecrets_shown live token, ?_⟩
      refine (allSecrets_shown liveAfter token).trans (congrArg Except.ok ?_)
      exact (congrArg (List.map _) atEnd).trans List.map_append

end Kinds

/-! ## Creation over a loopback -/

/--
Whatever requests a server has served, a client with a live session there creates groups, clients
and secrets without loss. The identifiers are in order unless the server ran out of them.
-/
theorem creation_loses_nothing
    {address : String}
    {connection : Connection}
    {arrivals : List Server.Arrival}
    {token : Nat → String}
    {served : Nat}
    (established : Connection.establish address = .ok { base := connection.base })
    (loggedIn :
      (isLoggedIn.perform (Loopback.transport token) connection
        ⟨(Server.Store.fresh.run arrivals).2, served⟩).result = .ok true) :
    let store := (Server.Store.fresh.run arrivals).2
    (∀ name description,
      name ≠ "" →
        (createGroup name description).CreatesAll .groups
          (∃ group ∈ store.groups.values, group.name = name)
          (fun detail => detail.name = name ∧ detail.description = some description)
          (Server.Store.Unexhausted arrivals) token connection ⟨store, served⟩) ∧
      (∀ name,
        name ≠ "" →
          (createClient name).CreatesAll .clients
            (∃ client ∈ store.clients.values, client.name = name)
            (fun detail => detail.name = name ∧ detail.description = some "")
            (Server.Store.Unexhausted arrivals) token connection ⟨store, served⟩) ∧
      ∀ name description content withVersion metadata,
        name ≠ "" →
          content ≠ [] →
            (createSecret name description content withVersion metadata).CreatesAll .secrets
              ((∃ secret ∈ store.secrets.values, secret.name = name) ∧ withVersion = false)
              (fun detail =>
                detail.name = name ∧ detail.description = some description ∧
                  detail.metadata = metadata)
              (Server.Store.Unexhausted arrivals) token connection ⟨store, served⟩ := by
  have live := Connection.live_of_isLoggedIn established loggedIn
  refine ⟨fun name description named => ?group, fun name named => ?client,
    fun name description content withVersion metadata named notEmpty => ?secret⟩
  case group =>
    exact createGroup_createsAll live Server.Store.Unexhausted.ordered named description
  case client =>
    exact createClient_createsAll live Server.Store.Unexhausted.ordered named
  case secret =>
    exact createSecret_createsAll live Server.Store.Unexhausted.ordered named notEmpty
      description withVersion metadata

/-- A connection with the session of a login. -/
def afterLogin : Connection where
  base := {
    scheme := "http"
    authority := some { host := .domain "localhost" }
    path := .segments [""] }
  session := ⟨[⟨"session", "k3y"⟩]⟩

/-- After a login, the first group is created and listed, with all that was given for it. -/
theorem creation_loses_nothing_guests :
    let loopback : Loopback := ⟨(Server.Store.fresh.run [.login "k3y"]).2, 1⟩
    Server.Store.Unexhausted [.login "k3y"] ∧
      ∃ detail,
        ((createGroup "Gäste" "\x07").perform (Loopback.transport fun _ => "k3y")
            afterLogin loopback).Creates .groups
          (fun detail => detail.name = "Gäste" ∧ detail.description = some "\x07")
          (Server.Store.Unexhausted [.login "k3y"]) (fun _ => "k3y") loopback detail := by
  have established :
      Connection.establish "http://localhost" = .ok { base := afterLogin.base } := by
    decide +kernel
  have loggedIn :
      (isLoggedIn.perform (Loopback.transport fun _ => "k3y") afterLogin
        ⟨(Server.Store.fresh.run [.login "k3y"]).2, 1⟩).result = .ok true := by
    decide +kernel
  obtain ⟨body, written, -, ends⟩ :=
    (creation_loses_nothing established loggedIn).1 "Gäste" "\x07" (by decide)
  have isBody :
      (createGroup "Gäste" "\x07").task.body? =
        .ok (some "\x7b\"name\":\"Gäste\",\"description\":\"\\u0007\"\x7d") := by
    decide +kernel
  obtain rfl : "\x7b\"name\":\"Gäste\",\"description\":\"\\u0007\"\x7d" = body := by
    rw [isBody] at written
    cases written
    rfl
  have noGroups : (Server.Store.fresh.run [.login "k3y"]).2.groups.values = [] := by
    decide +kernel
  exact ⟨Server.Store.unexhausted_of_length (by decide),
    (ends (by decide +kernel)).2 (by simp [noGroups])⟩

end SecretsAdmin.Client
