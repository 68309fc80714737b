import SecretsAdmin.Proofs.Client.Clientele
import SecretsAdmin.Proofs.Client.Identified

namespace SecretsAdmin.Client

/-!
# The two sides understand each other

The server and its clients have records of their own for the same objects. What the one side
writes the other reads; and since a request is taken for what its operation asks for, whatever is
called over a loopback is never answered with a document that the caller cannot read.
-/

open Model
open Server (Loopback)
open Server.Store (administrator password)

/-! ## What operations ask for -/

/-- Whether a command is one that an operation asks for, with the arguments in its address. -/
def Operation.AsksFor : Operation → Server.Command → Prop
  | login _ _, _ => False
  | isLoggedIn, command => command = .tellUser
  | allGroups, command => command = .listGroups
  | createGroup _ _, command => ∃ input, command = .createGroup input
  | groupDetails group, command => command = .showGroup group.number
  | deleteGroup group, command => command = .deleteGroup group.number
  | groupByName name, command => command = .findGroup name
  | allSecrets, command => command = .listSecrets
  | createSecret _ _ _ _ _, command => ∃ input, command = .createSecret input
  | secretDetails secret, command => command = .showSecret secret.number
  | deleteSecret secret, command => command = .deleteSecret secret.number
  | generateSecrets _ _, command | batchGenerateSecrets _ _, command =>
      ∃ generator parameters, command = .generate generator parameters
  | secretByNameAndVersion name version, command => command = .findSecret name version
  | versionsOfSecret name, command => command = .listVersions name
  | allClients, command => command = .listClients
  | createClient _, command => ∃ input, command = .createClient input
  | clientDetails client, command => command = .showClient client.number
  | deleteClient client, command => command = .deleteClient client.number
  | clientByName name, command => command = .findClient name
  | enrollClient client group, command =>
      command = .enrollClient ⟨client.number, group.number⟩
  | evictClient client group, command => command = .evictClient ⟨client.number, group.number⟩
  | grantSecret secret group, command => command = .grantSecret ⟨secret.number, group.number⟩
  | revokeSecret secret group, command => command = .revokeSecret ⟨secret.number, group.number⟩

section Asking

variable {α : Type} {call : Call α} {connection : Connection} {request : Http.Request}
variable {resource : Server.Resource} {body : Option String} {read : Server.CommandReader}
variable {command : Server.Command}

/-- The command of the request of a call was read by the reader of its resource. -/
theorem Call.Asks.read_of_command?
    (asks : call.Asks resource body)
    (leads : LeadsToServer connection.base)
    (isRequest : call.request connection = .ok request)
    (isReader : resource.reader? call.task.method.word = some read)
    (asked : (Server.Request.ofClient request).command? = some command) :
    (Server.Request.ofClient request).query = Url.Form.encode call.query ∧
      read (.ofClient request) = .ok command := by
  obtain ⟨url, located, route, isQuery⟩ := asks.route leads
  have isCall := Call.request_eq asks.noComplaint located asks.written
  rw [isRequest] at isCall
  cases isCall
  obtain ⟨_, _, isRoute, isRead, succeeds⟩ := Server.Request.reader_of_command? asked
  have sameRoute := isRoute.symm.trans route
  cases sameRoute
  have served := (method_arriving connection url call.task body).2
  have sameReader := isRead.symm.trans ((congrArg resource.reader? served).trans isReader)
  cases sameReader
  exact ⟨isQuery, succeeds⟩

/-- A call stands for the only command that its resource reads. -/
theorem Call.Asks.eq_of_command?
    {expected : Server.Command}
    (asks : call.Asks resource body)
    (leads : LeadsToServer connection.base)
    (isRequest : call.request connection = .ok request)
    (isReader : resource.reader? call.task.method.word = some read)
    (isRead :
      ∀ arriving : Server.Request,
        arriving.query = Url.Form.encode call.query → read arriving = .ok expected)
    (asked : (Server.Request.ofClient request).command? = some command) :
    command = expected := by
  obtain ⟨isQuery, succeeds⟩ := asks.read_of_command? leads isRequest isReader asked
  rw [isRead _ isQuery] at succeeds
  exact (Except.ok.inj succeeds).symm

/-- Objects are created where the path of their kind ends. -/
private theorem length_of_collection
    {segments : List String}
    (isResource : Server.Resource.ofSegments? segments = some resource)
    (isCollection : resource = .groups ∨ resource = .secrets ∨ resource = .clients) :
    segments.length = 1 := by
  rcases isCollection with rfl | rfl | rfl <;>
    unfold Server.Resource.ofSegments? at isResource <;>
    split at isResource <;>
    simp_all [Server.Resource.ending]

/-- Below the secrets nothing can be posted but to generators. -/
private theorem generates_of_isAt
    {name : String}
    {others : List String}
    (isResource : Server.Resource.ofSegments? ("secrets" :: name :: others) = some resource)
    (isAt : command.IsAt resource)
    (posted : command.method = "POST") :
    ∃ generator parameters, command = .generate generator parameters := by
  have noCollection : ¬(resource = .groups ∨ resource = .secrets ∨ resource = .clients) := by
    intro isCollection
    have length := length_of_collection isResource isCollection
    simp at length
  cases command with
  | generate generator parameters => exact ⟨generator, parameters, rfl⟩
  | createGroup input => exact absurd (.inl isAt) noCollection
  | createSecret input => exact absurd (.inr (.inl isAt)) noCollection
  | createClient input => exact absurd (.inr (.inr isAt)) noCollection
  | _ => simp [Server.Command.method] at posted

/-- Whatever the name of a generator is, what is posted for it is taken for nothing else. -/
theorem generates_of_command?
    {generator : String}
    {rest : List String}
    {payload : Payload}
    (leads : LeadsToServer connection.base)
    (isSegments : call.segments = "admin" :: "secrets" :: "generators" :: generator :: rest)
    (isRest : rest = [] ∨ rest = ["batch"])
    (isTask : call.task = .postJson payload)
    (isRequest : call.request connection = .ok request)
    (asked : (Server.Request.ofClient request).command? = some command) :
    ∃ generator parameters, command = .generate generator parameters := by
  obtain ⟨path, isPath⟩ := leads.hasPath
  rcases call.request_cases connection isPath with
    ⟨_, -, noRequest⟩ | ⟨-, ⟨_, -, noRequest⟩ | ⟨url, body, located, -, isCall⟩⟩
  · rw [isRequest] at noRequest
    cases noRequest
  · rw [isRequest] at noRequest
    cases noRequest
  · rw [isRequest] at isCall
    cases isCall
    rw [isSegments] at located
    obtain ⟨name, others, route⟩ := leads.exists_generatorRoute isRest located
    obtain ⟨served, resource, isRoute, isAt⟩ := Server.Request.isAt_of_command? asked
    obtain ⟨found, isResource, same⟩ := Option.map_eq_some_iff.mp (route.symm.trans isRoute)
    cases same
    refine generates_of_isAt isResource isAt ?_
    have posted := (method_arriving connection url call.task body).2
    have isPost : call.task.method.word = "POST" := by
      rw [isTask]
      rfl
    exact served.symm.trans (posted.trans isPost)

end Asking

/--
The request of an operation is taken for what the operation asks for, or for nothing at all. Of a
body only the kind is known; all else is in the address, which is read back. The name of a generator
may hold dots and slashes, so such a call need not be at a generator.
-/
theorem Operation.asksFor_of_command?
    {operation : Operation}
    {connection : Connection}
    {request : Http.Request}
    {command : Server.Command}
    (leads : LeadsToServer connection.base)
    (noLogin : ¬operation.IsLogin)
    (isRequest : operation.call.request connection = .ok request)
    (asked : (Server.Request.ofClient request).command? = some command) :
    operation.AsksFor command := by
  have hasArguments : ¬operation.LacksArgument := by
    rw [← operation.exists_complaint_iff]
    rintro ⟨complaint, complains⟩
    unfold Call.request at isRequest
    rw [complains] at isRequest
    cases isRequest
  cases operation with
  | login username password => exact absurd ⟨username, password, rfl⟩ noLogin
  | isLoggedIn =>
      exact isAt_isLoggedIn.asks.eq_of_command? leads isRequest rfl (fun _ _ => rfl) asked
  | allGroups =>
      exact isAt_allGroups.asks.eq_of_command? leads isRequest rfl (fun _ _ => rfl) asked
  | allClients =>
      exact isAt_allClients.asks.eq_of_command? leads isRequest rfl (fun _ _ => rfl) asked
  | allSecrets =>
      exact isAt_allSecrets.asks.eq_of_command? leads isRequest rfl
        (fun _ => Server.CommandReader.ofVersion_of_noQuery) asked
  | createGroup name description =>
      obtain ⟨-, isRead⟩ :=
        (isAt_createGroup hasArguments description).asks.read_of_command? leads isRequest rfl asked
      obtain ⟨input, -, rfl⟩ := Server.CommandReader.ofBody_eq_ok_iff.mp isRead
      exact ⟨input, rfl⟩
  | createClient name =>
      obtain ⟨-, isRead⟩ :=
        (isAt_createClient hasArguments).asks.read_of_command? leads isRequest rfl asked
      obtain ⟨input, -, rfl⟩ := Server.CommandReader.ofBody_eq_ok_iff.mp isRead
      exact ⟨input, rfl⟩
  | createSecret name description content withVersion metadata =>
      obtain ⟨named, notEmpty⟩ := not_or.mp hasArguments
      obtain ⟨-, isRead⟩ :=
        (isAt_createSecret named notEmpty description withVersion
          metadata).asks.read_of_command? leads isRequest rfl asked
      obtain ⟨input, -, rfl⟩ := Server.CommandReader.ofBody_eq_ok_iff.mp isRead
      exact ⟨input, rfl⟩
  | groupByName name =>
      exact (asks_groupByName hasArguments).eq_of_command? leads isRequest rfl
        (fun _ isQuery => Server.CommandReader.ofName_encode isQuery .findGroup) asked
  | clientByName name =>
      exact (asks_clientByName hasArguments).eq_of_command? leads isRequest rfl
        (fun _ isQuery => Server.CommandReader.ofName_encode isQuery .findClient) asked
  | secretByNameAndVersion name version =>
      exact (asks_secretByNameAndVersion hasArguments version).eq_of_command? leads isRequest rfl
        (fun _ => Server.CommandReader.ofVersion_encode) asked
  | versionsOfSecret name =>
      exact (asks_versionsOfSecret name).eq_of_command? leads isRequest rfl
        (fun _ isQuery => Server.CommandReader.ofName_encode isQuery .listVersions) asked
  | groupDetails group =>
      exact (isAt_groupDetails group).asks.eq_of_command? leads isRequest rfl
        (fun arriving _ => Server.CommandReader.ofId_text .showGroup group "id" arriving) asked
  | deleteGroup group =>
      exact (isAt_deleteGroup group).asks.eq_of_command? leads isRequest rfl
        (fun arriving _ => Server.CommandReader.ofId_text .deleteGroup group "id" arriving) asked
  | clientDetails client =>
      exact (isAt_clientDetails client).asks.eq_of_command? leads isRequest rfl
        (fun arriving _ => Server.CommandReader.ofId_text .showClient client "id" arriving) asked
  | deleteClient client =>
      exact (isAt_deleteClient client).asks.eq_of_command? leads isRequest rfl
        (fun arriving _ => Server.CommandReader.ofId_text .deleteClient client "id" arriving) asked
  | secretDetails secret =>
      exact (isAt_secretDetails secret).asks.eq_of_command? leads isRequest rfl
        (fun arriving _ => Server.CommandReader.ofId_text .showSecret secret "id" arriving) asked
  | deleteSecret secret =>
      exact (isAt_deleteSecret secret).asks.eq_of_command? leads isRequest rfl
        (fun arriving _ => Server.CommandReader.ofId_text .deleteSecret secret "id" arriving) asked
  | enrollClient client group =>
      exact (isAt_enrollClient client group).asks.eq_of_command? leads isRequest rfl
        (fun arriving _ =>
          Server.CommandReader.ofLink_text .enrollClient client group "client_id" "group_id"
            arriving)
        asked
  | evictClient client group =>
      exact (isAt_evictClient client group).asks.eq_of_command? leads isRequest rfl
        (fun arriving _ =>
          Server.CommandReader.ofLink_text .evictClient client group "client_id" "group_id"
            arriving)
        asked
  | grantSecret secret group =>
      exact (isAt_grantSecret secret group).asks.eq_of_command? leads isRequest rfl
        (fun arriving _ =>
          Server.CommandReader.ofLink_text .grantSecret secret group "secret_id" "group_id"
            arriving)
        asked
  | revokeSecret secret group =>
      exact (isAt_revokeSecret secret group).asks.eq_of_command? leads isRequest rfl
        (fun arriving _ =>
          Server.CommandReader.ofLink_text .revokeSecret secret group "secret_id" "group_id"
            arriving)
        asked
  | generateSecrets generator parameters =>
      exact generates_of_command? leads rfl (.inl rfl) rfl isRequest asked
  | batchGenerateSecrets generator parameters =>
      exact generates_of_command? leads rfl (.inr rfl) rfl isRequest asked

/-! ## What operations read -/

/-- Whether a call reads the response with an answer, unless that tells of a failure. -/
def Call.CanRead
    {α : Type}
    (call : Call α)
    (answer : Server.Answer) :
    Prop :=
  400 ≤ answer.response.status ∨ ∃ value, call.read answer.response = .ok value

section CanRead

variable {α β : Type} {call : Call β} {reader : Json.Codec β} {writer : Json.Codec α}
variable {view : α → β}

theorem Call.canRead_denied
    (call : Call β)
    (denial : Server.Denial) :
    call.CanRead (.denied denial) :=
  .inl denial.failure

theorem Call.canRead_found
    (reads : call.read = readBody reader)
    (sees : reader.Sees writer view)
    (value : α) :
    call.CanRead (.found (writer.write value)) := by
  right
  refine ⟨view value, ?_⟩
  rw [reads]
  exact readBody_documentResponse sees 200 value

theorem Call.canRead_ofFound
    (reads : call.read = readBody reader)
    (sees : reader.Sees writer view)
    (found : Option α) :
    call.CanRead (.ofFound writer found) := by
  cases found with
  | none => exact call.canRead_denied .notFound
  | some value => exact Call.canRead_found reads sees value

theorem Call.canRead_answerCreated
    (reads : call.read = readBody reader)
    (sees : reader.Sees writer view)
    (store : Server.Store)
    (result : Except Server.Denial (α × Server.Store)) :
    call.CanRead (store.answerCreated writer result).1 := by
  cases result with
  | error denial => exact call.canRead_denied denial
  | ok created =>
      right
      refine ⟨view created.1, ?_⟩
      rw [reads]
      exact readBody_documentResponse sees 201 created.1

/-- Another view of the result of a call can be had whenever the result can. -/
theorem Call.CanRead.map
    {γ : Type}
    {answer : Server.Answer}
    (canRead : call.CanRead answer)
    (change : β → γ) :
    (call.map change).CanRead answer := by
  rcases canRead with failure | ⟨value, isRead⟩
  · exact .inl failure
  · right
    refine ⟨change value, ?_⟩
    show (call.read answer.response).map change = .ok (change value)
    rw [isRead]
    rfl

end CanRead

/-- An operation reads whatever the server answers to what the operation asks for. -/
theorem Operation.AsksFor.canRead
    {operation : Operation}
    {command : Server.Command}
    (asksFor : operation.AsksFor command)
    (store : Server.Store)
    (user : String) :
    operation.call.CanRead (store.execute user command).1 := by
  cases operation with
  | login username password => cases asksFor
  | isLoggedIn | deleteGroup | deleteSecret | deleteClient | enrollClient | evictClient
  | grantSecret | revokeSecret => exact .inr ⟨_, rfl⟩
  | allGroups =>
      cases asksFor
      apply Call.CanRead.map
      exact Call.canRead_found rfl sees_group.array _
  | allSecrets =>
      cases asksFor
      apply Call.CanRead.map
      exact Call.canRead_found rfl sees_secret.array _
  | allClients =>
      cases asksFor
      apply Call.CanRead.map
      exact Call.canRead_found rfl sees_client.array _
  | createGroup name description =>
      obtain ⟨input, rfl⟩ := asksFor
      apply Call.CanRead.map
      exact Call.canRead_answerCreated rfl sees_groupDetail store _
  | createSecret name description content withVersion metadata =>
      obtain ⟨input, rfl⟩ := asksFor
      apply Call.CanRead.map
      exact Call.canRead_answerCreated rfl sees_secretDetail store _
  | createClient name =>
      obtain ⟨input, rfl⟩ := asksFor
      apply Call.CanRead.map
      exact Call.canRead_answerCreated rfl sees_clientDetail store _
  | groupDetails group =>
      cases asksFor
      apply Call.CanRead.map
      exact Call.canRead_ofFound rfl sees_groupDetail _
  | secretDetails secret =>
      cases asksFor
      apply Call.CanRead.map
      exact Call.canRead_ofFound rfl sees_secretDetail _
  | clientDetails client =>
      cases asksFor
      apply Call.CanRead.map
      exact Call.canRead_ofFound rfl sees_clientDetail _
  | groupByName name =>
      cases asksFor
      apply Call.CanRead.map
      exact Call.canRead_ofFound rfl sees_group _
  | secretByNameAndVersion name version =>
      cases asksFor
      apply Call.CanRead.map
      exact Call.canRead_ofFound rfl sees_secret _
  | clientByName name =>
      cases asksFor
      apply Call.CanRead.map
      exact Call.canRead_ofFound rfl sees_client _
  | versionsOfSecret name =>
      cases asksFor
      apply Call.CanRead.map
      exact Call.canRead_ofFound rfl sees_text.array _
  | generateSecrets | batchGenerateSecrets =>
      obtain ⟨generator, parameters, rfl⟩ := asksFor
      rw [Server.Store.execute]
      split
      next secrets after _ =>
        apply Call.CanRead.map
        exact Call.canRead_found rfl sees_secret.array secrets
      next denial after _ => exact Call.canRead_denied _ denial

/-- What is a failure or can be read is not called unreadable. -/
theorem Operation.result_ne_unreadable
    {operation : Operation}
    {response : Http.Response}
    (canRead :
      400 ≤ response.status ∨ ∃ reply, operation.call.read response = .ok reply)
    (message : String) :
    operation.call.result (classify response) ≠ .error (.unreadableResponse message) := by
  rcases classify_cases response with
    ⟨refusal, -, classified⟩ | ⟨-, ⟨-, classified⟩ | ⟨success, classified⟩⟩
  · rw [classified, Call.result]
    cases operation.call.onRefusal refusal <;> simp
  · simp [classified, Call.result]
  · rw [classified, Call.result]
    rcases canRead with failure | ⟨reply, isRead⟩
    · omega
    · simp [isRead]

/--
Where an operation is answered at all, it can read the answer. Without an authority the request
leads nowhere, which is a failure.
-/
theorem Operation.reads_serve
    {operation : Operation}
    {connection : Connection}
    {request : Http.Request}
    (divided : connection.base.WellDivided)
    (hasPath : ∃ path, connection.base.path = .segments path)
    (isRequest : operation.call.request connection = .ok request)
    (token : String)
    (store : Server.Store) :
    400 ≤ (store.serve token (.ofClient request)).1.status ∨
      ∃ reply, operation.call.read (store.serve token (.ofClient request)).1 = .ok reply := by
  by_cases isLogin : operation.IsLogin
  · obtain ⟨username, password, rfl⟩ := isLogin
    exact .inr ⟨_, rfl⟩
  obtain ⟨path, isPath⟩ := hasPath
  obtain ⟨url, located, isTarget, isMethod⟩ :
      ∃ url,
        connection.locate operation.call.segments operation.call.query = .ok url ∧
          (Server.Request.ofClient request).path = Http.pathOf url.text ∧
          (Server.Request.ofClient request).method ≠ "HEAD" := by
    rcases operation.call.request_cases connection isPath with
      ⟨_, -, noRequest⟩ | ⟨-, ⟨_, -, noRequest⟩ | ⟨url, body, located, -, isCall⟩⟩
    · rw [isRequest] at noRequest
      cases noRequest
    · rw [isRequest] at noRequest
      cases noRequest
    · rw [isRequest] at isCall
      cases isCall
      exact ⟨url, located, rfl, (method_arriving connection url operation.call.task body).1⟩
  by_cases hasAuthority : connection.base.authority.isSome
  · have leads : LeadsToServer connection.base := ⟨divided, ⟨path, isPath⟩, hasAuthority⟩
    have served := store.serve_served token (.ofClient request)
    generalize isServed : store.serve token (.ofClient request) = pair at served
    obtain ⟨response, after⟩ := pair
    cases served with
    | refused failure => exact .inl failure
    | begun route login =>
        rw [isTarget] at route
        exact absurd route (leads.route_ne_login isLogin located)
    | obeyed known asked executed status =>
        rw [Server.Store.serve_of_command token known asked, if_neg isMethod] at isServed
        rw [← (Prod.mk.inj isServed).1]
        exact (Operation.asksFor_of_command? leads isLogin isRequest asked).canRead store _
  · have noAuthority : connection.base.authority = none := by simpa using hasAuthority
    have route := operation.route_eq_none divided isPath noAuthority isLogin located
    rw [← isTarget] at route
    left
    unfold Server.Store.serve
    rw [route]
    exact (by decide : 400 ≤ 404)

/-- Whatever a server has in its store, no operation over a loopback to it is unreadable. -/
theorem Operation.perform_ne_unreadable
    {connection : Connection}
    (operation : Operation)
    (divided : connection.base.WellDivided)
    (hasPath : ∃ path, connection.base.path = .segments path)
    (token : Nat → String)
    (loopback : Loopback)
    (message : String) :
    (operation.call.perform (Loopback.transport token) connection loopback).result ≠
      .error (.unreadableResponse message) := by
  obtain ⟨path, isPath⟩ := hasPath
  rcases operation.call.request_cases connection isPath with
    ⟨_, -, noRequest⟩ | ⟨-, ⟨_, -, noRequest⟩ | ⟨url, body, -, -, isRequest⟩⟩
  · rw [Call.perform_of_error noRequest]
    rintro ⟨⟩
  · rw [Call.perform_of_error noRequest]
    rintro ⟨⟩
  · rw [Call.result_loopback isRequest]
    exact Operation.result_ne_unreadable
      (Operation.reads_serve divided ⟨path, isPath⟩ isRequest _ _) message

/-! ## Runs of many clients -/

/-- A call leaves the base of its connection as it is. -/
theorem Call.base_perform
    {σ α : Type}
    (call : Call α)
    (transport : Transport σ)
    (connection : Connection)
    (state : σ) :
    (call.perform transport connection state).connection.base = connection.base := by
  unfold Call.perform
  split
  next => rfl
  next request _ =>
    dsimp only
    unfold Call.connectionAfter
    split
    next => split <;> rfl
    next => rfl

namespace Clientele

variable {ι : Type} [DecidableEq ι] {clientele : Clientele ι}

/-- What holds of clients all the time: they have bases, and could read whatever they were told. -/
structure Understood (clientele : Clientele ι) : Prop where
  bases :
    ∀ client,
      (clientele.connections client).base.WellDivided ∧
        ∃ path, (clientele.connections client).base.path = .segments path
  readable :
    ∀ event ∈ clientele.history,
      ∀ message, event.result ≠ .error (.unreadableResponse message)

/-- No operation of a client is unreadable, whatever passed before. -/
theorem Understood.step
    (understood : clientele.Understood)
    (token : Nat → String)
    (client : ι)
    (operation : Operation) :
    (clientele.step token client operation).Understood := by
  constructor
  case bases =>
    apply forall_connections_step fun _ connection =>
      connection.base.WellDivided ∧ ∃ path, connection.base.path = .segments path
    · have same :
          (clientele.outcome token client operation).connection.base =
            (clientele.connections client).base :=
        operation.call.base_perform _ _ _
      rw [same]
      exact understood.bases client
    · exact fun other _ => understood.bases other
  case readable =>
    intro event member
    rcases List.mem_append.mp member with before | isLast
    · exact understood.readable event before
    · rw [List.mem_singleton.mp isLast]
      obtain ⟨divided, hasPath⟩ := understood.bases client
      exact operation.perform_ne_unreadable divided hasPath token clientele.loopback

theorem Understood.run
    (understood : clientele.Understood)
    (token : Nat → String)
    (calls : List (ι × Operation)) :
    (clientele.run token calls).Understood := by
  induction calls generalizing clientele with
  | nil => exact understood
  | cons call rest inductionHypothesis =>
      exact inductionHypothesis (understood.step token call.1 call.2)

/--
What the server writes of an object, a client reads as that object. So in no run of clients of one
server, whatever they call and whatever the server has in its store, is there anything that a
client is told and cannot read.
-/
theorem wire_types_agree
    {connections : ι → Connection}
    (established :
      ∀ client,
        ∃ address, Connection.establish address = .ok { base := (connections client).base })
    (loopback : Loopback)
    (token : Nat → String)
    (calls : List (ι × Operation)) :
    (∀ client : Server.Client,
      Model.Client.codec.parse (Utf8.encode (Server.Client.codec.print client)) =
        .ok client.seen) ∧
      (∀ group : Server.Group,
        Group.codec.parse (Utf8.encode (Server.Group.codec.print group)) = .ok group.seen) ∧
      (∀ secret : Server.Secret,
        Secret.codec.parse (Utf8.encode (Server.Secret.codec.print secret)) = .ok secret.seen) ∧
      (∀ detail : Server.GroupDetail,
        GroupDetail.codec.parse (Utf8.encode (Server.GroupDetail.codec.print detail)) =
          .ok detail.seen) ∧
      (∀ detail : Server.ClientDetail,
        ClientDetail.codec.parse (Utf8.encode (Server.ClientDetail.codec.print detail)) =
          .ok detail.seen) ∧
      (∀ detail : Server.SecretDetail,
        SecretDetail.codec.parse (Utf8.encode (Server.SecretDetail.codec.print detail)) =
          .ok detail.seen) ∧
      ∀ event ∈ (Clientele.run token { connections, loopback } calls).history,
        ∀ message, event.result ≠ .error (.unreadableResponse message) := by
  refine ⟨fun client => (sees_client client).parse, fun group => (sees_group group).parse,
    fun secret => (sees_secret secret).parse, fun detail => (sees_groupDetail detail).parse,
    fun detail => (sees_clientDetail detail).parse, fun detail => (sees_secretDetail detail).parse,
    ?readable⟩
  case readable =>
    have understood : Understood { connections, loopback } := by
      refine ⟨fun client => ?_, fun _ member => absurd member List.not_mem_nil⟩
      obtain ⟨address, isEstablished⟩ := established client
      exact Connection.base_of_establish isEstablished
    exact (understood.run token calls).readable

/-- The calls of one client: it logs in, creates a group with a name of marks, and lists it. -/
private def quoting : List (Unit × Operation) :=
  [((), .login administrator password), ((), .createGroup "\"\\\x07/ü" ""), ((), .allGroups)]

/-- All of them are answered, and the marks come back. -/
theorem wire_types_agree_quotes :
    let history :=
      (run (fun _ => "k3y") ⟨fun _ => ⟨afterLogin.base, {}⟩, ⟨.fresh, 0⟩, []⟩ quoting).history
    history.map (·.result.isOk) = [true, true, true] ∧
      ∀ event ∈ history, ∀ message, event.result ≠ .error (.unreadableResponse message) := by
  have established :
      Connection.establish "http://localhost" = .ok { base := afterLogin.base } := by
    decide +kernel
  have answered :
      (run (fun _ => "k3y") ⟨fun _ => ⟨afterLogin.base, {}⟩, ⟨.fresh, 0⟩, []⟩
        quoting).history.map (·.result.isOk) = [true, true, true] := by
    decide +kernel
  exact ⟨answered,
    (wire_types_agree (fun _ => ⟨_, established⟩) ⟨.fresh, 0⟩ (fun _ => "k3y")
      quoting).2.2.2.2.2.2⟩

end Clientele

end SecretsAdmin.Client
