import SecretsAdmin.Client.Operation
import SecretsAdmin.Proofs.Json.Document
import SecretsAdmin.Proofs.Url.Authority

namespace SecretsAdmin.Client

/-!
# How calls are performed

A call is refused for its arguments, or its payload cannot be written, or it is performed with one
exchange. Which of these happens is said of calls in general; the operations differ only in what
they require, in what they send and in how they understand a response.
-/

/-! ## Payloads -/

mutual

/-- A document that is given as a payload is sent as it is. -/
theorem Payload.toJson_ofJson (document : Json) :
    (Payload.ofJson document).toJson = .ok document := by
  cases document with
  | array elements =>
      rw [ofJson, toJson, elementsToJson_ofElements elements]
      rfl
  | object members =>
      rw [ofJson, toJson, entriesToJson_ofMembers members]
      rfl
  | _ => rfl

theorem Payload.elementsToJson_ofElements (elements : List Json) :
    Payload.elementsToJson (Payload.ofElements elements) = .ok elements := by
  cases elements with
  | nil => rfl
  | cons element rest =>
      rw [ofElements, elementsToJson, toJson_ofJson element, elementsToJson_ofElements rest]
      rfl

theorem Payload.entriesToJson_ofMembers (members : List (String × Json)) :
    Payload.entriesToJson (Payload.ofMembers members) = .ok members := by
  cases members with
  | nil => rfl
  | cons member rest =>
      obtain ⟨name, value⟩ := member
      rw [ofMembers, entriesToJson, toJson_ofJson value, entriesToJson_ofMembers rest]
      rfl

end

/-- The body of a request with a value is the text of the value. -/
theorem Task.body?_postValue
    {α : Type}
    (codec : Json.Codec α)
    (value : α) :
    (Task.postValue codec value).body? = .ok (some (codec.print value)) := by
  simp only [Task.postValue, Task.body?, Payload.print, Payload.toJson_ofJson]
  rfl

/-! ## Connections -/

/-- The base of a connection was read from the address, and paths can be added to it. -/
theorem Connection.parse_of_establish
    {address : String}
    {connection : Connection}
    (established : Connection.establish address = .ok connection) :
    Url.parse address = .ok connection.base ∧ ∃ path, connection.base.path = .segments path := by
  unfold Connection.establish at established
  split at established
  next => cases established
  next parsed isParsed =>
    split at established
    next => cases established
    next path isPath =>
      cases established
      exact ⟨isParsed, path, isPath⟩

/-- A connection that was established has a base to which paths can be added. -/
theorem Connection.base_of_establish
    {address : String}
    {base : Url}
    (established : Connection.establish address = .ok { base }) :
    base.WellDivided ∧ ∃ path, base.path = .segments path := by
  obtain ⟨parsed, isPath⟩ := Connection.parse_of_establish established
  exact ⟨Url.wellDivided_of_parse parsed, isPath⟩

/-- Every resource has an address under such a base. -/
theorem Connection.exists_locate
    {connection : Connection}
    {path : List String}
    (isPath : connection.base.path = .segments path)
    (segments : List String)
    (query : List (String × String)) :
    ∃ url, connection.locate segments query = .ok url := by
  unfold Connection.locate Url.resolve
  rw [isPath]
  exact ⟨_, rfl⟩

/-- The address of a resource comes of the base of the connection. -/
theorem Connection.resolve_of_locate
    {connection : Connection}
    {segments : List String}
    {query : List (String × String)}
    {url : Url}
    (located : connection.locate segments query = .ok url) :
    connection.base.resolve segments query = .ok url := by
  unfold Connection.locate at located
  cases found : connection.base.resolve segments query with
  | error fault =>
      rw [found] at located
      cases located
  | ok other =>
      rw [found] at located
      cases located
      rfl

/-! ## Calls -/

section Call

variable {σ α β : Type} {call : Call α} {connection : Connection}

/-- With nothing wrong, the request is for the task of the call at its address. -/
theorem Call.request_eq
    {url : Url}
    {body : Option String}
    (noComplaint : call.complaint = none)
    (located : connection.locate call.segments call.query = .ok url)
    (written : call.task.body? = .ok body) :
    call.request connection =
      .ok ⟨call.task.method, url.text, connection.headers call.task.contentType?, body⟩ := by
  unfold Call.request Connection.request
  rw [noComplaint, located, written]
  rfl

/-- A call makes a request exactly when nothing is wrong with its arguments and its payload. -/
theorem Call.request_cases
    {path : List String}
    (call : Call α)
    (connection : Connection)
    (isPath : connection.base.path = .segments path) :
    (∃ complaint,
        call.complaint = some complaint ∧
          call.request connection = .error (.invalidArgument complaint)) ∨
      call.complaint = none ∧
        ((∃ reason,
            call.task.body? = .error reason ∧
              call.request connection = .error (.unwritablePayload reason)) ∨
          ∃ url body,
            connection.locate call.segments call.query = .ok url ∧
              call.task.body? = .ok body ∧
              call.request connection =
                .ok ⟨call.task.method, url.text, connection.headers call.task.contentType?,
                  body⟩) := by
  cases noComplaint : call.complaint with
  | some complaint =>
      left
      refine ⟨complaint, rfl, ?_⟩
      unfold Call.request
      rw [noComplaint]
  | none =>
      right
      refine ⟨rfl, ?_⟩
      obtain ⟨url, located⟩ := connection.exists_locate isPath call.segments call.query
      cases written : call.task.body? with
      | error reason =>
          left
          refine ⟨reason, rfl, ?_⟩
          unfold Call.request Connection.request
          rw [noComplaint, located, written]
          rfl
      | ok body =>
          right
          exact ⟨url, body, located, rfl, Call.request_eq noComplaint located written⟩

/-- The headers of a request are those of its connection. -/
theorem Call.headers_of_request
    {request : Http.Request}
    (isRequest : call.request connection = .ok request) :
    request.headers = connection.headers call.task.contentType? := by
  unfold Call.request Connection.request at isRequest
  split at isRequest
  next => cases isRequest
  next =>
    cases located : connection.locate call.segments call.query with
    | error error =>
        rw [located] at isRequest
        cases isRequest
    | ok url =>
        rw [located] at isRequest
        cases written : call.task.body? with
        | error reason =>
            rw [written] at isRequest
            cases isRequest
        | ok body =>
            rw [written] at isRequest
            cases isRequest
            rfl

/-- Without a request nothing is exchanged. -/
theorem Call.perform_of_error
    {error : Error}
    (noRequest : call.request connection = .error error)
    (transport : Transport σ)
    (state : σ) :
    call.perform transport connection state = ⟨.error error, connection, state⟩ := by
  unfold Call.perform
  rw [noRequest]

/-- A request is exchanged once, and what comes of it is classified. -/
theorem Call.perform_of_ok
    {request : Http.Request}
    (isRequest : call.request connection = .ok request)
    (transport : Transport σ)
    (state : σ) :
    call.perform transport connection state =
      let (received, after) := transport.exchange request state
      ⟨call.result (received.bind classify),
        call.connectionAfter connection (received.bind classify), after⟩ := by
  unfold Call.perform
  rw [isRequest]
  rfl

theorem Call.connectionAfter_eq
    (keepsNothing : call.keepsCookies = false)
    (received : Except Error Http.Response) :
    call.connectionAfter connection received = connection := by
  unfold Call.connectionAfter
  rw [keepsNothing]
  cases received <;> rfl

theorem Call.result_map
    (change : α → β)
    (call : Call α)
    (received : Except Error Http.Response) :
    (call.map change).result received = (call.result received).map change := by
  cases received with
  | ok response => rfl
  | error error =>
      cases error with
      | refused refusal =>
          unfold Call.result Call.map
          dsimp only
          cases call.onRefusal refusal <;> rfl
      | _ => rfl

/-- Another view of the result of a call does not change how the call is performed. -/
theorem Call.perform_map
    (change : α → β)
    (call : Call α)
    (transport : Transport σ)
    (connection : Connection)
    (state : σ) :
    (call.map change).perform transport connection state =
      let outcome := call.perform transport connection state
      ⟨outcome.result.map change, outcome.connection, outcome.state⟩ := by
  unfold Call.perform
  have sameRequest : (call.map change).request connection = call.request connection := rfl
  rw [sameRequest]
  cases call.request connection with
  | error error => rfl
  | ok request =>
      dsimp only
      rw [Call.result_map]
      rfl

end Call

/-! ## Statuses -/

theorem Refusal.failure (refusal : Refusal) :
    400 ≤ refusal.status := by
  cases refusal <;> decide

/-- A response is a refusal, another failure, or none. -/
theorem classify_cases (response : Http.Response) :
    (∃ refusal : Refusal,
        response.status = refusal.status ∧ classify response = .error (.refused refusal)) ∨
      (∀ refusal : Refusal, response.status ≠ refusal.status) ∧
        (400 ≤ response.status ∧
            classify response = .error (.unexpectedStatus response.status response.body) ∨
          response.status < 400 ∧ classify response = .ok response) := by
  unfold classify
  cases found : Refusal.ofStatus? response.status with
  | some refusal => exact .inl ⟨refusal, (Refusal.status_of_ofStatus? found).symm, rfl⟩
  | none =>
      right
      constructor
      · intro refusal same
        rw [same, Refusal.ofStatus?_status] at found
        cases found
      · by_cases failure : 400 ≤ response.status
        · exact .inl ⟨failure, if_pos failure⟩
        · exact .inr ⟨by omega, if_neg failure⟩

/-! ## Operations -/

namespace Operation

/-- Whether a name or a content that an operation requires is empty. -/
def LacksArgument : Operation → Prop
  | createGroup name _ | groupByName name | createClient name | clientByName name => name = ""
  | createSecret name _ content _ _ => name = "" ∨ content = []
  | generateSecrets generator _ | batchGenerateSecrets generator _ => generator = ""
  | secretByNameAndVersion name _ => name = ""
  | _ => False

def IsLogin (operation : Operation) : Prop :=
  ∃ username password, operation = .login username password

/-- The payload that the caller of an operation gives, if there is one. -/
def payload? : Operation → Option Payload
  | generateSecrets _ parameters => some parameters
  | batchGenerateSecrets _ parameters => some (.list parameters)
  | _ => none

private theorem exists_complainIfEmpty_iff
    {text complaint : String} :
    (∃ found, complainIfEmpty text complaint = some found) ↔ text = "" := by
  simp [complainIfEmpty]

/-- Something is wrong with the arguments exactly when a required one is empty. -/
theorem exists_complaint_iff (operation : Operation) :
    (∃ complaint, operation.call.complaint = some complaint) ↔ operation.LacksArgument := by
  cases operation with
  | createGroup | groupByName | createClient | clientByName | secretByNameAndVersion
  | generateSecrets | batchGenerateSecrets => exact exists_complainIfEmpty_iff
  | createSecret name description content withVersion metadata =>
      by_cases unnamed : name = "" <;>
        simp [call, Call.map, Client.createSecret, complainIfEmpty, LacksArgument, unnamed]
  | _ => exact ⟨nofun, nofun⟩

/-- A body cannot be written exactly when the payload of the caller cannot. -/
theorem body?_eq_error_iff
    {operation : Operation}
    {reason : String} :
    operation.call.task.body? = .error reason ↔
      ∃ payload, operation.payload? = some payload ∧ payload.print = .error reason := by
  have mapped (payload : Payload) :
      payload.print.map some = .error reason ↔ payload.print = .error reason := by
    cases payload.print <;> simp [Except.map]
  cases operation with
  | generateSecrets generator parameters =>
      refine (mapped parameters).trans ?_
      simp [payload?]
  | batchGenerateSecrets generator parameters =>
      refine (mapped (.list parameters)).trans ?_
      simp [payload?]
  | login | createGroup | createClient | createSecret =>
      simp only [call, Call.map, Client.login, Client.createGroup, Client.createClient,
        Client.createSecret, Task.body?_postValue, payload?]
      exact ⟨nofun, nofun⟩
  | _ => exact ⟨nofun, nofun⟩

private theorem readBody_eq_error
    {α β : Type}
    {codec : Json.Codec α}
    {change : α → β}
    {response : Http.Response}
    {error : Error}
    (notRead : (readBody codec response).map change = .error error) :
    ∃ message, error = .unreadableResponse message := by
  unfold readBody at notRead
  dsimp only at notRead
  cases parsed : codec.parse (Utf8.encode response.body) with
  | ok value =>
      rw [parsed] at notRead
      cases notRead
  | error failure =>
      rw [parsed] at notRead
      cases notRead
      exact ⟨_, rfl⟩

/-- A response that is no failure is understood, or it cannot be read. -/
theorem read_eq_error
    {operation : Operation}
    {response : Http.Response}
    {error : Error}
    (notRead : operation.call.read response = .error error) :
    ∃ message, error = .unreadableResponse message := by
  cases operation with
  | login | isLoggedIn | deleteGroup | deleteSecret | deleteClient | enrollClient | evictClient
  | grantSecret | revokeSecret => cases notRead
  | _ => exact readBody_eq_error notRead

/-- Only the question whether somebody is logged in has an answer where it is refused. -/
theorem onRefusal_eq_none
    {operation : Operation}
    {refusal : Refusal}
    (noQuestion : ¬(operation = .isLoggedIn ∧ refusal = .unauthorized)) :
    operation.call.onRefusal refusal = none := by
  cases operation with
  | isLoggedIn =>
      cases refusal with
      | unauthorized => exact absurd ⟨rfl, rfl⟩ noQuestion
      | _ => rfl
  | _ => rfl

theorem keepsCookies_iff (operation : Operation) :
    operation.call.keepsCookies = true ↔ operation.IsLogin := by
  cases operation with
  | login username password => exact ⟨fun _ => ⟨username, password, rfl⟩, fun _ => rfl⟩
  | _ => exact ⟨nofun, nofun⟩

end Operation

end SecretsAdmin.Client
