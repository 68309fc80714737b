import SecretsAdmin.Client.Connection
import SecretsAdmin.Json.Codec

namespace SecretsAdmin.Client

/-!
# Calls

A call says what to ask a server and how to understand the answer. It is performed with at most
one exchange: none if its arguments are refused or its payload cannot be written.
-/

/-- A call with a result of some type. -/
structure Call (α : Type) where
  /-- What is wrong with the arguments of the call. -/
  complaint : Option String := none
  segments : List String
  query : List (String × String) := []
  task : Task
  /-- Whether the cookies of the response are kept. -/
  keepsCookies : Bool := false
  /-- How a response that is no failure is understood. -/
  read : Http.Response → Except Error α
  /-- The result that a refusal stands for, if it is no error. -/
  onRefusal : Refusal → Option α := fun _ => none

namespace Call

/-- The same call with another view of its result. -/
def map
    {α β : Type}
    (change : α → β)
    (call : Call α) :
    Call β where
  complaint := call.complaint
  segments := call.segments
  query := call.query
  task := call.task
  keepsCookies := call.keepsCookies
  read response := (call.read response).map change
  onRefusal refusal := (call.onRefusal refusal).map change

/-- The request of a call over a connection, or the error that comes before any exchange. -/
def request
    {α : Type}
    (call : Call α)
    (connection : Connection) :
    Except Error Http.Request :=
  match call.complaint with
  | some complaint => .error (.invalidArgument complaint)
  | none => do
      let url ← connection.locate call.segments call.query
      connection.request url call.task

/-- The result of a call whose response was classified. -/
def result
    {α : Type}
    (call : Call α) :
    Except Error Http.Response → Except Error α
  | .ok response => call.read response
  | .error (.refused refusal) =>
      match call.onRefusal refusal with
      | some answer => .ok answer
      | none => .error (.refused refusal)
  | .error error => .error error

/-- The connection after a call whose response was classified. -/
def connectionAfter
    {α : Type}
    (call : Call α)
    (connection : Connection) :
    Except Error Http.Response → Connection
  | .ok response => if call.keepsCookies then connection.keeping response else connection
  | .error _ => connection

end Call

/-- What is there after a call: its result, the connection and the state of the transport. -/
structure Outcome (σ α : Type) where
  result : Except Error α
  connection : Connection
  state : σ

/-- Perform a call. -/
def Call.perform
    {σ α : Type}
    (call : Call α)
    (transport : Transport σ)
    (connection : Connection)
    (state : σ) :
    Outcome σ α :=
  match call.request connection with
  | .error error => ⟨.error error, connection, state⟩
  | .ok request =>
      let (received, state) := transport.send request state
      ⟨call.result received, call.connectionAfter connection received, state⟩

/-- Read the body of a response with a codec. -/
def readBody
    {α : Type}
    (codec : Json.Codec α)
    (response : Http.Response) :
    Except Error α :=
  let source := Utf8.encode response.body
  (codec.parse source).mapError fun failure => .unreadableResponse (failure.words source)

end SecretsAdmin.Client
