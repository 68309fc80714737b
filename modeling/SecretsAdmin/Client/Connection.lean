import SecretsAdmin.Client.Error
import SecretsAdmin.Client.Payload
import SecretsAdmin.Client.Session
import SecretsAdmin.Url.Resolve

namespace SecretsAdmin.Client

/-!
# Connections

A connection knows the address of a server and the session with it. It makes the requests, and a
transport carries them; every response is classified before anything else looks at it.
-/

/-- What a request is to do with a resource. -/
inductive Task where
  | get
  | postJson (payload : Payload)
  | putEmpty
  | delete

namespace Task

/-- The method of a task. -/
def method : Task → Http.Method
  | get => .get
  | postJson _ => .post
  | putEmpty => .put
  | delete => .delete

/-- The content type of the body of a task, if it has one. -/
def contentType? : Task → Option String
  | postJson _ => some "application/json"
  | putEmpty => some "text/plain"
  | get | delete => none

/-- The body of a task, or the reason why it cannot be written. -/
def body? : Task → Except String (Option String)
  | postJson payload => payload.print.map some
  | putEmpty => .ok (some "")
  | get | delete => .ok none

end Task

/-- How requests are carried; the state is what the carrier remembers between them. -/
structure Transport (σ : Type) where
  exchange : Http.Request → σ → Except Error Http.Response × σ

/-- The address of a server and the session with it. -/
structure Connection where
  base : Url
  session : Session := {}
  deriving DecidableEq, Repr

namespace Connection

/-- Connect with the server at an address to which paths can be added. -/
def establish (address : String) : Except Error Connection :=
  match Url.parse address with
  | .error fault => .error (.invalidUrl fault)
  | .ok base =>
      match base.path with
      | .plain _ => .error (.invalidUrl .baseless)
      | .segments _ => .ok { base }

/-- The address of a resource of the server. -/
def locate
    (connection : Connection)
    (segments : List String)
    (query : List (String × String)) :
    Except Error Url :=
  (connection.base.resolve segments query).mapError .invalidUrl

/-- The headers of a request with a content type, or without a body. -/
def headers
    (connection : Connection)
    (contentType : Option String) :
    Http.Headers :=
  let given (name : String) (value : Option String) : Http.Headers :=
    (value.map fun value => (name, value)).toList
  given "content-type" contentType ++ given "cookie" connection.session.header?

/-- The request for a task, or the error when its payload cannot be written. -/
def request
    (connection : Connection)
    (url : Url)
    (task : Task) :
    Except Error Http.Request := do
  let body ← task.body?.mapError .unwritablePayload
  return {
    method := task.method
    url := url.text
    headers := connection.headers task.contentType?
    body }

/-- The session after a response whose cookies are to be kept. -/
def keeping
    (connection : Connection)
    (response : Http.Response) :
    Connection :=
  { connection with
    session := connection.session.store (response.headerValues "set-cookie") }

end Connection

/-- Carry a request, and classify the response. -/
def Transport.send
    {σ : Type}
    (transport : Transport σ)
    (request : Http.Request)
    (state : σ) :
    Except Error Http.Response × σ :=
  let (received, state) := transport.exchange request state
  (received.bind classify, state)

end SecretsAdmin.Client
