import SecretsAdmin.Server.Route

namespace SecretsAdmin.Server

/-!
# Serving requests

The server looks first for the route, then for the session, then for the method, and only then
reads the arguments of a request. Whatever it turns away before that leaves the store as it is.
With a method that the resource does not allow, the response says which ones it does, even to
those who have no session.
-/

/-- The response with a status only. -/
def bare (status : Nat) : Http.Response :=
  ⟨status, [], ""⟩

/-- The response that turns a request away. -/
def Rejection.response (rejection : Rejection) : Http.Response :=
  ⟨rejection.status, [("content-type", "text/plain; charset=utf-8")], rejection.message⟩

/-- The response with a document. -/
def documentResponse
    (status : Nat)
    (document : Json) :
    Http.Response :=
  ⟨status, [("content-type", "application/json")], document.print⟩

/-- The response with an answer. -/
def Answer.response : Answer → Http.Response
  | denied denial => bare denial.status
  | done => bare 200
  | removed => bare 204
  | found document => documentResponse 200 document
  | created document => documentResponse 201 document

/-- The response with a status and the methods that are allowed. -/
def allowing
    (status : Nat)
    (allowed : List String) :
    Http.Response :=
  ⟨status, [("allow", ",".intercalate allowed)], ""⟩

/-- The cookie that a login gives. -/
def cookieOf (token : String) : String :=
  Request.sessionCookie ++ "=" ++ token ++ "; Path=/; HttpOnly"

namespace Store

/-- The user of the session that a request belongs to. -/
def user? (store : Store) (request : Request) : Option String := do
  store.sessions.find? (← Request.sessionToken? request.headers)

/-- Serve a login; the token is the one of the new session. -/
def serveLogin
    (store : Store)
    (token : String)
    (request : Request) :
    Http.Response × Store :=
  if request.method = "POST" then
    match readBody LoginInput.codec.read request with
    | .error rejection => (rejection.response, store)
    | .ok credentials =>
        match store.login token credentials with
        | .error denial => (bare denial.status, store)
        | .ok after => (⟨200, [("set-cookie", cookieOf token)], ""⟩, after)
  else
    (allowing 405 ["POST"], store)

/-- Serve a request with a method to a resource, for the user of a session or for nobody. -/
def serveMethod
    (store : Store)
    (user : Option String)
    (resource : Resource)
    (method : String)
    (request : Request) :
    Http.Response × Store :=
  match user, resource.reader? method with
  | none, none => (allowing 401 resource.allowed, store)
  | none, some _ => (bare 401, store)
  | some _, none => (allowing 405 resource.allowed, store)
  | some user, some read =>
      match read request with
      | .error rejection => (rejection.response, store)
      | .ok command =>
          let (answer, after) := store.execute user command
          (answer.response, after)

/-- Serve a request to a resource; asking for the head is getting without the body. -/
def serveResource
    (store : Store)
    (resource : Resource)
    (request : Request) :
    Http.Response × Store :=
  let user := store.user? request
  if request.method = "HEAD" then
    let (response, after) := store.serveMethod user resource "GET" request
    ({ response with body := "" }, after)
  else
    store.serveMethod user resource request.method request

/-- Serve a request; the token is the one of a session that the request may begin. -/
def serve
    (store : Store)
    (token : String)
    (request : Request) :
    Http.Response × Store :=
  match Route.ofPath? request.path with
  | none => (bare 404, store)
  | some .login => store.serveLogin token request
  | some (.administration resource) => store.serveResource resource request

end Store

end SecretsAdmin.Server
