import SecretsAdmin.Server.Serve

namespace SecretsAdmin.Server

/-!
# How requests are served

A request is turned away, begins a session, or stands for a command that is obeyed. Whatever a
request does to the store, it does by the last two.
-/

namespace Request

/-- The method by which a request is served: asking for the head is getting. -/
def servedMethod (request : Request) : String :=
  if request.method = "HEAD" then "GET" else request.method

/-- The command that a request stands for, whoever makes it. -/
def command? (request : Request) : Option Command :=
  match Route.ofPath? request.path with
  | some (.administration resource) =>
      (resource.reader? request.servedMethod).bind fun read => (read request).toOption
  | _ => none

/-- The command of a request to a resource is the one that its reader reads. -/
theorem command?_of_reader
    {request : Request}
    {resource : Resource}
    {read : CommandReader}
    {command : Command}
    (route : Route.ofPath? request.path = some (.administration resource))
    (reader : resource.reader? request.servedMethod = some read)
    (isRead : read request = .ok command) :
    request.command? = some command := by
  simp [command?, route, reader, isRead, Except.toOption]

/-- Only a request to a resource, with a reader that succeeds, stands for a command. -/
theorem reader_of_command?
    {request : Request}
    {command : Command}
    (asked : request.command? = some command) :
    ∃ resource read,
      Route.ofPath? request.path = some (.administration resource) ∧
        resource.reader? request.servedMethod = some read ∧
        read request = .ok command := by
  unfold command? at asked
  split at asked
  next resource route =>
    obtain ⟨read, reader, isRead⟩ := Option.bind_eq_some_iff.mp asked
    refine ⟨resource, read, route, reader, ?_⟩
    cases outcome : read request with
    | error rejection => simp [outcome, Except.toOption] at isRead
    | ok found => simpa [outcome, Except.toOption] using isRead
  next => contradiction

end Request

/-- Every rejection is a failure. -/
theorem Rejection.failure (rejection : Rejection) :
    400 ≤ rejection.status := by
  cases rejection with
  | badBody failure body =>
      rw [status]
      split <;> decide
  | _ => simp [status]

theorem Denial.failure (denial : Denial) :
    400 ≤ denial.status := by
  cases denial <;> decide

namespace Store

/-- How a request is served: the response, and the store after it. -/
inductive Served
    (store : Store)
    (token : String)
    (request : Request) :
    Http.Response → Store → Prop where
  | refused
      {response : Http.Response}
      (failure : 400 ≤ response.status) :
      Served store token request response store
  | begun
      {credentials : LoginInput}
      {after : Store}
      (route : Route.ofPath? request.path = some .login)
      (login : store.login token credentials = .ok after) :
      Served store token request ⟨200, [("set-cookie", cookieOf token)], ""⟩ after
  | obeyed
      {user : String}
      {command : Command}
      {answer : Answer}
      {after : Store}
      {response : Http.Response}
      (known : store.user? request = some user)
      (asked : request.command? = some command)
      (executed : store.execute user command = (answer, after))
      (status : response.status = answer.response.status) :
      Served store token request response after

/-- A login is refused or begins a session. -/
private theorem serveLogin_served
    (store : Store)
    (token : String)
    {request : Request}
    (route : Route.ofPath? request.path = some .login) :
    Served store token request
      (store.serveLogin token request).1
      (store.serveLogin token request).2 := by
  unfold serveLogin
  split
  · split
    next rejection _ => exact .refused rejection.failure
    next credentials _ =>
      split
      next denial _ => exact .refused denial.failure
      next after login => exact .begun route login
  · exact .refused (by decide : 400 ≤ 405)

/-- A request to a resource is refused, or its command is obeyed. -/
private theorem serveMethod_served
    (store : Store)
    (token : String)
    {request : Request}
    {resource : Resource}
    (route : Route.ofPath? request.path = some (.administration resource)) :
    Served store token request
      (store.serveMethod (store.user? request) resource request.servedMethod request).1
      (store.serveMethod (store.user? request) resource request.servedMethod request).2 := by
  unfold serveMethod
  split
  next => exact .refused (by decide : 400 ≤ 401)
  next => exact .refused (by decide : 400 ≤ 401)
  next => exact .refused (by decide : 400 ≤ 405)
  next user read known reader =>
    split
    next rejection _ => exact .refused rejection.failure
    next command isRead =>
      exact .obeyed known (Request.command?_of_reader route reader isRead) rfl rfl

private theorem serveResource_eq
    (store : Store)
    (resource : Resource)
    (request : Request) :
    store.serveResource resource request =
      let (response, after) :=
        store.serveMethod (store.user? request) resource request.servedMethod request
      (if request.method = "HEAD" then { response with body := "" } else response, after) := by
  unfold serveResource Request.servedMethod
  split <;> rfl

/-- Where a session and a command are known, the response is the answer of the store. -/
theorem serve_of_command
    {store : Store}
    {request : Request}
    {user : String}
    {command : Command}
    (token : String)
    (known : store.user? request = some user)
    (asked : request.command? = some command) :
    store.serve token request =
      (if request.method = "HEAD" then
          { (store.execute user command).1.response with body := "" }
        else
          (store.execute user command).1.response,
        (store.execute user command).2) := by
  obtain ⟨resource, read, route, reader, isRead⟩ := Request.reader_of_command? asked
  have served :
      store.serveMethod (store.user? request) resource request.servedMethod request =
        ((store.execute user command).1.response, (store.execute user command).2) := by
    unfold serveMethod
    simp only [known, reader, isRead]
  simp only [serve, route, serveResource_eq, served]

/-- Whether a command is answered with a document, whoever has a session, and changes nothing. -/
def Tells
    (store : Store)
    (command : Command)
    (document : Json) :
    Prop :=
  ∀ {token request user},
    store.user? request = some user →
      request.command? = some command →
        request.method ≠ "HEAD" →
          store.serve token request = (documentResponse 200 document, store)

/-- What is found for a command, it is answered with. -/
theorem tells_of_execute
    {store : Store}
    {command : Command}
    {document : Json}
    (executed : ∀ user, store.execute user command = (.found document, store)) :
    store.Tells command document := by
  intro token request user known asked notHead
  rw [serve_of_command token known asked, executed user, if_neg notHead]
  rfl

/-- Where a session and a reader are known, a request that is not read is turned away. -/
theorem serve_of_rejection
    {store : Store}
    {request : Request}
    {user : String}
    {resource : Resource}
    {read : CommandReader}
    {rejection : Rejection}
    (token : String)
    (known : store.user? request = some user)
    (route : Route.ofPath? request.path = some (.administration resource))
    (reader : resource.reader? request.servedMethod = some read)
    (rejected : read request = .error rejection)
    (notHead : request.method ≠ "HEAD") :
    store.serve token request = (rejection.response, store) := by
  have served :
      store.serveMethod (store.user? request) resource request.servedMethod request =
        (rejection.response, store) := by
    unfold serveMethod
    simp only [known, reader, rejected]
  simp only [serve, route, serveResource_eq, served, notHead, if_false]

/-- Leaving out the body of a response does not change how the request is served. -/
private theorem Served.withoutBody
    {store after : Store}
    {token : String}
    {request : Request}
    {response : Http.Response}
    (served : Served store token request response after) :
    Served store token request { response with body := "" } after := by
  cases served with
  | refused failure => exact .refused failure
  | begun route login => exact .begun route login
  | obeyed known asked executed status => exact .obeyed known asked executed status

/-- Every request is served in one of the three ways. -/
theorem serve_served
    (store : Store)
    (token : String)
    (request : Request) :
    Served store token request
      (store.serve token request).1
      (store.serve token request).2 := by
  unfold serve
  split
  next => exact .refused (by decide : 400 ≤ 404)
  next route => exact serveLogin_served store token route
  next resource route =>
    have served := serveMethod_served store token route
    rw [serveResource_eq]
    dsimp only
    split
    next => exact served.withoutBody
    next => exact served

end Store

end SecretsAdmin.Server
