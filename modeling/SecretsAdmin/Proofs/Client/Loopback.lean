import SecretsAdmin.Client.Administration
import SecretsAdmin.Proofs.Client.Addresses
import SecretsAdmin.Proofs.Json.Record
import SecretsAdmin.Proofs.Server.Serving
import SecretsAdmin.Server.Loopback

namespace SecretsAdmin.Client

/-!
# Calls over a loopback

A client whose session is known to the server has its commands obeyed: the address of a call leads
to its resource, its cookies to its session, and its payload is the body that the server reads.
-/

/-! ## Responses -/

/-- A client reads the value that a server sends, as clients see it. -/
theorem readBody_documentResponse
    {α β : Type}
    {reader : Json.Codec β}
    {writer : Json.Codec α}
    {view : α → β}
    (sees : reader.Sees writer view)
    (status : Nat)
    (value : α) :
    readBody reader (Server.documentResponse status (writer.write value)) = .ok (view value) := by
  unfold readBody Server.documentResponse Json.Codec.parse
  dsimp only
  rw [(sees value).parse]
  rfl

/-! ## Requests that arrive -/

namespace Connection

/-- A session is found by the cookies of a connection, whatever the content of a request is. -/
theorem sessionToken?_headers
    (connection : Connection)
    (contentType : Option String) :
    Server.Request.sessionToken? (connection.headers contentType) =
      Server.Request.sessionToken? (connection.headers none) := by
  have isOther : Http.sameName "content-type" "cookie" = false := by decide
  cases contentType <;> simp [headers, Server.Request.sessionToken?, Http.Headers.values, isOther]

theorem declaresJson_headers (connection : Connection) :
    Server.declaresJson (connection.headers (some "application/json")) = true := by
  have isName : Http.sameName "content-type" "content-type" = true := by decide
  have isJson :
      (Http.isVisible "application/json" &&
        (Http.MediaType.parse? "application/json").any Http.MediaType.isJson) = true := by
    decide
  simpa [headers, Server.declaresJson, Http.Headers.first?, isName] using isJson

/-- The request that arrives when a connection has a task done at an address. -/
def arriving
    (connection : Connection)
    (url : Url)
    (task : Task)
    (body : Option String) :
    Server.Request :=
  .ofClient ⟨task.method, url.text, connection.headers task.contentType?, body⟩

/-- The user whom a store knows by the cookies of a connection. -/
def user?
    (connection : Connection)
    (store : Server.Store) :
    Option String :=
  (Server.Request.sessionToken? (connection.headers none)).bind store.sessions.find?

theorem user?_arriving
    (connection : Connection)
    (url : Url)
    (task : Task)
    (body : Option String)
    (store : Server.Store) :
    store.user? (connection.arriving url task body) = connection.user? store :=
  congrArg (Option.bind · store.sessions.find?)
    (connection.sessionToken?_headers task.contentType?)

/-- A session of a connection that a store knows, at an address that leads to the server. -/
structure Live
    (connection : Connection)
    (store : Server.Store) :
    Prop where
  divided : connection.base.WellDivided
  hasPath : ∃ path, connection.base.path = .segments path
  hasAuthority : connection.base.authority.isSome
  known : ∃ user, connection.user? store = some user

theorem Live.leads
    {connection : Connection}
    {store : Server.Store}
    (live : connection.Live store) :
    LeadsToServer connection.base :=
  ⟨live.divided, live.hasPath, live.hasAuthority⟩

end Connection

/-- A call of a resource with any query, with all its arguments in order and a body or none. -/
structure Call.Asks
    {α : Type}
    (call : Call α)
    (resource : Server.Resource)
    (body : Option String) :
    Prop where
  noComplaint : call.complaint = none
  leads :
    ∃ segments,
      call.segments = "admin" :: segments ∧
        (∀ segment ∈ segments, Url.IsPlain segment) ∧
        Server.Resource.ofSegments? segments = some resource
  noCookies : call.keepsCookies = false
  written : call.task.body? = .ok body

/-- A call of a resource, with all its arguments in order and a body or none. -/
structure Call.IsAt
    {α : Type}
    (call : Call α)
    (resource : Server.Resource)
    (body : Option String) :
    Prop where
  noComplaint : call.complaint = none
  leads :
    ∃ segments,
      call.segments = "admin" :: segments ∧
        (∀ segment ∈ segments, Url.IsPlain segment) ∧
        Server.Resource.ofSegments? segments = some resource
  noQuery : call.query = []
  noCookies : call.keepsCookies = false
  written : call.task.body? = .ok body

theorem Call.IsAt.asks
    {α : Type}
    {call : Call α}
    {resource : Server.Resource}
    {body : Option String}
    (isAt : call.IsAt resource body) :
    call.Asks resource body :=
  ⟨isAt.noComplaint, isAt.leads, isAt.noCookies, isAt.written⟩

section Perform

open Server (Loopback)

variable {α : Type} {call : Call α} {connection : Connection} {loopback : Loopback}
variable {resource : Server.Resource} {body : Option String}

/-- A call is performed by serving its request, and classifying the response. -/
theorem Call.perform_loopback
    {request : Http.Request}
    (isRequest : call.request connection = .ok request)
    (token : Nat → String) :
    call.perform (Loopback.transport token) connection loopback =
      let (response, store) :=
        loopback.store.serve (token loopback.served) (.ofClient request)
      ⟨call.result (classify response), call.connectionAfter connection (classify response),
        ⟨store, loopback.served + 1⟩⟩ := by
  rw [Call.perform_of_ok isRequest]
  simp only [Loopback.transport, Loopback.exchange, Except.bind]

/-- The result of a call is what the call makes of the response of the server. -/
theorem Call.result_loopback
    {request : Http.Request}
    (isRequest : call.request connection = .ok request)
    (token : Nat → String) :
    (call.perform (Loopback.transport token) connection loopback).result =
      call.result (classify
        (loopback.store.serve (token loopback.served) (.ofClient request)).1) := by
  rw [Call.perform_loopback isRequest]

/-- A call of a resource leaves the connection as it is. -/
theorem Call.Asks.perform_eq
    {url : Url}
    (asks : call.Asks resource body)
    (located : connection.locate call.segments call.query = .ok url)
    (token : Nat → String) :
    call.perform (Loopback.transport token) connection loopback =
      let (response, store) :=
        loopback.store.serve (token loopback.served) (connection.arriving url call.task body)
      ⟨call.result (classify response), connection, ⟨store, loopback.served + 1⟩⟩ := by
  rw [Call.perform_loopback (Call.request_eq asks.noComplaint located asks.written)]
  simp only [Call.connectionAfter_eq asks.noCookies, Connection.arriving]

/-- The request of a call leads to its resource, and its query asks for what the call asks for. -/
theorem Call.Asks.route
    (asks : call.Asks resource body)
    (leads : LeadsToServer connection.base) :
    ∃ url,
      connection.locate call.segments call.query = .ok url ∧
        Server.Route.ofPath? (connection.arriving url call.task body).path =
            some (.administration resource) ∧
          (connection.arriving url call.task body).query = Url.Form.encode call.query := by
  obtain ⟨path, isPath⟩ := leads.hasPath
  obtain ⟨segments, isSegments, plain, isResource⟩ := asks.leads
  have allPlain : ∀ segment ∈ "admin" :: segments, Url.IsPlain segment :=
    List.forall_mem_cons.mpr ⟨by decide, plain⟩
  obtain ⟨url, located⟩ := connection.exists_locate isPath call.segments call.query
  obtain ⟨isTarget, isQuery⟩ :=
    Url.pathOf_resolved leads.divided leads.hasAuthority isPath
      (by rw [isSegments, Url.pathOf_plain (Url.start_cases path) (by decide) allPlain])
      (fun segment member => (allPlain segment member).undivided)
      (Connection.resolve_of_locate located)
  refine ⟨url, located, ?_, isQuery⟩
  show Server.Route.ofPath? (Http.pathOf url.text) = _
  have notLogin : segments ≠ ["login"] := by
    rintro rfl
    cases isResource
  have noSlash : ∀ segment ∈ segments, '/' ∉ segment.toList :=
    fun segment member => (plain segment member).not_mem (by decide)
  rw [isTarget, Server.Route.ofPath?_segmentsText noSlash notLogin, isResource]
  rfl

/-- The request of a call leads to its resource, if the base of the connection has an authority. -/
theorem Call.IsAt.route
    (isAt : call.IsAt resource body)
    (divided : connection.base.WellDivided)
    (hasPath : ∃ path, connection.base.path = .segments path) :
    ∃ url,
      connection.locate call.segments [] = .ok url ∧
        Server.Route.ofPath? (connection.arriving url call.task body).path =
            (if connection.base.authority.isSome then
              some (.administration resource)
            else
              none) ∧
          (connection.arriving url call.task body).query = "" := by
  obtain ⟨path, isPath⟩ := hasPath
  obtain ⟨segments, isSegments, plain, isResource⟩ := isAt.leads
  have allPlain : ∀ segment ∈ "admin" :: segments, Url.IsPlain segment :=
    List.forall_mem_cons.mpr ⟨by decide, plain⟩
  obtain ⟨url, resolved, isTarget, noQuery⟩ :=
    Url.pathOf_resolve divided isPath (by decide : "admin" ≠ "") allPlain
  refine ⟨url, ?_, ?_, noQuery⟩
  · rw [isSegments, Connection.locate, resolved]
    rfl
  · show Server.Route.ofPath? (Http.pathOf url.text) = _
    rw [isTarget]
    split
    next =>
      have notLogin : segments ≠ ["login"] := by
        rintro rfl
        cases isResource
      have noSlash : ∀ segment ∈ segments, '/' ∉ segment.toList :=
        fun segment member => (plain segment member).not_mem (by decide)
      rw [Server.Route.ofPath?_segmentsText noSlash notLogin, isResource]
      rfl
    next => rfl

theorem method_arriving
    (connection : Connection)
    (url : Url)
    (task : Task)
    (body : Option String) :
    (connection.arriving url task body).method ≠ "HEAD" ∧
      (connection.arriving url task body).servedMethod = task.method.word := by
  have notHead : task.method.word ≠ "HEAD" := by
    cases task.method <;> decide
  exact ⟨notHead, if_neg notHead⟩

/-- A call of a client with a live session is obeyed, if its request is read as a command. -/
theorem Call.Asks.obeyed
    {read : Server.CommandReader}
    {command : Server.Command}
    (asks : call.Asks resource body)
    (live : connection.Live loopback.store)
    (reader : resource.reader? call.task.method.word = some read)
    (isRead :
      ∀ url,
        (connection.arriving url call.task body).query = Url.Form.encode call.query →
          read (connection.arriving url call.task body) = .ok command)
    (token : Nat → String) :
    ∃ user,
      call.perform (Loopback.transport token) connection loopback =
        ⟨call.result (classify (loopback.store.execute user command).1.response), connection,
          ⟨(loopback.store.execute user command).2, loopback.served + 1⟩⟩ := by
  obtain ⟨url, located, route, isQuery⟩ := asks.route live.leads
  obtain ⟨user, known⟩ := live.known
  rw [← connection.user?_arriving url call.task body] at known
  obtain ⟨notHead, served⟩ := method_arriving connection url call.task body
  have asked : (connection.arriving url call.task body).command? = some command :=
    Server.Request.command?_of_reader route (served ▸ reader) (isRead url isQuery)
  refine ⟨user, ?_⟩
  rw [asks.perform_eq located, Server.Store.serve_of_command _ known asked, if_neg notHead]

theorem Call.IsAt.obeyed
    {read : Server.CommandReader}
    {command : Server.Command}
    (isAt : call.IsAt resource body)
    (live : connection.Live loopback.store)
    (reader : resource.reader? call.task.method.word = some read)
    (isRead :
      ∀ url,
        (connection.arriving url call.task body).query = "" →
          read (connection.arriving url call.task body) = .ok command)
    (token : Nat → String) :
    ∃ user,
      call.perform (Loopback.transport token) connection loopback =
        ⟨call.result (classify (loopback.store.execute user command).1.response), connection,
          ⟨(loopback.store.execute user command).2, loopback.served + 1⟩⟩ :=
  isAt.asks.obeyed live reader (fun url isQuery => isRead url (by rw [isQuery, isAt.noQuery]; rfl))
    token

/-- A call of a client with a live session is turned away, if its request cannot be read. -/
theorem Call.Asks.rejected
    {read : Server.CommandReader}
    (rejection : Server.Rejection)
    (asks : call.Asks resource body)
    (live : connection.Live loopback.store)
    (reader : resource.reader? call.task.method.word = some read)
    (rejected : ∀ url, read (connection.arriving url call.task body) = .error rejection)
    (token : Nat → String) :
    call.perform (Loopback.transport token) connection loopback =
      ⟨call.result (classify rejection.response), connection,
        ⟨loopback.store, loopback.served + 1⟩⟩ := by
  obtain ⟨url, located, route, -⟩ := asks.route live.leads
  obtain ⟨user, known⟩ := live.known
  rw [← connection.user?_arriving url call.task body] at known
  obtain ⟨notHead, served⟩ := method_arriving connection url call.task body
  rw [asks.perform_eq located,
    Server.Store.serve_of_rejection _ known route (served ▸ reader) (rejected url) notHead]

end Perform

/-! ## Live sessions -/

theorem isAt_isLoggedIn : isLoggedIn.IsAt .user none where
  noComplaint := rfl
  leads := ⟨["me"], rfl, by decide, rfl⟩
  noQuery := rfl
  noCookies := rfl
  written := rfl

/-- Whoever has no session is told so. -/
theorem isLoggedIn_of_stranger
    {connection : Connection}
    {loopback : Server.Loopback}
    (divided : connection.base.WellDivided)
    (hasPath : ∃ path, connection.base.path = .segments path)
    (hasAuthority : connection.base.authority.isSome)
    (stranger : connection.user? loopback.store = none)
    (token : Nat → String) :
    isLoggedIn.perform (Server.Loopback.transport token) connection loopback =
      ⟨.ok false, connection, ⟨loopback.store, loopback.served + 1⟩⟩ := by
  obtain ⟨url, located, route, -⟩ := isAt_isLoggedIn.route divided hasPath
  rw [if_pos hasAuthority] at route
  rw [← connection.user?_arriving url isLoggedIn.task none] at stranger
  have denied :
      loopback.store.serve (token loopback.served)
          (connection.arriving url isLoggedIn.task none) =
        (Server.bare 401, loopback.store) := by
    unfold Server.Store.serve
    rw [route]
    dsimp only
    unfold Server.Store.serveResource
    rw [stranger]
    rfl
  rw [isAt_isLoggedIn.asks.perform_eq located, denied]
  rfl

/--
A connection of which the server says that somebody is logged in has a live session there: it
leads to the server, and the server knows its token.
-/
theorem Connection.live_of_isLoggedIn
    {address : String}
    {connection : Connection}
    {token : Nat → String}
    {loopback : Server.Loopback}
    (established : Connection.establish address = .ok { base := connection.base })
    (loggedIn :
      (isLoggedIn.perform (Server.Loopback.transport token) connection loopback).result =
        .ok true) :
    connection.Live loopback.store := by
  obtain ⟨divided, hasPath⟩ := Connection.base_of_establish established
  cases hasAuthority : connection.base.authority.isSome with
  | false =>
      obtain ⟨url, located, route, -⟩ := isAt_isLoggedIn.route divided hasPath
      rw [isAt_isLoggedIn.asks.perform_eq located] at loggedIn
      unfold Server.Store.serve at loggedIn
      rw [route, hasAuthority] at loggedIn
      cases loggedIn
  | true =>
      refine ⟨divided, hasPath, hasAuthority, ?_⟩
      cases known : connection.user? loopback.store with
      | some user => exact ⟨user, rfl⟩
      | none =>
          rw [isLoggedIn_of_stranger divided hasPath hasAuthority known] at loggedIn
          cases loggedIn

end SecretsAdmin.Client
