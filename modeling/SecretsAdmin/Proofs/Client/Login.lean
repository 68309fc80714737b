import SecretsAdmin.Proofs.Client.Addresses
import SecretsAdmin.Proofs.Client.Exchange
import SecretsAdmin.Proofs.Client.Loopback
import SecretsAdmin.Proofs.Model.View
import SecretsAdmin.Proofs.Server.Reading
import SecretsAdmin.Proofs.Server.Users

namespace SecretsAdmin.Client

/-!
# Logins over a loopback

How every operation of a client ends over a loopback. A login begins a session exactly with the
right credentials. Whatever else a client does, it does as a stranger, who is told nothing and
changes nothing, or as a user, who is never told to log in.
-/

open Server (Loopback IsToken)
open Server.Store (administrator password)

/-! ## The cookie of a login -/

/-- The session of a client whose last login gave a token. -/
def sessionOf (token : String) : Session :=
  ⟨[⟨"session", token⟩]⟩

/-- The cookie of a login holds the token and nothing else. -/
theorem Cookie.ofGiven?_cookieOf
    {token : String}
    (isToken : IsToken token) :
    Cookie.ofGiven? (Server.cookieOf token) = some ⟨"session", token⟩ := by
  have isWhole :
      (Server.cookieOf token).toList =
        ("session=" ++ token).toList ++ ';' :: " Path=/; HttpOnly".toList := by
    simp [Server.cookieOf, Server.Request.sessionCookie]
  have isPair :
      Text.cutAt? ';' (Server.cookieOf token).toList =
        some (("session=" ++ token).toList, " Path=/; HttpOnly".toList) :=
    Text.cutAt?_eq_some_iff.mpr ⟨isWhole, isToken.noSemicolon⟩
  have isName : Text.trimBlanks "session".toList = "session".toList :=
    Text.trimBlanks_eq_self (by decide)
  unfold Cookie.ofGiven? Text.cutOrWhole
  rw [isPair]
  dsimp only [Option.getD_some]
  rw [IsToken.cutAt?_cookie]
  simp only [Option.bind_eq_bind, Option.bind_some, isName,
    Text.trimBlanks_eq_self (isToken.passes (by decide)), String.ofList_toList]
  rfl

theorem headerValues_loginResponse (token : String) :
    (Server.loginResponse token).headerValues "set-cookie" = [Server.cookieOf token] := by
  have isName : Http.sameName "set-cookie" "set-cookie" = true := by decide
  simp [Server.loginResponse, Http.Response.headerValues, Http.Headers.values, isName]

/-- A cookie of the server replaces the one before it. -/
theorem keep_sessionOf
    {session : Session}
    (before : session = {} ∨ ∃ earlier, session = sessionOf earlier)
    (token : String) :
    session.keep ⟨"session", token⟩ = sessionOf token := by
  rcases before with rfl | ⟨earlier, rfl⟩
  · rfl
  · simp [sessionOf, Session.keep, Session.place]

section Known

variable {connection : Connection} {store : Server.Store}

/-- Without cookies nobody is known. -/
theorem user?_of_blank (blank : connection.session = {}) :
    connection.user? store = none := by
  rcases connection with ⟨base, session⟩
  cases blank
  rfl

/-- Whether the only cookie of a connection is that of a session which the server knows. -/
def Connection.HoldsSession
    (connection : Connection)
    (store : Server.Store) :
    Prop :=
  ∃ token,
    IsToken token ∧ token ∈ store.sessions.keys ∧ connection.session = sessionOf token

theorem Connection.HoldsSession.exists_user? (holds : connection.HoldsSession store) :
    ∃ user, connection.user? store = some user := by
  obtain ⟨token, isToken, known, isSession⟩ := holds
  have isHeader : connection.headers none = [("cookie", "session=" ++ token)] := by
    unfold Connection.headers
    rw [isSession]
    rfl
  unfold Connection.user?
  rw [isHeader, isToken.sessionToken?_cookie]
  exact Option.isSome_iff_exists.mp (OrderedMap.contains_iff_mem_keys.mpr known)

end Known

/-! ## How an operation ends -/

/-- Whether credentials are those of the administrator. -/
def IsRight (username secret : String) : Prop :=
  username = administrator ∧ secret = password

instance (username secret : String) : Decidable (IsRight username secret) :=
  inferInstanceAs (Decidable (_ ∧ _))

/-- Whether the body of a login is not too long for the server. -/
def LoginFits (username secret : String) : Prop :=
  (Utf8.encode (Model.Login.codec.print ⟨username, secret⟩)).length ≤ Server.greatestLength

instance (username secret : String) : Decidable (LoginFits username secret) :=
  Nat.decLe _ _

/-- The ways in which an operation can end; the token is the one of a session that may begin. -/
inductive Operation.Ends
    (operation : Operation)
    (connection : Connection)
    (loopback : Loopback)
    (token : String) :
    Outcome Loopback Reply → Prop where
  /-- A login with the right credentials begins a session. -/
  | begun
      (isRight : operation = .login administrator password) :
      Ends operation connection loopback token
        ⟨.ok (.loggedIn ⟨administrator, 1⟩),
          { connection with session := connection.session.keep ⟨"session", token⟩ },
          ⟨loopback.store.withSession token, loopback.served + 1⟩⟩
  /-- A login with other credentials is refused, or its body is too long. -/
  | denied
      {username secret : String}
      {error : Error}
      (isLogin : operation = .login username secret)
      (isWrong : ¬IsRight username secret)
      (isError : LoginFits username secret → error = .refused .unauthorized) :
      Ends operation connection loopback token
        ⟨.error error, connection, ⟨loopback.store, loopback.served + 1⟩⟩
  /-- What a stranger asks changes nothing, and has no answer but to one question. -/
  | unknown
      {result : Except Error Reply}
      {served : Nat}
      (noLogin : ¬operation.IsLogin)
      (stranger : connection.user? loopback.store = none)
      (noAnswer : operation ≠ .isLoggedIn → ∃ error, result = .error error)
      (answer : operation = .isLoggedIn → result = .ok (.flag false)) :
      Ends operation connection loopback token ⟨result, connection, ⟨loopback.store, served⟩⟩
  /-- What a user asks is never refused for the lack of a session. -/
  | known
      {user : String}
      {result : Except Error Reply}
      {after : Loopback}
      (noLogin : ¬operation.IsLogin)
      (isUser : connection.user? loopback.store = some user)
      (changes : Server.Store.Changes loopback.store after.store)
      (permitted : result ≠ .error (.refused .unauthorized))
      (answer : operation = .isLoggedIn → result = .ok (.flag true)) :
      Ends operation connection loopback token ⟨result, connection, after⟩

namespace Operation.Ends

variable {operation : Operation} {connection : Connection} {loopback : Loopback} {token : String}
variable {outcome : Outcome Loopback Reply}

theorem base_eq (ends : operation.Ends connection loopback token outcome) :
    outcome.connection.base = connection.base := by
  cases ends <;> rfl

/-- A session that the server knows is not forgotten. -/
theorem mem_sessions
    {other : String}
    (ends : operation.Ends connection loopback token outcome)
    (known : other ∈ loopback.store.sessions.keys) :
    other ∈ outcome.state.store.sessions.keys := by
  cases ends with
  | begun => exact OrderedMap.mem_keys_insert_iff.mpr (.inr known)
  | denied => exact known
  | unknown => exact known
  | known _ _ changes _ _ => exact changes.mem_sessions known

/-- Only a login that succeeds changes the cookies of a client, and the server knows the new one. -/
theorem session_cases (ends : operation.Ends connection loopback token outcome) :
    (operation.IsLogin ∧
        (∃ reply, outcome.result = .ok reply) ∧
        outcome.connection.session = connection.session.keep ⟨"session", token⟩ ∧
        token ∈ outcome.state.store.sessions.keys) ∨
      ¬(operation.IsLogin ∧ ∃ reply, outcome.result = .ok reply) ∧
        outcome.connection.session = connection.session := by
  cases ends with
  | begun isRight =>
      left
      exact ⟨⟨_, _, isRight⟩, ⟨_, rfl⟩, rfl, OrderedMap.mem_keys_insert_iff.mpr (.inl rfl)⟩
  | denied =>
      right
      refine ⟨?_, rfl⟩
      rintro ⟨-, reply, isReply⟩
      cases isReply
  | unknown noLogin => exact .inr ⟨fun logsIn => noLogin logsIn.1, rfl⟩
  | known noLogin => exact .inr ⟨fun logsIn => noLogin logsIn.1, rfl⟩

/-- Who holds a session holds it after an operation of anybody, with the same cookies. -/
theorem holdsSession
    {holder after : Connection}
    (ends : operation.Ends connection loopback token outcome)
    (holds : holder.HoldsSession loopback.store)
    (sameSession : after.session = holder.session) :
    after.HoldsSession outcome.state.store := by
  obtain ⟨other, isToken, known, isSession⟩ := holds
  exact ⟨other, isToken, ends.mem_sessions known, sameSession.trans isSession⟩

end Operation.Ends

section Perform

variable {connection : Connection} {loopback : Loopback} {token : Nat → String}

theorem user?_ofClient
    {α : Type}
    {call : Call α}
    {request : Http.Request}
    (isRequest : call.request connection = .ok request)
    (store : Server.Store) :
    store.user? (.ofClient request) = connection.user? store := by
  have found :
      Server.Request.sessionToken? request.headers =
        Server.Request.sessionToken? (connection.headers none) := by
    rw [Call.headers_of_request isRequest, connection.sessionToken?_headers]
  exact congrArg (Option.bind · store.sessions.find?) found

/-- The request of a login is one that the server serves as a login, with the credentials. -/
theorem exists_loginRequest
    (leads : LeadsToServer connection.base)
    (username secret : String) :
    ∃ request,
      (Operation.login username secret).call.request connection = .ok request ∧
        Server.Route.ofPath? (Server.Request.ofClient request).path = some .login ∧
        request.method = .post ∧
        Server.declaresJson request.headers = true ∧
        request.body = some (Model.Login.codec.print ⟨username, secret⟩) := by
  obtain ⟨url, located, route⟩ := leads.exists_loginRoute
  have written := Task.body?_postValue Model.Login.codec ⟨username, secret⟩
  exact ⟨_, Call.request_eq rfl located written, route, rfl, connection.declaresJson_headers, rfl⟩

/-- The body of a login is read as the credentials, unless it is too long. -/
theorem serve_login
    {username secret : String}
    {request : Http.Request}
    (route : Server.Route.ofPath? (Server.Request.ofClient request).path = some .login)
    (isPost : request.method = .post)
    (declared : Server.declaresJson request.headers = true)
    (isBody : request.body = some (Model.Login.codec.print ⟨username, secret⟩))
    (token : String)
    (store : Server.Store) :
    store.serve token (.ofClient request) =
      if LoginFits username secret then
        if IsRight username secret then
          (Server.loginResponse token, store.withSession token)
        else
          (Server.bare 401, store)
      else
        (Server.Rejection.tooLong.response, store) := by
  have isMethod : (Server.Request.ofClient request).method = "POST" := by
    simp only [Server.Request.ofClient, isPost, Http.Method.word]
  have isDeclared : Server.declaresJson (Server.Request.ofClient request).headers = true := declared
  have arrives :
      (Server.Request.ofClient request).body =
        Utf8.encode (Model.Login.codec.print ⟨username, secret⟩) := by
    simp only [Server.Request.ofClient, isBody, Option.getD_some]
  unfold Server.Store.serve
  rw [route]
  dsimp only
  by_cases fits : LoginFits username secret
  · rw [if_pos fits]
    have isRead :
        Server.readBody Server.LoginInput.codec.read (.ofClient request) =
          .ok (.ofLogin ⟨username, secret⟩) := by
      rw [Server.readBody_eq_ok_iff, arrives]
      exact ⟨isDeclared, fits, (sees_login ⟨username, secret⟩).parse⟩
    have isRight_iff :
        Server.LoginInput.ofLogin ⟨username, secret⟩ = ⟨administrator, password⟩ ↔
          IsRight username secret := by
      simp [IsRight, Server.LoginInput.ofLogin]
    rw [Server.Store.serveLogin_of_credentials isMethod isRead]
    exact if_congr isRight_iff rfl rfl
  · rw [if_neg fits]
    have tooLong : Server.greatestLength < (Server.Request.ofClient request).body.length := by
      rw [arrives]
      exact Nat.lt_of_not_le fits
    have isRejected :
        Server.readBody Server.LoginInput.codec.read (.ofClient request) = .error .tooLong := by
      unfold Server.readBody
      rw [isDeclared, if_pos tooLong]
      rfl
    unfold Server.Store.serveLogin
    rw [if_pos isMethod, isRejected]

theorem result_loginResponse
    {username secret token : String}
    (isToken : IsToken token) :
    (Operation.login username secret).call.result (classify (Server.loginResponse token)) =
      .ok (.loggedIn ⟨username, 1⟩) := by
  have kept : Session.keptCount [Server.cookieOf token] = 1 := by
    simp [Session.keptCount, Cookie.ofGiven?_cookieOf isToken]
  have isResult :
      (Operation.login username secret).call.result (classify (Server.loginResponse token)) =
        .ok (.loggedIn ⟨username,
          Session.keptCount ((Server.loginResponse token).headerValues "set-cookie")⟩) :=
    rfl
  rw [isResult, headerValues_loginResponse, kept]

theorem connectionAfter_loginResponse
    {username secret token : String}
    (isToken : IsToken token) :
    (Operation.login username secret).call.connectionAfter connection
        (classify (Server.loginResponse token)) =
      { connection with session := connection.session.keep ⟨"session", token⟩ } := by
  have isConnection :
      (Operation.login username secret).call.connectionAfter connection
          (classify (Server.loginResponse token)) =
        connection.keeping (Server.loginResponse token) :=
    rfl
  rw [isConnection, Connection.keeping, headerValues_loginResponse]
  simp [Session.store, Cookie.ofGiven?_cookieOf isToken]

/-- A login begins a session, or it is denied. -/
theorem login_ends
    (leads : LeadsToServer connection.base)
    (isToken : IsToken (token loopback.served))
    (username secret : String) :
    (Operation.login username secret).Ends connection loopback (token loopback.served)
      ((Operation.login username secret).call.perform
        (Loopback.transport token) connection loopback) := by
  obtain ⟨request, isRequest, route, isPost, declared, isBody⟩ :=
    exists_loginRequest leads username secret
  rw [Call.perform_loopback isRequest, serve_login route isPost declared isBody]
  by_cases fits : LoginFits username secret
  · rw [if_pos fits]
    by_cases right : IsRight username secret
    · rw [if_pos right]
      obtain ⟨rfl, rfl⟩ := right
      dsimp only
      rw [result_loginResponse isToken, connectionAfter_loginResponse isToken]
      exact .begun rfl
    · rw [if_neg right]
      exact .denied rfl right fun _ => rfl
  · rw [if_neg fits]
    have isWrong : ¬IsRight username secret := by
      rintro ⟨rfl, rfl⟩
      exact fits (by decide +kernel)
    exact .denied rfl isWrong fun short => absurd short fits

/-- The question whether somebody is logged in has an answer, for strangers and for users. -/
theorem isLoggedIn_ends
    (leads : LeadsToServer connection.base)
    (token : Nat → String) :
    Operation.isLoggedIn.Ends connection loopback (token loopback.served)
      (Operation.isLoggedIn.call.perform (Loopback.transport token) connection loopback) := by
  have noLogin : ¬Operation.isLoggedIn.IsLogin := nofun
  have isCall : Operation.isLoggedIn.call = isLoggedIn.map .flag := rfl
  rw [isCall, Call.perform_map]
  cases isUser : connection.user? loopback.store with
  | none =>
      rw [isLoggedIn_of_stranger leads.divided leads.hasPath leads.hasAuthority isUser]
      exact .unknown noLogin isUser (fun other => absurd rfl other) fun _ => rfl
  | some user =>
      have live : connection.Live loopback.store :=
        ⟨leads.divided, leads.hasPath, leads.hasAuthority, user, isUser⟩
      obtain ⟨administrator, performed⟩ :=
        isAt_isLoggedIn.obeyed live rfl (fun _ _ => rfl) token
      rw [performed]
      exact .known noLogin isUser .refl nofun fun _ => rfl

theorem result_of_failure
    {operation : Operation}
    {response : Http.Response}
    (noQuestion : operation ≠ .isLoggedIn)
    (failure : 400 ≤ response.status) :
    ∃ error,
      operation.call.result (classify response) = .error error ∧
        error.status? = some response.status :=
  (operation.understands_result response).failed failure fun question => noQuestion question.1

/-- Only one status is understood as the lack of a session. -/
theorem result_permitted
    {operation : Operation}
    {response : Http.Response}
    (noQuestion : operation ≠ .isLoggedIn)
    (permitted : response.status ≠ 401) :
    operation.call.result (classify response) ≠ .error (.refused .unauthorized) := by
  intro isRefused
  by_cases failure : 400 ≤ response.status
  · obtain ⟨error, isError, status⟩ := result_of_failure noQuestion failure
    rw [isRefused] at isError
    cases isError
    exact permitted (Option.some.inj status).symm
  · rcases (operation.understands_result response).succeeded (by omega) with
      ⟨reply, isReply⟩ | ⟨message, isMessage⟩
    · rw [isRefused] at isReply
      cases isReply
    · rw [isRefused] at isMessage
      cases isMessage

/-- What is no login makes no request, or one that does not lead to where sessions begin. -/
theorem Operation.request_noLogin
    {operation : Operation}
    (leads : LeadsToServer connection.base)
    (noLogin : ¬operation.IsLogin) :
    (∃ error,
        operation.call.request connection = .error error ∧ error ≠ .refused .unauthorized) ∨
      ∃ request,
        operation.call.request connection = .ok request ∧
          Server.Route.ofPath? (Server.Request.ofClient request).path ≠ some .login := by
  obtain ⟨path, isPath⟩ := leads.hasPath
  rcases operation.call.request_cases connection isPath with
    ⟨complaint, -, noRequest⟩ | ⟨-, ⟨reason, -, noRequest⟩ | ⟨url, body, located, -, isRequest⟩⟩
  · exact .inl ⟨_, noRequest, nofun⟩
  · exact .inl ⟨_, noRequest, nofun⟩
  · exact .inr ⟨_, isRequest, leads.route_ne_login noLogin located⟩

/--
Every operation ends in one of the four ways. Strangers are refused whatever they ask for; only a
login could begin a session.
-/
theorem Operation.perform_ends
    (operation : Operation)
    (leads : LeadsToServer connection.base)
    (isToken : IsToken (token loopback.served)) :
    operation.Ends connection loopback (token loopback.served)
      (operation.call.perform (Loopback.transport token) connection loopback) := by
  by_cases isLogin : operation.IsLogin
  · obtain ⟨username, secret, rfl⟩ := isLogin
    exact login_ends leads isToken username secret
  by_cases isQuestion : operation = .isLoggedIn
  · subst isQuestion
    exact isLoggedIn_ends leads token
  rcases Operation.request_noLogin leads isLogin with
    ⟨error, noRequest, permitted⟩ | ⟨request, isRequest, route⟩
  · rw [Call.perform_of_error noRequest]
    cases isUser : connection.user? loopback.store with
    | none =>
        exact .unknown isLogin isUser (fun _ => ⟨error, rfl⟩)
          fun question => absurd question isQuestion
    | some user =>
        refine .known isLogin isUser .refl ?_ fun question => absurd question isQuestion
        rintro ⟨⟩
        exact permitted rfl
  · have keepsNothing : operation.call.keepsCookies = false :=
      Bool.eq_false_iff.mpr fun keeps => isLogin (operation.keepsCookies_iff.mp keeps)
    have known := user?_ofClient isRequest loopback.store
    have changes := loopback.store.serve_changes (token loopback.served) (.ofClient request)
    have served := loopback.store.serve_served (token loopback.served) (.ofClient request)
    have permitted {user : String} (isUser : connection.user? loopback.store = some user) :=
      Server.Store.serve_user (known.trans isUser) route (token loopback.served)
    rw [Call.perform_loopback isRequest]
    simp only [Call.connectionAfter_eq keepsNothing]
    generalize loopback.store.serve (token loopback.served) (.ofClient request) = exchange
      at changes served permitted
    obtain ⟨response, after⟩ := exchange
    cases isUser : connection.user? loopback.store with
    | none =>
        cases served with
        | refused failure =>
            obtain ⟨error, isError, -⟩ := result_of_failure isQuestion failure
            exact .unknown isLogin isUser (fun _ => ⟨error, isError⟩)
              fun question => absurd question isQuestion
        | begun isLoginRoute _ => exact absurd isLoginRoute route
        | obeyed isKnown _ _ _ =>
            rw [known, isUser] at isKnown
            cases isKnown
    | some user =>
        exact .known isLogin isUser changes (result_permitted isQuestion (permitted isUser))
          fun question => absurd question isQuestion

end Perform

end SecretsAdmin.Client
