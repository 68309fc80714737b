import SecretsAdmin.Client.Script
import SecretsAdmin.Proofs.Client.Performing
import SecretsAdmin.Proofs.Client.Replacement

namespace SecretsAdmin.Client

/-!
# The cookies of a run

Only a login that succeeds writes the session, and every request carries the session as it is. So
the cookies of a request are told by the responses to the logins before it, and by nothing else.
-/

/-! ## Sessions -/

namespace Session

/-- The header of a session has the name and the value of every cookie, and it is there for some. -/
theorem toList_header? (session : Session) :
    session.header?.toList =
      if session.cookies = [] then
        []
      else
        ["; ".intercalate (session.cookies.map fun cookie => cookie.name ++ "=" ++ cookie.value)] := by
  rcases session with ⟨cookies⟩
  cases cookies <;> rfl

/-- The names that are there stay where they are. -/
private theorem names_place
    (cookie : Cookie)
    (cookies : List Cookie) :
    cookies.map Cookie.name <+: (place cookie cookies).map Cookie.name := by
  rw [map_name_place]
  split
  next => exact List.prefix_rfl
  next => exact List.prefix_append _ _

/-- A cookie of a session may be replaced, but the session always has one of its name. -/
theorem names_store
    (session : Session)
    (given : List String) :
    session.cookies.map Cookie.name <+: (session.store given).cookies.map Cookie.name := by
  unfold store
  induction given.filterMap Cookie.ofGiven? generalizing session with
  | nil => exact List.prefix_rfl
  | cons cookie rest inductionHypothesis =>
      rw [List.foldl_cons]
      exact (names_place cookie session.cookies).trans (inductionHypothesis (session.keep cookie))

end Session

/-! ## Runs -/

/-- A request that was sent, and what came of it. -/
structure Passage where
  request : Http.Request
  received : Except Error Http.Response

/-- A transport that also notes whatever passes. -/
def Transport.noting
    {σ : Type}
    (transport : Transport σ) :
    Transport (σ × List Passage) where
  exchange request state :=
    let (received, after) := transport.exchange request state.1
    (received, after, state.2 ++ [⟨request, received⟩])

/-- An operation of a run with what passed because of it and the session that it left. -/
structure Step where
  operation : Operation
  passages : List Passage
  session : Session

/-- Perform operations one after the other. -/
def Connection.run
    {σ : Type}
    (transport : Transport σ) :
    List Operation → Connection → σ → List Step
  | [], _, _ => []
  | operation :: rest, connection, state =>
      let outcome := operation.call.perform transport.noting connection (state, [])
      ⟨operation, outcome.state.2, outcome.connection.session⟩ ::
        run transport rest outcome.connection outcome.state.1

/-- The cookies of a response: the values of its headers of that name, in letters of any case. -/
def cookiesOf (response : Http.Response) : List String :=
  (response.headers.filter fun header => header.1.toLower = "set-cookie").map (·.2)

namespace Step

/-- The cookies that are to be kept of a step: those of a login whose status is no failure. -/
def given (step : Step) : List String :=
  match step.operation with
  | .login _ _ =>
      step.passages.flatMap fun passage =>
        match passage.received with
        | .ok response => if response.status < 400 then cookiesOf response else []
        | .error _ => []
  | _ => []

/-- The session after some steps of a run, told by the responses alone. -/
def jar (steps : List Step) : Session :=
  ({} : Session).store (steps.flatMap given)

/-- How a step goes with a session. -/
structure Carries
    (step : Step)
    (base : Url)
    (jar : Session) :
    Prop where
  /--
  Every request has the one cookie header that names the cookies of the session in their order, each
  with its value, or it has none.
  -/
  cookies :
    ∀ passage ∈ step.passages,
      passage.request.headers.values "cookie" =
        if jar.cookies = [] then
          []
        else
          ["; ".intercalate (jar.cookies.map fun cookie => cookie.name ++ "=" ++ cookie.value)]
  absent_iff :
    ∀ passage ∈ step.passages, passage.request.header? "cookie" = none ↔ jar.cookies = []
  /-- Nothing else that happened before the step shows in its requests. -/
  determined :
    ∀ passage ∈ step.passages, step.operation.call.request ⟨base, jar⟩ = .ok passage.request
  stored : step.session = jar.store step.given
  /-- The cookies of the session are still there after the step, if perhaps with other values. -/
  kept : jar.cookies.map Cookie.name <+: step.session.cookies.map Cookie.name

end Step

/-! ## What a step keeps -/

theorem headerValues_setCookie (response : Http.Response) :
    response.headerValues "set-cookie" = cookiesOf response := by
  have lower : "set-cookie".toList.map Char.toLower = "set-cookie".toList := by decide +kernel
  unfold Http.Response.headerValues Http.Headers.values cookiesOf
  refine congrArg (List.map _) (List.filter_congr fun header _ => ?_)
  unfold Http.sameName String.toLower
  rw [lower, ← String.toList_map, beq_eq_decide]
  exact decide_eq_decide.mpr String.toList_inj

/-- The cookie header of a request is that of the session. -/
theorem Connection.values_headers
    (connection : Connection)
    (contentType : Option String) :
    (connection.headers contentType).values "cookie" = connection.session.header?.toList := by
  have other : Http.sameName "content-type" "cookie" = false := by decide +kernel
  have same : Http.sameName "cookie" "cookie" = true := by decide +kernel
  unfold Connection.headers Http.Headers.values
  cases contentType <;> cases connection.session.header? <;> simp [other, same]

/-- After an exchange a connection has kept what the exchange gives, and nothing else. -/
theorem Operation.connectionAfter_eq
    (operation : Operation)
    (connection : Connection)
    (passage : Passage)
    (session : Session) :
    operation.call.connectionAfter connection (passage.received.bind classify) =
      ⟨connection.base,
        connection.session.store (Step.given ⟨operation, [passage], session⟩)⟩ := by
  rcases passage with ⟨request, received⟩
  cases operation with
  | login username password =>
      cases received with
      | error error => rfl
      | ok response =>
          have given :
              Step.given ⟨.login username password, [⟨request, .ok response⟩], session⟩ =
                if response.status < 400 then cookiesOf response else [] :=
            List.append_nil _
          rw [given]
          dsimp only [Except.bind]
          rcases classify_cases response with
            ⟨refusal, status, classified⟩ | ⟨-, ⟨failure, classified⟩ | ⟨success, classified⟩⟩
          · have failure := refusal.failure
            rw [classified, if_neg (by omega)]
            rfl
          · rw [classified, if_neg (by omega)]
            rfl
          · rw [classified, if_pos success, ← headerValues_setCookie]
            rfl
  | _ =>
      cases received.bind classify with
      | ok response => rfl
      | error error => rfl

/-- What an operation sends is told by the connection, and what it keeps by what is received. -/
theorem Operation.perform_noting
    {σ : Type}
    (operation : Operation)
    (transport : Transport σ)
    (connection : Connection)
    (state : σ) :
    let outcome := operation.call.perform transport.noting connection (state, [])
    let step : Step := ⟨operation, outcome.state.2, outcome.connection.session⟩
    (∀ passage ∈ step.passages, operation.call.request connection = .ok passage.request) ∧
      outcome.connection = ⟨connection.base, connection.session.store step.given⟩ := by
  cases isRequest : operation.call.request connection with
  | error error =>
      rw [Call.perform_of_error isRequest]
      refine ⟨nofun, ?_⟩
      cases operation <;> rfl
  | ok request =>
      rw [Call.perform_of_ok isRequest]
      refine ⟨?_, operation.connectionAfter_eq connection ⟨request, _⟩ _⟩
      intro passage member
      cases List.mem_singleton.mp member
      rfl

/-- A step carries the session that it finds, whatever that is. -/
theorem Operation.carries
    {σ : Type}
    (operation : Operation)
    (transport : Transport σ)
    (connection : Connection)
    (state : σ) :
    let outcome := operation.call.perform transport.noting connection (state, [])
    Step.Carries ⟨operation, outcome.state.2, outcome.connection.session⟩
      connection.base connection.session := by
  intro outcome
  obtain ⟨determined, after⟩ := operation.perform_noting transport connection state
  have cookies :
      ∀ passage ∈ outcome.state.2,
        passage.request.headers.values "cookie" = connection.session.header?.toList := by
    intro passage member
    rw [Call.headers_of_request (determined passage member), Connection.values_headers]
  rw [Session.toList_header?] at cookies
  refine ⟨cookies, ?absent, determined, congrArg Connection.session after, ?kept⟩
  case absent =>
    intro passage member
    have isFirst :
        passage.request.header? "cookie" = (passage.request.headers.values "cookie").head? := by
      unfold Http.Request.header? Http.Headers.first? Http.Headers.values
      rw [← List.head?_filter, ← List.head?_map]
    rw [isFirst, cookies passage member]
    split
    next isEmpty => simp [isEmpty]
    next notEmpty => simp [notEmpty]
  case kept =>
    rw [show outcome.connection.session = _ from congrArg Connection.session after]
    exact Session.names_store connection.session _

/-! ## What a run keeps -/

namespace Step

/-- Whether a session has the last cookies that some steps gave, in the order of the first ones. -/
def Remembered (session : Session) (steps : List Step) : Prop :=
  ∃ kept : List Cookie,
    List.Forall₂ Cookie.IsOf kept ((steps.flatMap given).filter Cookie.IsKept) ∧
      session.Remembers kept

/-- What the responses of some steps have given, the session after them remembers. -/
theorem remembered_jar (steps : List Step) : Remembered (jar steps) steps :=
  ⟨_, Cookie.areOf_filterMap_ofGiven? _, Session.remembers_empty.store _⟩

/-- A step carries the session of the steps before it, whatever the session was at first. -/
theorem carries_of_run
    {σ : Type}
    {transport : Transport σ}
    {operations : List Operation}
    {connection : Connection}
    {state : σ}
    {earlier later : List Step}
    {step : Step}
    (isStep : connection.run transport operations state = earlier ++ step :: later) :
    step.Carries connection.base (connection.session.store (earlier.flatMap given)) := by
  induction operations generalizing connection state earlier with
  | nil => exact absurd isStep (by simp [Connection.run])
  | cons operation rest inductionHypothesis =>
      have carries := operation.carries transport connection state
      obtain ⟨-, after⟩ := operation.perform_noting transport connection state
      unfold Connection.run at isStep
      dsimp only at isStep after carries
      cases earlier with
      | nil =>
          cases isStep
          exact carries
      | cons first others =>
          obtain ⟨isFirst, isRest⟩ := List.cons.inj isStep
          rw [after] at isRest
          rw [List.flatMap_cons, Session.store_append, ← isFirst]
          exact inductionHypothesis isRest

end Step

/--
In every run over every transport, a step carries the session that the logins before it have
made, and no session is made by anything else. The session has the last cookies of these logins.
-/
theorem requests_carry_login_cookies
    {σ : Type}
    {transport : Transport σ}
    {operations : List Operation}
    {base : Url}
    {state : σ}
    {earlier later : List Step}
    {step : Step}
    (isStep : Connection.run transport operations { base } state = earlier ++ step :: later) :
    Step.Remembered (Step.jar earlier) earlier ∧ step.Carries base (Step.jar earlier) :=
  ⟨Step.remembered_jar earlier, Step.carries_of_run isStep⟩

/-- A login whose response leads elsewhere succeeds, and its cookie goes with the next request. -/
theorem requests_carry_login_cookies_redirect :
    let base : Url := {
      scheme := "http"
      authority := some { host := .domain "localhost" }
      path := .segments [""] }
    let script : Script := {
      entries :=
        [.response ⟨302, [("SET-Cookie", "session=k3y; Path=/")], ""⟩,
          .response ⟨200, [("Set-Cookie", "session=other")], "[]"⟩] }
    ∃ login listing,
      Connection.run Script.transport [.login "u" "p", .allGroups] { base } script =
          [login] ++ listing :: [] ∧
        listing.passages ≠ [] ∧
        Step.jar [login] = ⟨[⟨"session", "k3y"⟩]⟩ ∧
        Step.Remembered (Step.jar [login]) [login] ∧
        listing.Carries base (Step.jar [login]) ∧
        ∀ passage ∈ listing.passages,
          passage.request.headers.values "cookie" = ["session=k3y"] := by
  intro base script
  have ⟨remembered, carries⟩ := requests_carry_login_cookies
    (show Connection.run Script.transport [.login "u" "p", .allGroups] { base } script =
      [_] ++ _ :: [] from rfl)
  refine ⟨_, _, rfl, nofun, by decide +kernel, remembered, carries, fun passage sent => ?_⟩
  rw [carries.cookies passage sent]
  decide +kernel

end SecretsAdmin.Client
