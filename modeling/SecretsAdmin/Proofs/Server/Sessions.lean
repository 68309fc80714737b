import Mathlib.Data.List.Induction
import SecretsAdmin.Proofs.Server.Users

namespace SecretsAdmin.Server

/-!
# Sessions of a history

Who makes a request can be told by the history: it is who sent the last login that was answered
with the token that the request has. Only logins begin sessions.
-/

namespace Exchange

/-- Who sent a login, going by its body. -/
def loginUser? (exchange : Exchange) : Option String :=
  (readBody LoginInput.codec.read exchange.request).toOption.map LoginInput.username

end Exchange

namespace History

/-- The user of a session, going by the last login that was answered with its token. -/
def sessionUser?
    (history : History)
    (token : String) :
    Option String :=
  (history.reverse.find? fun exchange => exchange.response = loginResponse token).bind
    Exchange.loginUser?

/-- The user who makes a request, going by what passed before it. -/
def user?
    (history : History)
    (request : Request) :
    Option String := do
  history.sessionUser? (← Request.sessionToken? request.headers)

end History

/-- Whether a request is a login with the credentials of the administrator. -/
def Request.IsAdministratorLogin (request : Request) : Prop :=
  Route.ofPath? request.path = some .login ∧
    request.method = "POST" ∧
    readBody LoginInput.codec.read request = .ok ⟨Store.administrator, Store.password⟩

/-- The administrator is who logs in with its credentials. -/
theorem Request.IsAdministratorLogin.loginUser?_eq
    {request : Request}
    (isLogin : request.IsAdministratorLogin)
    (response : Http.Response) :
    Exchange.loginUser? ⟨request, response⟩ = some Store.administrator := by
  rw [Exchange.loginUser?, isLogin.2.2]
  rfl

/-- Responses to logins differ with their tokens. -/
theorem loginResponse_injective
    {token other : String}
    (same : loginResponse token = loginResponse other) :
    token = other := by
  simpa [loginResponse, cookieOf] using same

namespace Store

/-- Secrets that are generated leave the sessions as they are. -/
theorem Generates.sessions
    {user : String}
    {store after : Store}
    {inputs : List TemplateInput}
    {secrets : List Secret}
    (generates : Generates user store inputs secrets after) :
    after.sessions = store.sessions := by
  induction generates with
  | done => rfl
  | next first _ inductionHypothesis =>
      obtain ⟨-, -, rfl, rfl⟩ := generateOne_eq_ok_iff.mp first
      exact inductionHypothesis

/-- No command begins or ends a session. -/
theorem execute_sessions
    {store after : Store}
    {user : String}
    {command : Command}
    {answer : Answer}
    (executed : store.execute user command = (answer, after)) :
    after.sessions = store.sessions := by
  cases command with
  | createGroup input =>
      refine of_answerCreated rfl (fun created => ?_) executed
      obtain ⟨-, -, rfl, -⟩ := createGroup_eq_ok_iff.mp created
      rfl
  | createClient input =>
      refine of_answerCreated rfl (fun created => ?_) executed
      obtain ⟨-, -, rfl, -⟩ := createClient_eq_ok_iff.mp created
      rfl
  | createSecret input =>
      refine of_answerCreated rfl (fun created => ?_) executed
      obtain ⟨-, -, -, rfl, -⟩ := createSecret_eq_ok_iff.mp created
      rfl
  | deleteGroup id =>
      refine of_answerChanged rfl (fun changed => ?_) executed
      obtain ⟨-, rfl⟩ := deleteGroup_eq_ok_iff.mp changed
      rfl
  | deleteClient id =>
      refine of_answerChanged rfl (fun changed => ?_) executed
      obtain ⟨-, rfl⟩ := deleteClient_eq_ok_iff.mp changed
      rfl
  | deleteSecret id =>
      refine of_answerChanged rfl (fun changed => ?_) executed
      obtain ⟨-, rfl⟩ := deleteSecret_eq_ok_iff.mp changed
      rfl
  | enrollClient link | evictClient link =>
      refine of_answerChanged rfl (fun changed => ?_) executed
      obtain ⟨-, -, rfl⟩ := changeClientLink_eq_ok_iff.mp changed
      rfl
  | grantSecret link | revokeSecret link =>
      refine of_answerChanged rfl (fun changed => ?_) executed
      obtain ⟨-, -, rfl⟩ := changeSecretLink_eq_ok_iff.mp changed
      rfl
  | generate generator parameters =>
      obtain ⟨_, outcome⟩ := generate_of_execute executed
      obtain ⟨_, _, generates, -⟩ := exists_generates_of_generate outcome
      exact generates.sessions
  | _ =>
      cases executed
      rfl

/-- No answer to a command gives a token. -/
theorem headers_ne_loginResponse
    (answer : Answer)
    (token : String) :
    answer.response.headers ≠ (loginResponse token).headers := by
  cases answer <;> simp [Answer.response, bare, documentResponse, loginResponse]

/-- A login that succeeds is posted with the credentials of the administrator. -/
theorem credentials_of_serveLogin
    {store : Store}
    {token : String}
    {request : Request}
    (succeeded : (store.serveLogin token request).1.status = 200) :
    request.method = "POST" ∧
      readBody LoginInput.codec.read request = .ok ⟨administrator, password⟩ := by
  by_cases isPost : request.method = "POST"
  · cases isRead : readBody LoginInput.codec.read request with
    | error rejection =>
        have failure := rejection.failure
        simp only [serveLogin, if_pos isPost, isRead, Rejection.response] at succeeded
        omega
    | ok credentials =>
        rw [serveLogin_of_credentials isPost isRead] at succeeded
        split at succeeded
        next isRight => exact ⟨isPost, congrArg Except.ok isRight⟩
        next => cases succeeded
  · simp [serveLogin, isPost, allowing] at succeeded

/-- A request begins a session for who sent it, and is answered with the token, or begins none. -/
theorem serve_sessions
    (store : Store)
    (token : String)
    (request : Request) :
    ((store.serve token request).1 = loginResponse token ∧
        request.IsAdministratorLogin ∧
        (store.serve token request).2.sessions = store.sessions.insert token administrator) ∨
      (∀ other, (store.serve token request).1 ≠ loginResponse other) ∧
        (store.serve token request).2.sessions = store.sessions := by
  have served := store.serve_served token request
  generalize isResponse : (store.serve token request).1 = response at served ⊢
  generalize isAfter : (store.serve token request).2 = after at served ⊢
  cases served with
  | refused failure =>
      refine .inr ⟨fun other same => ?_, rfl⟩
      rw [same] at failure
      simp [loginResponse] at failure
  | begun route login =>
      obtain ⟨-, rfl⟩ := login_eq_ok_iff.mp login
      rw [serve, route] at isResponse
      have succeeded := congrArg Http.Response.status isResponse
      exact .inl ⟨rfl, ⟨route, credentials_of_serveLogin succeeded⟩, rfl⟩
  | @obeyed user command answer _ _ known asked executed _ =>
      refine .inr ⟨fun other same => ?_, execute_sessions executed⟩
      rw [serve_of_command token known asked, executed] at isResponse
      refine headers_ne_loginResponse answer other ?_
      rw [← same, ← isResponse]
      dsimp only
      split <;> rfl

/-- The user of a session is told by the history. -/
theorem run_sessions
    (arrivals : List Arrival)
    (token : String) :
    (fresh.run arrivals).2.sessions.find? token = (fresh.run arrivals).1.sessionUser? token := by
  induction arrivals using List.reverseRecOn with
  | nil => rfl
  | append_singleton earlier last inductionHypothesis =>
      rw [run_concat]
      dsimp only
      rw [History.sessionUser?, List.reverse_concat, List.find?_cons]
      rcases (fresh.run earlier).2.serve_sessions last.token last.request with
        ⟨begins, isLogin, sessions⟩ | ⟨noLogin, sessions⟩
      · have isUser := isLogin.loginUser?_eq (loginResponse last.token)
        rw [sessions, OrderedMap.find?_insert, begins]
        by_cases isToken : token = last.token
        · rw [if_pos isToken, isToken, decide_eq_true rfl]
          exact isUser.symm
        · have isOther : loginResponse last.token ≠ loginResponse token :=
            fun same => isToken (loginResponse_injective same).symm
          rw [if_neg isToken, decide_eq_false isOther]
          exact inductionHypothesis
      · rw [sessions, decide_eq_false (noLogin token)]
        exact inductionHypothesis

/-- Who makes a request is told by the history. -/
theorem run_user?
    (arrivals : List Arrival)
    (request : Request) :
    (fresh.run arrivals).2.user? request = (fresh.run arrivals).1.user? request := by
  unfold user? History.user?
  refine congrArg (Option.bind _) (funext fun token => ?_)
  exact run_sessions arrivals token

end Store

end SecretsAdmin.Server
