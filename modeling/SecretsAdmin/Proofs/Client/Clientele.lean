import Mathlib.Logic.Function.Basic
import SecretsAdmin.Proofs.Client.Login

namespace SecretsAdmin.Client

/-!
# How long logins last

Many clients of one server call it in any order. A client is known to the server from its first
login that succeeds, and for good; before that it is a stranger.
-/

open Server (Loopback IsToken)
open Server.Store (administrator password)

/-- A call that a client made, and its result. -/
structure Event (ι : Type) where
  client : ι
  operation : Operation
  result : Except Error Reply

/-- Whether a client logs in, and the login succeeds. -/
def Event.Begins
    {ι : Type}
    (event : Event ι)
    (client : ι) :
    Prop :=
  event.client = client ∧ event.operation.IsLogin ∧ ∃ reply, event.result = .ok reply

/-- The clients of one server, and what has passed between them and the server. -/
structure Clientele (ι : Type) where
  connections : ι → Connection
  loopback : Loopback
  history : List (Event ι) := []

namespace Clientele

variable {ι : Type}

/-- Clients with an address each, and a server that was never asked anything. -/
def fresh (bases : ι → Url) : Clientele ι where
  connections client := { base := bases client }
  loopback := { store := .fresh }

/-- What comes of an operation of a client. -/
def outcome
    (token : Nat → String)
    (clientele : Clientele ι)
    (client : ι)
    (operation : Operation) :
    Outcome Loopback Reply :=
  operation.call.perform (Loopback.transport token)
    (clientele.connections client) clientele.loopback

/-- Whether a client has logged in. -/
def HasLoggedIn
    (clientele : Clientele ι)
    (client : ι) :
    Prop :=
  ∃ event ∈ clientele.history, event.Begins client

/-- How an operation of a client fares, by what passed before it. -/
structure Fares
    (clientele : Clientele ι)
    (client : ι)
    (operation : Operation)
    (outcome : Outcome Loopback Reply) :
    Prop where
  login :
    ∀ username secret,
      operation = .login username secret →
        LoginFits username secret →
          outcome.result =
            if IsRight username secret then
              .ok (.loggedIn ⟨username, 1⟩)
            else
              .error (.refused .unauthorized)
  isLoggedIn :
    operation = .isLoggedIn →
      ∃ known,
        outcome.result = .ok (.flag known) ∧ (known = true ↔ clientele.HasLoggedIn client)
  /-- Who has logged in is only refused for other credentials. -/
  permitted :
    clientele.HasLoggedIn client →
      (∀ username secret, operation = .login username secret → IsRight username secret) →
        outcome.result ≠ .error (.refused .unauthorized)
  /-- Who has not logged in has no answer but to a login and to one question. -/
  unanswered :
    ¬clientele.HasLoggedIn client →
      operation ≠ .isLoggedIn →
        (∃ reply, outcome.result = .ok reply) →
          operation.IsLogin
  unchanged :
    ¬clientele.HasLoggedIn client →
      outcome.state.store.SameButSessions clientele.loopback.store

variable [DecidableEq ι]

/-- Have a client perform an operation. -/
def step
    (token : Nat → String)
    (clientele : Clientele ι)
    (client : ι)
    (operation : Operation) :
    Clientele ι :=
  let outcome := clientele.outcome token client operation
  { connections := Function.update clientele.connections client outcome.connection
    loopback := outcome.state
    history := clientele.history ++ [⟨client, operation, outcome.result⟩] }

/-- Have clients perform operations one after the other. -/
def run
    (token : Nat → String)
    (clientele : Clientele ι) :
    List (ι × Operation) → Clientele ι
  | [] => clientele
  | (client, operation) :: rest => (clientele.step token client operation).run token rest

/-! ## Who is known -/

/-- What holds of the clients of a server: who has logged in is known, and nobody else is. -/
structure Consistent (clientele : Clientele ι) : Prop where
  leads : ∀ client, LeadsToServer (clientele.connections client).base
  known :
    ∀ client,
      clientele.HasLoggedIn client →
        (clientele.connections client).HoldsSession clientele.loopback.store
  blank :
    ∀ client, ¬clientele.HasLoggedIn client → (clientele.connections client).session = {}

variable {token : Nat → String} {clientele : Clientele ι} {client other : ι} {operation : Operation}

omit [DecidableEq ι] in
theorem Consistent.exists_user?
    (consistent : clientele.Consistent)
    (loggedIn : clientele.HasLoggedIn client) :
    ∃ user, (clientele.connections client).user? clientele.loopback.store = some user :=
  (consistent.known client loggedIn).exists_user?

omit [DecidableEq ι] in
theorem Consistent.user?_eq_none
    (consistent : clientele.Consistent)
    (noLogin : ¬clientele.HasLoggedIn client) :
    (clientele.connections client).user? clientele.loopback.store = none :=
  user?_of_blank (consistent.blank client noLogin)

omit [DecidableEq ι] in
/-- The cookie of a login is the only one, whether the client has logged in before or not. -/
theorem Consistent.keep_eq
    (consistent : clientele.Consistent)
    (client : ι)
    (token : String) :
    (clientele.connections client).session.keep ⟨"session", token⟩ = sessionOf token := by
  refine keep_sessionOf ?_ token
  by_cases loggedIn : clientele.HasLoggedIn client
  · obtain ⟨earlier, -, -, isSession⟩ := consistent.known client loggedIn
    exact .inr ⟨earlier, isSession⟩
  · exact .inl (consistent.blank client loggedIn)

/-- Somebody has logged in after a step who had before, or who does with the step. -/
theorem hasLoggedIn_step_iff :
    (clientele.step token client operation).HasLoggedIn other ↔
      clientele.HasLoggedIn other ∨
        client = other ∧
          operation.IsLogin ∧
          ∃ reply, (clientele.outcome token client operation).result = .ok reply := by
  unfold HasLoggedIn step
  simp only [List.mem_append, List.mem_singleton]
  constructor
  · rintro ⟨event, member | rfl, begins⟩
    · exact .inl ⟨event, member, begins⟩
    · exact .inr begins
  · rintro (⟨event, member, begins⟩ | begins)
    · exact ⟨event, .inl member, begins⟩
    · exact ⟨_, .inr rfl, begins⟩

omit [DecidableEq ι] in
theorem Consistent.ends
    (consistent : clientele.Consistent)
    (areTokens : ∀ number, IsToken (token number))
    (client : ι)
    (operation : Operation) :
    operation.Ends (clientele.connections client) clientele.loopback
      (token clientele.loopback.served) (clientele.outcome token client operation) :=
  operation.perform_ends (consistent.leads client) (areTokens clientele.loopback.served)

/-- A step changes the connection of the client that acts, and no other. -/
theorem forall_connections_step
    (holds : ι → Connection → Prop)
    (own : holds client (clientele.outcome token client operation).connection)
    (others : ∀ other, other ≠ client → holds other (clientele.connections other)) :
    ∀ other, holds other ((clientele.step token client operation).connections other) :=
  (Function.forall_update_iff clientele.connections holds).mpr ⟨own, others⟩

/-- No step makes a client known who has not logged in, or unknown who has. -/
theorem Consistent.step
    (consistent : clientele.Consistent)
    (areTokens : ∀ number, IsToken (token number))
    (client : ι)
    (operation : Operation) :
    (clientele.step token client operation).Consistent := by
  have ends := consistent.ends areTokens client operation
  have hasLoggedIn_iff (other : ι) (isOther : other ≠ client) :
      (clientele.step token client operation).HasLoggedIn other ↔ clientele.HasLoggedIn other := by
    rw [hasLoggedIn_step_iff]
    simp [isOther.symm]
  let after := clientele.step token client operation
  refine ⟨
    forall_connections_step (fun _ connection => LeadsToServer connection.base)
      ?leads.own ?leads.others,
    forall_connections_step
      (fun other connection =>
        after.HasLoggedIn other → connection.HoldsSession after.loopback.store)
      ?known.own ?known.others,
    forall_connections_step
      (fun other connection => ¬after.HasLoggedIn other → connection.session = {})
      ?blank.own ?blank.others⟩
  case leads.own =>
    rw [ends.base_eq]
    exact consistent.leads client
  case leads.others => exact fun other _ => consistent.leads other
  case known.own =>
    intro loggedIn
    rcases ends.session_cases with ⟨-, -, session, stored⟩ | ⟨noLogin, session⟩
    · exact ⟨_, areTokens _, stored, session.trans (consistent.keep_eq client _)⟩
    · have before : clientele.HasLoggedIn client :=
        (hasLoggedIn_step_iff.mp loggedIn).resolve_right fun begins => noLogin begins.2
      exact ends.holdsSession (consistent.known client before) session
  case known.others =>
    intro other isOther loggedIn
    have before := (hasLoggedIn_iff other isOther).mp loggedIn
    exact ends.holdsSession (consistent.known other before) rfl
  case blank.own =>
    intro noLogin
    rw [hasLoggedIn_step_iff, not_or] at noLogin
    rcases ends.session_cases with ⟨isLogin, answered, -, -⟩ | ⟨-, session⟩
    · exact absurd ⟨rfl, isLogin, answered⟩ noLogin.2
    · exact session.trans (consistent.blank client noLogin.1)
  case blank.others =>
    intro other isOther noLogin
    exact consistent.blank other fun before => noLogin ((hasLoggedIn_iff other isOther).mpr before)

theorem Consistent.run
    (consistent : clientele.Consistent)
    (areTokens : ∀ number, IsToken (token number))
    (calls : List (ι × Operation)) :
    (clientele.run token calls).Consistent := by
  induction calls generalizing clientele with
  | nil => exact consistent
  | cons call rest inductionHypothesis =>
      exact inductionHypothesis (consistent.step areTokens call.1 call.2)

omit [DecidableEq ι] in
/-- Where it is known who has logged in, every operation fares as it should. -/
theorem Consistent.fares
    (consistent : clientele.Consistent)
    (areTokens : ∀ number, IsToken (token number))
    (client : ι)
    (operation : Operation) :
    clientele.Fares client operation (clientele.outcome token client operation) := by
  have ends := consistent.ends areTokens client operation
  generalize clientele.outcome token client operation = outcome at ends
  cases ends with
  | begun isRight =>
      subst isRight
      exact {
        login := by
          rintro username secret ⟨⟩ -
          exact (if_pos ⟨rfl, rfl⟩).symm
        isLoggedIn := nofun
        permitted := fun _ _ => nofun
        unanswered := fun _ _ _ => ⟨_, _, rfl⟩
        unchanged := fun _ => rfl }
  | denied isLogin isWrong isError =>
      subst isLogin
      exact {
        login := by
          rintro username secret ⟨⟩ fits
          rw [if_neg isWrong, isError fits]
        isLoggedIn := nofun
        permitted := fun _ areRight => absurd (areRight _ _ rfl) isWrong
        unanswered := fun _ _ _ => ⟨_, _, rfl⟩
        unchanged := fun _ => rfl }
  | unknown noLogin stranger noAnswer answer =>
      have notYet : ¬clientele.HasLoggedIn client := by
        intro loggedIn
        obtain ⟨user, isUser⟩ := consistent.exists_user? loggedIn
        rw [stranger] at isUser
        cases isUser
      exact {
        login := fun _ _ isLogin => absurd ⟨_, _, isLogin⟩ noLogin
        isLoggedIn := fun isQuestion => ⟨false, answer isQuestion, by simp [notYet]⟩
        permitted := fun before => absurd before notYet
        unanswered := by
          rintro - noQuestion ⟨reply, isReply⟩
          obtain ⟨error, isError⟩ := noAnswer noQuestion
          rw [isError] at isReply
          cases isReply
        unchanged := fun _ => rfl }
  | known noLogin isUser _ permitted answer =>
      have before : clientele.HasLoggedIn client := by
        by_contra notYet
        rw [consistent.user?_eq_none notYet] at isUser
        cases isUser
      exact {
        login := fun _ _ isLogin => absurd ⟨_, _, isLogin⟩ noLogin
        isLoggedIn := fun isQuestion => ⟨true, answer isQuestion, by simp [before]⟩
        permitted := fun _ _ => permitted
        unanswered := fun notYet => absurd before notYet
        unchanged := fun notYet => absurd before notYet }

omit [DecidableEq ι] in
theorem consistent_fresh
    {bases : ι → Url}
    (leads : ∀ client, LeadsToServer (bases client)) :
    (fresh bases).Consistent where
  leads := leads
  known := by
    rintro client ⟨event, member, -⟩
    cases member
  blank _ _ := rfl

/--
In every run of clients of one server, with whatever they call and in whatever order, a login
succeeds with the right credentials only, a client is known exactly from its first login on, and
before it the client learns and changes nothing.
-/
theorem logins_last
    {token : Nat → String}
    {bases : ι → Url}
    (areTokens : ∀ number, IsToken (token number))
    (established : ∀ client, ∃ address, Connection.establish address = .ok { base := bases client })
    (hasAuthority : ∀ client, (bases client).authority.isSome)
    (calls : List (ι × Operation))
    (client : ι)
    (operation : Operation) :
    let clientele := (fresh bases).run token calls
    clientele.Fares client operation (clientele.outcome token client operation) := by
  have leads (client : ι) : LeadsToServer (bases client) := by
    obtain ⟨address, isEstablished⟩ := established client
    obtain ⟨divided, hasPath⟩ := Connection.base_of_establish isEstablished
    exact ⟨divided, hasPath, hasAuthority client⟩
  have consistent := (consistent_fresh leads).run areTokens calls
  exact consistent.fares areTokens client operation

/-- Of two clients one has logged in, and stays known when it is refused later. -/
theorem logins_last_two :
    let token (number : Nat) : String := .ofList (Hex.fixed 32 number)
    let base : Url := {
      scheme := "http"
      authority := some { host := .domain "localhost" }
      path := .segments [""] }
    let calls : List (Bool × Operation) :=
      [(true, .login administrator password), (false, .login "u" "p"), (true, .login "u" "p")]
    let clientele := (fresh fun _ => base).run token calls
    (∀ number, IsToken (token number)) ∧
      Connection.establish "http://localhost" = .ok { base } ∧
      (clientele.outcome token true .isLoggedIn).result = .ok (.flag true) ∧
      (clientele.outcome token false .isLoggedIn).result = .ok (.flag false) ∧
      clientele.Fares true .isLoggedIn (clientele.outcome token true .isLoggedIn) ∧
      clientele.Fares false .isLoggedIn (clientele.outcome token false .isLoggedIn) := by
  intro token base calls clientele
  have areTokens : ∀ number, IsToken (token number) := fun number => .fixed 32 number
  have established : Connection.establish "http://localhost" = .ok { base } := by
    decide +kernel
  have fares (client : Bool) :
      clientele.Fares client .isLoggedIn (clientele.outcome token client .isLoggedIn) :=
    logins_last areTokens (fun _ => ⟨_, established⟩) (fun _ => rfl) calls client .isLoggedIn
  exact ⟨areTokens, established, by decide +kernel, by decide +kernel, fares true, fares false⟩

end Clientele

end SecretsAdmin.Client
