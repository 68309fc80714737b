import SecretsAdmin.Client.Script
import SecretsAdmin.Proofs.Client.Performing

namespace SecretsAdmin.Client

/-!
# One exchange for each operation

An operation sends no request, if its arguments or its payload are refused, or exactly one. Then
its result is told by what comes back: the error of a failed exchange, an error with the status of
a failure, or a reply that is read from the response.
-/

namespace Operation

/-- How an operation understands a response: every failure is an error with its status. -/
structure Understands
    (operation : Operation)
    (response : Http.Response)
    (result : Except Error Reply) :
    Prop where
  /-- The seven statuses of refusals become refusals, but for the one that answers a question. -/
  refused :
    ∀ refusal : Refusal,
      response.status = refusal.status →
        ¬(operation = .isLoggedIn ∧ refusal = .unauthorized) →
          result = .error (.refused refusal)
  /-- Other failures keep the status and the body as they are. -/
  unexpected :
    400 ≤ response.status →
      (∀ refusal : Refusal, response.status ≠ refusal.status) →
        result = .error (.unexpectedStatus response.status response.body)
  failed :
    400 ≤ response.status →
      ¬(operation = .isLoggedIn ∧ response.status = 401) →
        ∃ error, result = .error error ∧ error.status? = some response.status
  succeeded :
    response.status < 400 →
      (∃ reply, result = .ok reply) ∨ ∃ message, result = .error (.unreadableResponse message)
  /-- The question whether somebody is logged in is denied by one status and by no other. -/
  notLoggedIn :
    operation = .isLoggedIn → response.status = 401 → result = .ok (.flag false)
  loggedIn :
    operation = .isLoggedIn → response.status < 400 → result = .ok (.flag true)

/-- What the next entry of a script makes of the result of an operation. -/
def Concludes
    (operation : Operation)
    (entry : Option ScriptEntry)
    (result : Except Error Reply) :
    Prop :=
  match entry with
  | none => result = .error (.transport "no scripted response left")
  | some (.failure message) => result = .error (.transport message)
  | some (.response response) => operation.Understands response result

/-- How an operation ends over a script, with one exchange or with none. -/
structure EndsOver
    (operation : Operation)
    (script : Script)
    (outcome : Outcome Script Reply) :
    Prop where
  /-- Nothing is sent exactly when the arguments are refused or the payload cannot be written. -/
  silent_iff :
    outcome.state = script ↔
      (∃ message, outcome.result = .error (.invalidArgument message)) ∨
        ∃ message, outcome.result = .error (.unwritablePayload message)
  /-- Whatever is sent is sent once, and uses up one entry of the script. -/
  once :
    outcome.state ≠ script →
      ∃ request, outcome.state = ⟨script.entries.tail, request :: script.asked⟩
  invalidArgument_iff :
    (∃ message, outcome.result = .error (.invalidArgument message)) ↔ operation.LacksArgument
  unwritablePayload_iff :
    ∀ reason,
      outcome.result = .error (.unwritablePayload reason) ↔
        ¬operation.LacksArgument ∧
          ∃ payload, operation.payload? = some payload ∧ payload.print = .error reason
  validUrl : ∀ fault, outcome.result ≠ .error (.invalidUrl fault)
  concludes :
    outcome.state ≠ script → operation.Concludes script.entries.head? outcome.result

/-! ## Responses -/

/-- A response whose status is that of a refusal is understood as the refusal. -/
theorem understands_of_refusal
    {response : Http.Response}
    {refusal : Refusal}
    (operation : Operation)
    (status : response.status = refusal.status) :
    operation.Understands response (operation.call.result (.error (.refused refusal))) := by
  have failure : 400 ≤ response.status := status ▸ refusal.failure
  have isRefused (noQuestion : ¬(operation = .isLoggedIn ∧ refusal = .unauthorized)) :
      operation.call.result (.error (.refused refusal)) = .error (.refused refusal) := by
    unfold Call.result
    simp only [onRefusal_eq_none noQuestion]
  have unique {other : Refusal} (isOther : response.status = other.status) : refusal = other := by
    have found := congrArg Refusal.ofStatus? (status.symm.trans isOther)
    rw [Refusal.ofStatus?_status, Refusal.ofStatus?_status] at found
    exact Option.some.inj found
  refine ⟨?refused, ?unexpected, ?failed, ?succeeded, ?notLoggedIn, ?loggedIn⟩
  case refused =>
    intro other isOther noQuestion
    cases unique isOther
    exact isRefused noQuestion
  case unexpected =>
    intro _ noRefusal
    exact absurd status (noRefusal refusal)
  case failed =>
    intro _ noQuestion
    refine ⟨.refused refusal, isRefused ?_, congrArg some status.symm⟩
    rintro ⟨isQuestion, rfl⟩
    exact noQuestion ⟨isQuestion, status⟩
  case succeeded => exact fun success => absurd failure (Nat.not_le.mpr success)
  case notLoggedIn =>
    rintro rfl is401
    have isUnauthorized : response.status = Refusal.unauthorized.status := is401
    cases unique isUnauthorized
    rfl
  case loggedIn => exact fun _ success => absurd failure (Nat.not_le.mpr success)

/-- Any other failure is understood as it is. -/
theorem understands_of_failure
    {response : Http.Response}
    (operation : Operation)
    (noRefusal : ∀ refusal : Refusal, response.status ≠ refusal.status)
    (failure : 400 ≤ response.status) :
    operation.Understands response
      (operation.call.result (.error (.unexpectedStatus response.status response.body))) := by
  refine ⟨?refused, fun _ _ => rfl, fun _ _ => ⟨_, rfl, rfl⟩, ?succeeded, ?notLoggedIn, ?loggedIn⟩
  case refused => exact fun refusal isRefusal => absurd isRefusal (noRefusal refusal)
  case succeeded => exact fun success => absurd failure (Nat.not_le.mpr success)
  case notLoggedIn => exact fun _ is401 => absurd is401 (noRefusal .unauthorized)
  case loggedIn => exact fun _ success => absurd failure (Nat.not_le.mpr success)

/-- A response that tells of no failure is read. -/
theorem understands_of_success
    {response : Http.Response}
    (operation : Operation)
    (noRefusal : ∀ refusal : Refusal, response.status ≠ refusal.status)
    (success : response.status < 400) :
    operation.Understands response (operation.call.result (.ok response)) := by
  refine ⟨?refused, ?unexpected, ?failed, ?succeeded, ?notLoggedIn, ?loggedIn⟩
  case refused => exact fun refusal isRefusal => absurd isRefusal (noRefusal refusal)
  case unexpected => exact fun failure => absurd failure (Nat.not_le.mpr success)
  case failed => exact fun failure => absurd failure (Nat.not_le.mpr success)
  case succeeded =>
    intro _
    cases isRead : operation.call.read response with
    | ok reply => exact .inl ⟨reply, isRead⟩
    | error error =>
        obtain ⟨message, rfl⟩ := read_eq_error isRead
        exact .inr ⟨message, isRead⟩
  case notLoggedIn => exact fun _ is401 => absurd is401 (noRefusal .unauthorized)
  case loggedIn =>
    rintro rfl _
    rfl

/-- A response that was classified is understood. -/
theorem understands_result
    (operation : Operation)
    (response : Http.Response) :
    operation.Understands response (operation.call.result (classify response)) := by
  rcases classify_cases response with
    ⟨refusal, status, classified⟩ | ⟨noRefusal, ⟨failure, classified⟩ | ⟨success, classified⟩⟩
  · rw [classified]
    exact operation.understands_of_refusal status
  · rw [classified]
    exact operation.understands_of_failure noRefusal failure
  · rw [classified]
    exact operation.understands_of_success noRefusal success

/-! ## Exchanges -/

/--
After an exchange no error is one that comes before exchanges. Such errors tell of no response, so
they have no status.
-/
theorem Concludes.not_local
    {operation : Operation}
    {entry : Option ScriptEntry}
    {error : Error}
    (concludes : operation.Concludes entry (.error error)) :
    (∀ message, error ≠ .invalidArgument message) ∧
      (∀ reason, error ≠ .unwritablePayload reason) ∧
      ∀ fault, error ≠ .invalidUrl fault := by
  unfold Concludes at concludes
  split at concludes
  · cases concludes
    exact ⟨nofun, nofun, nofun⟩
  · cases concludes
    exact ⟨nofun, nofun, nofun⟩
  next response =>
    by_cases failure : 400 ≤ response.status
    · by_cases isQuestion : operation = .isLoggedIn ∧ response.status = 401
      · cases concludes.notLoggedIn isQuestion.1 isQuestion.2
      · obtain ⟨found, same, status⟩ := concludes.failed failure isQuestion
        cases same
        refine ⟨?_, ?_, ?_⟩ <;> rintro _ rfl <;> cases status
    · rcases concludes.succeeded (by omega) with ⟨reply, isReply⟩ | ⟨message, isError⟩
      · cases isReply
      · cases isError
        exact ⟨nofun, nofun, nofun⟩

/-- The result of an operation whose request a script answers. -/
theorem concludes_exchange
    (operation : Operation)
    (request : Http.Request)
    (script : Script) :
    operation.Concludes script.entries.head?
      (operation.call.result ((script.exchange request).1.bind classify)) := by
  rcases script with ⟨entries, asked⟩
  cases entries with
  | nil => exact rfl
  | cons entry rest =>
      cases entry with
      | failure message => exact rfl
      | response response => exact operation.understands_result response

/-- Whatever is asked of a script, it takes one entry and is remembered. -/
theorem state_exchange
    (request : Http.Request)
    (script : Script) :
    (script.exchange request).2 = ⟨script.entries.tail, request :: script.asked⟩ := by
  rcases script with ⟨entries, asked⟩
  cases entries with
  | nil => rfl
  | cons entry rest => cases entry <;> rfl

/-! ## The three ways of an operation -/

section Ways

variable {operation : Operation} {connection : Connection} {script : Script}

theorem complete_of_noComplaint (noComplaint : operation.call.complaint = none) :
    ¬operation.LacksArgument := by
  intro lacks
  obtain ⟨complaint, isComplaint⟩ := operation.exists_complaint_iff.mpr lacks
  rw [noComplaint] at isComplaint
  cases isComplaint

/-- An operation whose arguments are refused ends without an exchange. -/
theorem endsOver_of_complaint
    {complaint : String}
    (isComplaint : operation.call.complaint = some complaint)
    (noRequest : operation.call.request connection = .error (.invalidArgument complaint)) :
    operation.EndsOver script (operation.call.perform Script.transport connection script) := by
  have lacks := operation.exists_complaint_iff.mp ⟨complaint, isComplaint⟩
  rw [Call.perform_of_error noRequest]
  exact {
    silent_iff := ⟨fun _ => .inl ⟨complaint, rfl⟩, fun _ => rfl⟩
    once := fun sent => absurd rfl sent
    invalidArgument_iff := ⟨fun _ => lacks, fun _ => ⟨complaint, rfl⟩⟩
    unwritablePayload_iff := fun _ => ⟨nofun, fun unwritable => absurd lacks unwritable.1⟩
    validUrl := nofun
    concludes := fun sent => absurd rfl sent }

/-- An operation whose payload cannot be written ends without an exchange. -/
theorem endsOver_of_unwritable
    {reason : String}
    (noComplaint : operation.call.complaint = none)
    (isReason : operation.call.task.body? = .error reason)
    (noRequest : operation.call.request connection = .error (.unwritablePayload reason)) :
    operation.EndsOver script (operation.call.perform Script.transport connection script) := by
  have complete := complete_of_noComplaint noComplaint
  rw [Call.perform_of_error noRequest]
  exact {
    silent_iff := ⟨fun _ => .inr ⟨reason, rfl⟩, fun _ => rfl⟩
    once := fun sent => absurd rfl sent
    invalidArgument_iff := ⟨nofun, fun lacks => absurd lacks complete⟩
    unwritablePayload_iff := by
      intro other
      rw [← body?_eq_error_iff, isReason]
      simp [complete]
    validUrl := nofun
    concludes := fun sent => absurd rfl sent }

/-- An operation with a request ends with one exchange, whose outcome tells the result. -/
theorem endsOver_of_request
    {request : Http.Request}
    {body : Option String}
    (noComplaint : operation.call.complaint = none)
    (isBody : operation.call.task.body? = .ok body)
    (isRequest : operation.call.request connection = .ok request) :
    operation.EndsOver script (operation.call.perform Script.transport connection script) := by
  have complete := complete_of_noComplaint noComplaint
  have state := state_exchange request script
  have concludes := operation.concludes_exchange request script
  have asked : (Script.transport.exchange request script).2 ≠ script := by
    intro same
    have length := congrArg (fun script : Script => script.asked.length) (state.symm.trans same)
    simp at length
  have notLocal {error : Error}
      (isResult :
        operation.call.result
            ((Script.transport.exchange request script).1.bind classify) = .error error) :=
    Concludes.not_local (isResult ▸ concludes)
  rw [Call.perform_of_ok isRequest]
  exact {
    silent_iff := by
      refine ⟨fun silent => absurd silent asked, ?_⟩
      rintro (⟨message, isResult⟩ | ⟨reason, isResult⟩)
      · exact absurd rfl ((notLocal isResult).1 message)
      · exact absurd rfl ((notLocal isResult).2.1 reason)
    once := fun _ => ⟨request, state⟩
    invalidArgument_iff := by
      refine ⟨?_, fun lacks => absurd lacks complete⟩
      rintro ⟨message, isResult⟩
      exact absurd rfl ((notLocal isResult).1 message)
    unwritablePayload_iff := by
      intro reason
      rw [← body?_eq_error_iff, isBody]
      refine ⟨fun isResult => absurd rfl ((notLocal isResult).2.1 reason), ?_⟩
      rintro ⟨-, isUnwritable⟩
      cases isUnwritable
    validUrl := fun fault isResult => absurd rfl ((notLocal isResult).2.2 fault)
    concludes := fun _ => concludes }

end Ways

end Operation

/--
Over every script and with every session, an operation of a client that was established ends with
one exchange or with none, and every failure is reported as what it is.
-/
theorem one_exchange_per_operation
    {address : String}
    {connection : Connection}
    (established : Connection.establish address = .ok { base := connection.base })
    (operation : Operation)
    (script : Script) :
    operation.EndsOver script
      (operation.call.perform Script.transport connection script) := by
  obtain ⟨-, path, isPath⟩ := Connection.base_of_establish established
  rcases operation.call.request_cases connection isPath with
    ⟨complaint, isComplaint, noRequest⟩ |
      ⟨noComplaint, ⟨reason, isReason, noRequest⟩ | ⟨url, body, -, isBody, isRequest⟩⟩
  · exact Operation.endsOver_of_complaint isComplaint noRequest
  · exact Operation.endsOver_of_unwritable noComplaint isReason noRequest
  · exact Operation.endsOver_of_request noComplaint isBody isRequest

/-- A group whose name is taken is asked for once, within a session. -/
theorem one_exchange_per_operation_taken :
    let connection : Connection := {
      base := {
        scheme := "http"
        authority := some { host := .domain "localhost" }
        path := .segments [""] }
      session := ⟨[⟨"session", "k3y"⟩]⟩ }
    let script : Script := { entries := [.response ⟨409, [], "taken"⟩] }
    Connection.establish "http://localhost" = .ok { base := connection.base } ∧
      (Operation.createGroup "g" "").EndsOver script
        ((Operation.createGroup "g" "").call.perform Script.transport connection script) := by
  intro connection script
  have established :
      Connection.establish "http://localhost" = .ok { base := connection.base } := by
    decide +kernel
  exact ⟨established, one_exchange_per_operation established (.createGroup "g" "") script⟩

end SecretsAdmin.Client
