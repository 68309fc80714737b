import SecretsAdmin.Client.Agent
import SecretsAdmin.Proofs.Client.Performing
import SecretsAdmin.Proofs.Text.Decoding

namespace SecretsAdmin.Client

/-!
# What agents make of responses

The status of a failure always reaches the classification, whatever came with it and whatever could
be read of it. Without a failure the body is handed over unchanged or not at all.
-/

/-! ## Bodies -/

/-- The body of a failure is never in the way of its status. -/
theorem exists_bodyText_of_failure
    {status : Nat}
    (failure : 400 ≤ status)
    (content : Except String Octets) :
    ∃ text, bodyText status content = .ok text := by
  cases content with
  | ok octets => exact ⟨_, if_pos failure⟩
  | error reason => exact ⟨_, if_pos failure⟩

/-- The bytes of a text are read as the text, whether they tell of a failure or not. -/
theorem bodyText_encode
    (status : Nat)
    (text : String) :
    bodyText status (.ok (Utf8.encode text)) = .ok text := by
  unfold bodyText
  dsimp only
  split
  next => rw [Utf8.decodeLossy_encode]
  next =>
    rw [Utf8.decode_encode]
    rfl

/-- Without a failure, bytes that are those of no text are not read. -/
theorem exists_bodyText_of_noText
    {status : Nat}
    {octets : Octets}
    (success : status < 400)
    (noText : ∀ text, Utf8.encode text ≠ octets) :
    ∃ message, bodyText status (.ok octets) = .error (.unreadableResponse message) := by
  obtain ⟨defect, isDefect⟩ := Utf8.exists_decode_eq_error_iff.mpr noText
  refine ⟨defect.message, ?_⟩
  unfold bodyText
  dsimp only
  rw [if_neg (Nat.not_le.mpr success), isDefect]
  rfl

theorem bodyText_of_error
    {status : Nat}
    (success : status < 400)
    (reason : String) :
    bodyText status (.error reason) = .error (.transport reason) :=
  if_neg (Nat.not_le.mpr success)

/-! ## Responses -/

namespace Agent

variable {agent : Agent} {delivery : Delivery}

/-- An agent that does not report a status alone reads the body. -/
theorem receive_eq
    (notAlone : ¬(agent.reportsFailuresAlone ∧ 400 ≤ delivery.status ∧ delivery.status < 600)) :
    agent.receive delivery =
      (bodyText delivery.status (agent.read delivery)).map fun text =>
        ⟨delivery.status, visibleHeaders (tidyHeaders delivery.allHeaders), text⟩ := by
  unfold receive
  rw [if_neg notAlone]
  cases bodyText delivery.status (agent.read delivery) <;> rfl

theorem receive_of_success
    (success : delivery.status < 400) :
    agent.receive delivery =
      (bodyText delivery.status (agent.read delivery)).map fun text =>
        ⟨delivery.status, visibleHeaders (tidyHeaders delivery.allHeaders), text⟩ :=
  receive_eq fun alone => absurd alone.2.1 (Nat.not_le.mpr success)

/-- A failure becomes a response with its status. -/
theorem exists_receive_of_failure
    (agent : Agent)
    (failure : 400 ≤ delivery.status) :
    ∃ headers text, agent.receive delivery = .ok ⟨delivery.status, headers, text⟩ := by
  by_cases alone : agent.reportsFailuresAlone ∧ 400 ≤ delivery.status ∧ delivery.status < 600
  · exact ⟨[], "", if_pos alone⟩
  · obtain ⟨text, isText⟩ := exists_bodyText_of_failure failure (agent.read delivery)
    rw [receive_eq alone, isText]
    exact ⟨_, text, rfl⟩

end Agent

/-- A response with the status of a failure is classified as an error with that status. -/
theorem exists_classify_of_failure
    (response : Http.Response)
    (failure : 400 ≤ response.status) :
    ∃ error, classify response = .error error ∧ error.status? = some response.status := by
  rcases classify_cases response with
    ⟨refusal, status, classified⟩ | ⟨-, ⟨-, classified⟩ | ⟨success, -⟩⟩
  · exact ⟨_, classified, congrArg some status.symm⟩
  · exact ⟨_, classified, rfl⟩
  · exact absurd failure (Nat.not_le.mpr success)

/-! ## Deliveries -/

/-- What an agent makes of a delivery, and what the classification then makes of a failure. -/
structure Agent.Conveys (agent : Agent) (delivery : Delivery) : Prop where
  /-- A failure keeps its status, whatever its body is and whether it can be read or not. -/
  failure :
    400 ≤ delivery.status →
      ∃ headers text, agent.receive delivery = .ok ⟨delivery.status, headers, text⟩
  /-- So every request that is answered with it fails with that status. -/
  classified :
    400 ≤ delivery.status →
      ∀ {σ : Type} (serve : Http.Request → σ → Delivery × σ) request arriving state,
        Agent.send? request = some arriving →
          (serve arriving state).1 = delivery →
            ∃ error,
              ((agent.transport serve).send request state).1 = .error error ∧
                error.status? = some delivery.status ∧
                (∀ message, error ≠ .transport message) ∧
                ∀ message, error ≠ .unreadableResponse message
  /-- A failure that is not reported alone keeps its body, if that is the bytes of a text. -/
  failureText :
    400 ≤ delivery.status →
      agent.reportsFailuresAlone = false →
        ∀ text,
          agent.read delivery = .ok (Utf8.encode text) →
            ∃ headers, agent.receive delivery = .ok ⟨delivery.status, headers, text⟩
  /-- Without a failure, the bytes of a text are handed over as the text. -/
  text :
    delivery.status < 400 →
      ∀ text,
        agent.read delivery = .ok (Utf8.encode text) →
          ∃ headers, agent.receive delivery = .ok ⟨delivery.status, headers, text⟩
  /-- All other bytes are not handed over. -/
  noText :
    delivery.status < 400 →
      ∀ octets,
        agent.read delivery = .ok octets →
          (∀ text, Utf8.encode text ≠ octets) →
            ∃ message, agent.receive delivery = .error (.unreadableResponse message)
  /-- Neither is a body that could not be read. -/
  unread :
    delivery.status < 400 →
      ∀ reason,
        agent.read delivery = .error reason →
          agent.receive delivery = .error (.transport reason)

/-- Whoever sends a request that is answered with a failure gets an error with its status. -/
theorem Agent.exists_send_of_failure
    {σ : Type}
    {delivery : Delivery}
    {serve : Http.Request → σ → Delivery × σ}
    {request arriving : Http.Request}
    {state : σ}
    (agent : Agent)
    (failure : 400 ≤ delivery.status)
    (sent : Agent.send? request = some arriving)
    (answered : (serve arriving state).1 = delivery) :
    ∃ error,
      ((agent.transport serve).send request state).1 = .error error ∧
        error.status? = some delivery.status := by
  obtain ⟨headers, text, received⟩ := agent.exists_receive_of_failure failure
  obtain ⟨error, classified, status⟩ :=
    exists_classify_of_failure ⟨delivery.status, headers, text⟩ failure
  refine ⟨error, ?_, status⟩
  unfold Transport.send Agent.transport
  dsimp only
  rw [sent]
  dsimp only
  rw [answered, received]
  exact classified

/--
Every agent conveys everything that a server sends back: the statuses of failures whatever came
with them, and bodies unchanged or not at all.
-/
theorem responses_are_conveyed
    (agent : Agent)
    (delivery : Delivery) :
    agent.Conveys delivery := by
  refine ⟨agent.exists_receive_of_failure, ?classified, ?failureText, ?text, ?noText, ?unread⟩
  case classified =>
    intro failure σ serve request arriving state sent answered
    obtain ⟨error, isError, status⟩ := agent.exists_send_of_failure failure sent answered
    refine ⟨error, isError, status, ?_, ?_⟩ <;> rintro message rfl <;> cases status
  case failureText =>
    intro _ notAlone text isRead
    rw [Agent.receive_eq (by simp [notAlone]), isRead, bodyText_encode]
    exact ⟨_, rfl⟩
  case text =>
    intro success text isRead
    rw [Agent.receive_of_success success, isRead, bodyText_encode]
    exact ⟨_, rfl⟩
  case noText =>
    intro success octets isRead noText
    obtain ⟨message, isUnreadable⟩ := exists_bodyText_of_noText success noText
    rw [Agent.receive_of_success success, isRead, isUnreadable]
    exact ⟨message, rfl⟩
  case unread =>
    intro success reason isRead
    rw [Agent.receive_of_success success, isRead, bodyText_of_error success]
    rfl

/--
A failure whose body is cut short and a success whose body is no text, as an agent conveys them that
reports failures with their bodies.
-/
theorem responses_are_conveyed_defective :
    let cutShort : Delivery := ⟨502, [], [0xFF, 0xFE, 0x78], some 9⟩
    let noText : Delivery := ⟨200, [], [0xFF, 0xFE, 0x78], none⟩
    let request : Http.Request := ⟨.get, "http://localhost:4444/admin/me", [], none⟩
    let serve : Http.Request → Unit → Delivery × Unit := fun _ _ => (cutShort, ())
    let agent : Agent := {}
    400 ≤ cutShort.status ∧
      (∃ arriving, Agent.send? request = some arriving) ∧
      (∀ octets, cutShort.content ≠ .ok octets) ∧
      (∃ error,
        ((agent.transport serve).send request ()).1 = .error error ∧
          error.status? = some 502 ∧
          (∀ message, error ≠ .transport message) ∧
          ∀ message, error ≠ .unreadableResponse message) ∧
      agent.read noText = .ok [0xFF, 0xFE, 0x78] ∧
      ∃ message, agent.receive noText = .error (.unreadableResponse message) := by
  intro cutShort noText request serve agent
  have conveys := responses_are_conveyed agent cutShort
  have failure : 400 ≤ cutShort.status := by decide
  have sent : Agent.send? request = some ⟨.get, "/admin/me", [], none⟩ := by decide +kernel
  have unread : ∀ octets, cutShort.content ≠ .ok octets := by
    intro octets isRead
    exact absurd ((Delivery.content_eq_ok_iff.mp isRead).1 rfl).2 (by decide)
  have isRead : agent.read noText = .ok [0xFF, 0xFE, 0x78] := by decide
  have isNoText : ∀ text, Utf8.encode text ≠ [0xFF, 0xFE, 0x78] :=
    Utf8.exists_decode_eq_error_iff.mp ⟨⟨0, some 1⟩, by decide⟩
  exact ⟨failure, ⟨_, sent⟩, unread, conveys.classified failure serve request _ () sent rfl, isRead,
    (responses_are_conveyed agent noText).noText (by decide) _ isRead isNoText⟩

end SecretsAdmin.Client
