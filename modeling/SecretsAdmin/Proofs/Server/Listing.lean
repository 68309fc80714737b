import SecretsAdmin.Proofs.Model.View
import SecretsAdmin.Proofs.Server.Objects
import SecretsAdmin.Proofs.Server.Sessions

namespace SecretsAdmin.Server

/-!
# Listings and histories

A listing has what the history created and did not delete since, in the order of creation. What
was created is told by the requests and the responses alone: the response has the identifier, and
the request all else but the user, whose session began with an earlier login.
-/

open Model (Kind)

/-! ## Entries -/

/-- An object as clients of the server see it. -/
inductive Entry where
  | client (client : Model.Client)
  | group (group : Model.Group)
  | secret (secret : Model.Secret)
  deriving DecidableEq

namespace Entry

/-- The kind and the identifier of an entry. -/
def key : Entry → Kind × Int64
  | .client seen => (.client, seen.id.number)
  | .group seen => (.group, seen.id.number)
  | .secret seen => (.secret, seen.id.number)

/-- The kind of an entry. -/
def kind (entry : Entry) : Kind :=
  entry.key.1

end Entry

namespace Object

/-- A stored object as clients of the server see it. -/
def seen : Object → Entry
  | .client stored => .client stored.seen
  | .group stored => .group stored.seen
  | .secret stored => .secret stored.seen

theorem key_seen (object : Object) : object.seen.key = object.key := by
  cases object <;> rfl

theorem kind_seen (object : Object) : object.seen.kind = object.kind := by
  cases object <;> rfl

end Object

/-! ## What exchanges create and delete -/

namespace Exchange

/-- What a client reads from the body of a response. -/
def read?
    {α : Type}
    (exchange : Exchange)
    (codec : Json.Codec α) :
    Option α :=
  (codec.parse (Utf8.encode exchange.response.body)).toOption

/-- The identifier with which a creation is answered. -/
def createdId? (exchange : Exchange) : Command → Option Int64
  | .createClient _ => (exchange.read? Model.ClientDetail.codec).map (·.id.number)
  | .createGroup _ => (exchange.read? Model.GroupDetail.codec).map (·.id.number)
  | .createSecret _ => (exchange.read? Model.SecretDetail.codec).map (·.id.number)
  | _ => none

/--
What a user creates by an exchange: the object that the request describes, with the identifier of
the response, or the secrets that a generator is answered with.
-/
def created
    (exchange : Exchange)
    (user : String) :
    List Entry :=
  match exchange.request.command?, exchange.response.status with
  | some (.generate _ _), 200 =>
      ((exchange.read? Model.Secret.codec.array).getD []).map .secret
  | some command, 201 =>
      (((exchange.createdId? command).bind (command.object? user)).map Object.seen).toList
  | _, _ => []

/-- The kind and the identifier of what an exchange deletes. -/
def deleted? (exchange : Exchange) : Option (Kind × Int64) :=
  if exchange.response.status = 204 then exchange.request.command?.bind Command.target? else none

/-- Whether an exchange asks for a batch of secrets, and fails. -/
def FailsBatch (exchange : Exchange) : Prop :=
  exchange.request.method = "POST" ∧
    (∃ name, Route.ofPath? exchange.request.path = some (.administration (.batch name))) ∧
    400 ≤ exchange.response.status

/-- The entries of a kind that a response lists. -/
def listed? (exchange : Exchange) : Kind → Option (List Entry)
  | .client => (exchange.read? Model.Client.codec.array).map (List.map .client)
  | .group => (exchange.read? Model.Group.codec.array).map (List.map .group)
  | .secret => (exchange.read? Model.Secret.codec.array).map (List.map .secret)

end Exchange

/-- The command to list all objects of a kind. -/
def Command.list : Kind → Command
  | .client => .listClients
  | .group => .listGroups
  | .secret => .listSecrets

namespace History

/-- What an exchange creates that comes after a history. -/
def created
    (earlier : History)
    (exchange : Exchange) :
    List Entry :=
  ((earlier.user? exchange.request).map exchange.created).getD []

/-- What later exchanges than those of a history create, and no one after them deletes. -/
def standingAfter (earlier : History) : History → List Entry
  | [] => []
  | exchange :: later =>
      ((earlier.created exchange).filter fun entry =>
          ∀ other ∈ later, other.deleted? ≠ some entry.key) ++
        standingAfter (earlier ++ [exchange]) later

/-- What a history created and did not delete since, in the order of creation. -/
def standing (history : History) : List Entry :=
  standingAfter [] history

theorem standingAfter_concat
    (earlier history : History)
    (last : Exchange) :
    standingAfter earlier (history ++ [last]) =
      (standingAfter earlier history).filter (fun entry => last.deleted? ≠ some entry.key) ++
        History.created (earlier ++ history) last := by
  induction history generalizing earlier with
  | nil => simp [standingAfter]
  | cons first rest inductionHypothesis =>
      rw [List.cons_append, standingAfter, standingAfter, inductionHypothesis, List.filter_append,
        List.filter_filter, List.append_assoc, List.append_assoc, List.singleton_append]
      refine congrArg (· ++ _) (List.filter_congr fun entry _ => ?_)
      simp [and_comm, or_imp, forall_and]

/-- One more exchange deletes one entry or none, and what it creates comes last. -/
theorem standing_concat
    (history : History)
    (last : Exchange) :
    History.standing (history ++ [last]) =
      history.standing.filter (fun entry => last.deleted? ≠ some entry.key) ++
        history.created last :=
  standingAfter_concat [] history last

end History

/-- A client reads the value of a response, as clients see it. -/
theorem Exchange.read?_documentResponse
    {α β : Type}
    {reader : Json.Codec β}
    {writer : Json.Codec α}
    {view : α → β}
    (sees : reader.Sees writer view)
    (request : Request)
    (status : Nat)
    (value : α) :
    Exchange.read? ⟨request, documentResponse status (writer.write value)⟩ reader =
      some (view value) := by
  unfold Exchange.read? documentResponse Json.Codec.parse
  dsimp only
  rw [(sees value).parse]
  rfl

namespace Exchange

variable {request : Request} {response : Http.Response} {command : Command} {user : String}

/-- With another status than those of creations, and without a command, nothing is created. -/
theorem created_of_idle
    (idle :
      response.status ≠ 200 ∧ response.status ≠ 201 ∨ request.command? = none)
    (user : String) :
    created ⟨request, response⟩ user = [] := by
  unfold created
  split
  next asked isOk =>
    rcases idle with notCreated | noCommand
    · exact absurd isOk notCreated.1
    · cases noCommand.symm.trans asked
  next asked isCreated =>
    rcases idle with notCreated | noCommand
    · exact absurd isCreated notCreated.2
    · cases noCommand.symm.trans asked
  next => rfl

/-- A command that neither creates an object nor asks a generator creates nothing. -/
theorem created_of_createsNone
    (asked : request.command? = some command)
    (createsNone : ∀ id, command.object? user id = none)
    (notGenerator : ∀ generator parameters, command ≠ .generate generator parameters) :
    created ⟨request, response⟩ user = [] := by
  unfold created
  split
  next isAsked _ =>
    have same := Option.some.inj (asked.symm.trans isAsked)
    exact absurd same (notGenerator _ _)
  next isAsked _ =>
    obtain rfl := Option.some.inj (asked.symm.trans isAsked)
    cases createdId? ⟨request, response⟩ command with
    | none => rfl
    | some id =>
        rw [Option.bind_some, createsNone]
        rfl
  next => rfl

/-- Where an object is created, it is the one that the request and the response describe. -/
theorem created_of_creates
    {id : Int64}
    {object : Object}
    (asked : request.command? = some command)
    (creates : command.object? user id = some object) :
    created ⟨request, documentResponse 201 object.alone⟩ user = [object.seen] := by
  have isId : createdId? ⟨request, documentResponse 201 object.alone⟩ command = some id := by
    cases command with
    | createClient input =>
        cases creates
        rw [createdId?, Object.alone, read?_documentResponse sees_clientDetail]
        rfl
    | createGroup input =>
        cases creates
        rw [createdId?, Object.alone, read?_documentResponse sees_groupDetail]
        rfl
    | createSecret input =>
        cases creates
        rw [createdId?, Object.alone, read?_documentResponse sees_secretDetail]
        rfl
    | _ => cases creates
  unfold created
  split
  next isOk => cases isOk
  next isAsked _ =>
    obtain rfl := Option.some.inj (asked.symm.trans isAsked)
    rw [isId, Option.bind_some, creates]
    rfl
  next _ other => exact (other command asked rfl).elim

/-- Where a generator answers, what is created is what it answers with. -/
theorem created_of_generated
    {generator : String}
    {parameters : List Json}
    (asked : request.command? = some (.generate generator parameters))
    (secrets : List Secret)
    (user : String) :
    created ⟨request, documentResponse 200 (Secret.codec.array.write secrets)⟩ user =
      (secrets.map Object.secret).map Object.seen := by
  unfold created
  split
  next =>
    rw [read?_documentResponse sees_secret.array, Option.getD_some, List.map_map, List.map_map]
    rfl
  next isCreated => cases isCreated
  next other _ => exact (other generator parameters asked rfl).elim

end Exchange

namespace Store

/-! ## What passes is what the exchange tells -/

section Passes

variable {store after : Store} {request : Request} {response : Http.Response}
variable {gone : Option (Kind × Int64)} {born : List Object}

/-- What goes is what the exchange deletes. -/
theorem Passes.deleted?_eq
    (passes : store.Passes request after response gone born) :
    Exchange.deleted? ⟨request, response⟩ = gone := by
  unfold Exchange.deleted?
  cases passes with
  | nothing idle =>
      have notRemoved : response.status ≠ 204 := by omega
      rw [if_neg notRemoved]
  | obeyed known asked executed outcome =>
      dsimp only
      rw [asked, Option.bind_some, Answer.status_responseTo]
      cases outcome with
      | denied _ denial => exact if_neg (by cases denial <;> decide)
      | told _ deletesNone => rw [deletesNone, ite_self]
      | deleted _ target => rw [target]; rfl
      | created creates => rw [(Command.posted_of_creates creates).2, ite_self]
      | generated | brokenOff => exact ite_self _

/-- A generator breaks off behind some secrets only in a batch. -/
theorem secrets_eq_nil_of_brokenOff
    {user generator : String}
    {parameters : List Json}
    {inputs : List TemplateInput}
    {secrets : List Secret}
    (asked : request.command? = some (.generate generator parameters))
    (fewer : inputs.length < parameters.length)
    (generates : Generates user store inputs secrets after)
    (failure : 400 ≤ response.status)
    (noBatch : ¬Exchange.FailsBatch ⟨request, response⟩) :
    secrets = [] := by
  obtain ⟨resource, read, route, reader, isRead⟩ := request.reader_of_command? asked
  obtain ⟨method, parameter, rfl | rfl, -⟩ := Resource.method_and_isAt reader isRead
  · rw [method] at reader
    obtain rfl : CommandReader.ofParameters parameter = read := Option.some.inj reader
    obtain ⟨_, _, -, -, same⟩ := CommandReader.ofParameters_eq_ok_iff.mp isRead
    cases same
    cases generates with
    | done => rfl
    | next => simp at fewer
  · refine absurd ⟨?_, ⟨parameter, route⟩, failure⟩ noBatch
    have isPost : (if request.method = "HEAD" then "GET" else request.method) = "POST" := method
    rwa [if_neg (Request.notHead_of_post asked rfl)] at isPost

/--
What comes is what the exchange creates. Only a batch that fails creates nothing in the eyes of who
asked for it, and may leave secrets behind.
-/
theorem Passes.created_cases
    {user : String}
    (passes : store.Passes request after response gone born)
    (known : store.user? request = some user) :
    Exchange.created ⟨request, response⟩ user = born.map Object.seen ∨
      Exchange.FailsBatch ⟨request, response⟩ ∧
        Exchange.created ⟨request, response⟩ user = [] ∧
        ∀ object ∈ born, object.kind = .secret := by
  cases passes with
  | nothing idle =>
      refine .inl (Exchange.created_of_idle (idle.imp (fun failure => ?_) And.left) user)
      omega
  | @obeyed other command answer _ _ isKnown asked executed outcome =>
      obtain rfl := Option.some.inj (known.symm.trans isKnown)
      have idle (isOther : answer.response.status ≠ 200 ∧ answer.response.status ≠ 201) :
          Exchange.created ⟨request, answer.responseTo request⟩ user = [] := by
        refine Exchange.created_of_idle (.inl ?_) user
        rwa [Answer.status_responseTo]
      cases outcome with
      | denied _ denial => exact .inl (idle (by cases denial <;> decide))
      | told _ _ createsNone notGenerator =>
          exact .inl (Exchange.created_of_createsNone asked createsNone notGenerator)
      | deleted => exact .inl (idle (by decide))
      | created creates =>
          rw [Answer.responseTo_of_post _ asked (Command.posted_of_creates creates).1]
          exact .inl (Exchange.created_of_creates asked creates)
      | generated =>
          rw [Answer.responseTo_of_post _ asked rfl]
          exact .inl (Exchange.created_of_generated asked _ user)
      | @brokenOff _ _ _ secrets _ denial fewer generates =>
          have noneCreated := idle (by cases denial <;> decide)
          by_cases failsBatch :
              Exchange.FailsBatch ⟨request, (Answer.denied denial).responseTo request⟩
          · refine .inr ⟨failsBatch, noneCreated, fun object member => ?_⟩
            obtain ⟨secret, -, rfl⟩ := List.mem_map.mp member
            rfl
          · have failure := denial.failure
            have none :=
              secrets_eq_nil_of_brokenOff asked fewer generates (by rwa [Answer.status_responseTo])
                failsBatch
            rw [none]
            exact .inl noneCreated

/-- The objects of a kind change by what the exchange deletes and creates, and by nothing else. -/
theorem Passes.map_seen
    (passes : store.Passes request after response gone born)
    (turns : store.Turns gone born after)
    {kind : Kind}
    (whole : kind = .secret → ¬Exchange.FailsBatch ⟨request, response⟩) :
    (after.objectsOf kind).map Object.seen =
      ((store.objectsOf kind).map Object.seen).filter
          (fun entry => Exchange.deleted? ⟨request, response⟩ ≠ some entry.key) ++
        (((store.user? request).map (Exchange.created ⟨request, response⟩)).getD []).filter
          fun entry => entry.kind = kind := by
  rw [turns.objectsOf, List.map_append, passes.deleted?_eq, List.filter_map]
  refine congrArg₂ (· ++ ·) ?stays ?comes
  case stays =>
    refine congrArg (List.map _) (List.filter_congr fun object _ => ?_)
    rw [Function.comp_apply, Object.key_seen]
  case comes =>
    have isKind : (fun entry : Entry => decide (entry.kind = kind)) ∘ Object.seen =
        fun object => decide (object.kind = kind) := by
      funext object
      rw [Function.comp_apply, Object.kind_seen]
    cases known : store.user? request with
    | none =>
        cases passes with
        | nothing => rfl
        | obeyed isKnown => cases known.symm.trans isKnown
    | some user =>
        rw [Option.map_some, Option.getD_some]
        rcases passes.created_cases known with created | ⟨failsBatch, created, areSecrets⟩
        · rw [created, List.filter_map, isKind]
        · have isOther : kind ≠ .secret := fun isSecret => whole isSecret failsBatch
          have none : (born.filter fun object => object.kind = kind) = [] :=
            List.filter_eq_nil_iff.mpr fun object member => by
              simpa [areSecrets object member] using isOther.symm
          rw [created, none]
          rfl

end Passes

/-! ## Runs -/

/-- What a run leaves of a kind is what its history created and did not delete since. -/
theorem run_standing
    {arrivals : List Arrival}
    {kind : Kind}
    (few : fresh.issued arrivals < 2 ^ 63)
    (whole : kind = .secret → ∀ exchange ∈ (fresh.run arrivals).1, ¬exchange.FailsBatch) :
    ((fresh.run arrivals).2.objectsOf kind).map Object.seen =
      (fresh.run arrivals).1.standing.filter fun entry => entry.kind = kind := by
  induction arrivals using List.reverseRecOn with
  | nil => cases kind <;> rfl
  | append_singleton earlier last inductionHypothesis =>
      have fewer := issued_lt_of_append few
      obtain ⟨gone, born, passes, turns⟩ := run_turns few
      rw [run_concat] at whole ⊢
      dsimp only at whole ⊢
      have wholeLast := fun isSecret => whole isSecret _ (List.mem_append_right _ List.mem_cons_self)
      have wholeEarlier := fun isSecret exchange member =>
        whole isSecret exchange (List.mem_append_left _ member)
      rw [passes.map_seen turns wholeLast, inductionHypothesis fewer wholeEarlier,
        History.standing_concat, List.filter_append, List.filter_comm, run_user?]
      rfl

/-- A list of stored values is read as what clients see of them. -/
theorem read?_list
    {α β : Type}
    {reader : Json.Codec β}
    {writer : Json.Codec α}
    {view : α → β}
    {store : α → Object}
    {entry : β → Entry}
    (sees : reader.Sees writer view)
    (same : ∀ value, (store value).seen = entry (view value))
    (request : Request)
    (values : List α) :
    (Exchange.read? ⟨request, documentResponse 200 (writer.array.write values)⟩
        reader.array).map (List.map entry) =
      some ((values.map store).map Object.seen) := by
  rw [Exchange.read?_documentResponse sees.array, Option.map_some, List.map_map, List.map_map]
  exact congrArg some (List.map_congr_left fun value _ => (same value).symm)

/-- A listing is read as the objects of its kind. -/
theorem listed?_of_list
    {store : Store}
    {token user : String}
    {request : Request}
    {kind : Kind}
    (known : store.user? request = some user)
    (asked : request.command? = some (.list kind))
    (notHead : request.method ≠ "HEAD") :
    (store.serve token request).1.status = 200 ∧
      Exchange.listed? ⟨request, (store.serve token request).1⟩ kind =
        some ((store.objectsOf kind).map Object.seen) := by
  cases kind with
  | client =>
      have tells : store.Tells .listClients (Client.codec.array.write store.clients.values) :=
        tells_of_execute fun _ => rfl
      rw [tells known asked notHead]
      exact ⟨rfl, read?_list sees_client (fun _ => rfl) request _⟩
  | group =>
      have tells : store.Tells .listGroups (Group.codec.array.write store.groups.values) :=
        tells_of_execute fun _ => rfl
      rw [tells known asked notHead]
      exact ⟨rfl, read?_list sees_group (fun _ => rfl) request _⟩
  | secret =>
      have tells : store.Tells .listSecrets (Secret.codec.array.write store.secrets.values) :=
        tells_of_execute fun _ => rfl
      rw [tells known asked notHead]
      exact ⟨rfl, read?_list sees_secret (fun _ => rfl) request _⟩

/--
After a run that gives fewer than 2^63 identifiers, a listing has exactly what the history created
and did not delete since, in the order of creation; a listing of secrets, if no batch failed. And
whatever request comes next, the objects of a kind change by what it deletes and creates, and by
nothing else.
-/
theorem listings_follow_history
    {arrivals : List Arrival}
    (few : fresh.issued arrivals < 2 ^ 63) :
    (∀ kind,
      (kind = .secret → ∀ exchange ∈ (fresh.run arrivals).1, ¬exchange.FailsBatch) →
        ∀ token request user,
          (fresh.run arrivals).2.user? request = some user →
            request.command? = some (.list kind) →
              request.method ≠ "HEAD" →
                let response := ((fresh.run arrivals).2.serve token request).1
                response.status = 200 ∧
                  Exchange.listed? ⟨request, response⟩ kind =
                    some ((fresh.run arrivals).1.standing.filter fun entry => entry.kind = kind)) ∧
      ∀ next kind,
        fresh.issued (arrivals ++ [next]) < 2 ^ 63 →
          let store := (fresh.run arrivals).2
          let after := (store.serve next.token next.request).2
          let exchange : Exchange := ⟨next.request, (store.serve next.token next.request).1⟩
          (kind = .secret → ¬exchange.FailsBatch) →
            (after.objectsOf kind).map Object.seen =
              ((store.objectsOf kind).map Object.seen).filter
                  (fun entry => exchange.deleted? ≠ some entry.key) ++
                ((fresh.run arrivals).1.created exchange).filter fun entry => entry.kind = kind := by
  refine ⟨?listing, ?next⟩
  case listing =>
    intro kind whole token request user known asked notHead
    rw [← run_standing few whole]
    exact listed?_of_list known asked notHead
  case next =>
    intro next kind room store after exchange whole
    obtain ⟨gone, born, passes, turns⟩ := run_turns room
    rw [History.created, ← run_user?]
    exact passes.map_seen turns whole

/-- A secret with a version is created, one is generated, and the first one is deleted. -/
private def exchanges : List Arrival := [
  .login "t",
  ⟨"", .posting "/admin/secrets" "t"
    "\x7b\"name\":\"s\",\"content\":\"YQ==\",\"withVersion\":true\x7d"⟩,
  ⟨"", .posting "/admin/secrets/generators/templated" "t" "\x7b\"name\":\"a\"\x7d"⟩,
  ⟨"", { Request.posting "/admin/secrets/1" "t" "" with method := "DELETE" }⟩]

/-- The secret that was generated is listed. -/
theorem listings_follow_history_secrets :
    let request : Request := { Request.posting "/admin/secrets" "t" "" with method := "GET" }
    let secret : Model.Secret := {
      id := ⟨2⟩
      name := "a"
      description := some ""
      createdBy := some "keywhizAdmin" }
    fresh.issued exchanges = 2 ∧
      Exchange.listed? ⟨request, ((fresh.run exchanges).2.serve "" request).1⟩ .secret =
        some [.secret secret] := by
  intro request secret
  have computed :
      fresh.issued exchanges = 2 ∧
        (fresh.run exchanges).1.all (fun exchange => exchange.response.status < 400) = true ∧
        (fresh.run exchanges).1.standing.filter (fun entry => entry.kind = .secret) =
          [.secret secret] ∧
        (fresh.run exchanges).2.user? request = some "keywhizAdmin" := by
    decide +kernel
  obtain ⟨issued, succeeded, standing, known⟩ := computed
  have few : fresh.issued exchanges < 2 ^ 63 := by
    rw [issued]
    decide
  have whole : ∀ exchange ∈ (fresh.run exchanges).1, ¬exchange.FailsBatch := by
    intro exchange member failsBatch
    have status := of_decide_eq_true (List.all_eq_true.mp succeeded exchange member)
    have failure := failsBatch.2.2
    omega
  have asked : request.command? = some (.list .secret) := by
    have route : Route.ofPath? request.path = some (.administration .secrets) := by decide +kernel
    have noName : readNameAndVersion request = .ok (none, none) := by decide +kernel
    refine Request.command?_of_reader route rfl ?_
    rw [CommandReader.ofVersion, noName]
    rfl
  have listing := (listings_follow_history few).1 .secret (fun _ => whole) "" request
    "keywhizAdmin" known asked (by decide)
  rw [standing] at listing
  exact ⟨issued, listing.2⟩

end Store

end SecretsAdmin.Server
