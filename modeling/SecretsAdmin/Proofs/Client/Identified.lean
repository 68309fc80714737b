import SecretsAdmin.Proofs.Client.Lookup
import SecretsAdmin.Proofs.Server.Frame

namespace SecretsAdmin.Client

/-!
# Objects by their identifiers

A client that names objects by their identifiers reaches those objects and no others, whatever the
numbers are. If one of them is not there, the client is told so, and nothing has changed.
-/

open Model
open Server (Loopback)

/-! ## Calls with identifiers -/

section IsAt

/-- A deletion is sent to the place of the group, without a body. -/
theorem isAt_deleteGroup (id : GroupId) :
    (deleteGroup id).IsAt (.group ⟨"id", id.text⟩) none where
  noComplaint := rfl
  leads := (isAt_groupDetails id).leads
  noQuery := rfl
  noCookies := rfl
  written := rfl

/-- A deletion is sent to the place of the client, without a body. -/
theorem isAt_deleteClient (id : ClientId) :
    (deleteClient id).IsAt (.client ⟨"id", id.text⟩) none where
  noComplaint := rfl
  leads := (isAt_clientDetails id).leads
  noQuery := rfl
  noCookies := rfl
  written := rfl

/-- A deletion is sent to the place of the secret, without a body. -/
theorem isAt_deleteSecret (id : SecretId) :
    (deleteSecret id).IsAt (.secret ⟨"id", id.text⟩) none where
  noComplaint := rfl
  leads := (isAt_secretDetails id).leads
  noQuery := rfl
  noCookies := rfl
  written := rfl

variable (client : ClientId) (secret : SecretId) (group : GroupId)

/-- The identifiers of a client and a group lead to the membership of that client in that group. -/
private theorem leads_clientMembership :
    ∃ segments,
      clientMembership client group = "admin" :: segments ∧
        (∀ segment ∈ segments, Url.IsPlain segment) ∧
        Server.Resource.ofSegments? segments =
          some (.clientMembership ⟨"client_id", client.text⟩ ⟨"group_id", group.text⟩) := by
  refine ⟨["memberships", "clients", client.text, "groups", group.text], rfl, ?_, ?_⟩
  · exact Server.plain_membership (by decide) client group
  · simp [Server.Resource.ofSegments?, Server.Resource.ending, Server.text_ne_empty group]

/-- The identifiers of a secret and a group lead to the membership of that secret in that group. -/
private theorem leads_secretMembership :
    ∃ segments,
      secretMembership secret group = "admin" :: segments ∧
        (∀ segment ∈ segments, Url.IsPlain segment) ∧
        Server.Resource.ofSegments? segments =
          some (.secretMembership ⟨"secret_id", secret.text⟩ ⟨"group_id", group.text⟩) := by
  refine ⟨["memberships", "secrets", secret.text, "groups", group.text], rfl, ?_, ?_⟩
  · exact Server.plain_membership (by decide) secret group
  · simp [Server.Resource.ofSegments?, Server.Resource.ending, Server.text_ne_empty group]

/-- A client is enrolled at the place of its membership, with an empty body. -/
theorem isAt_enrollClient :
    (enrollClient client group).IsAt
      (.clientMembership ⟨"client_id", client.text⟩ ⟨"group_id", group.text⟩) (some "") where
  noComplaint := rfl
  leads := leads_clientMembership client group
  noQuery := rfl
  noCookies := rfl
  written := rfl

/-- A client is evicted at the place of its membership, without a body. -/
theorem isAt_evictClient :
    (evictClient client group).IsAt
      (.clientMembership ⟨"client_id", client.text⟩ ⟨"group_id", group.text⟩) none where
  noComplaint := rfl
  leads := leads_clientMembership client group
  noQuery := rfl
  noCookies := rfl
  written := rfl

/-- A secret is granted at the place of its membership, with an empty body. -/
theorem isAt_grantSecret :
    (grantSecret secret group).IsAt
      (.secretMembership ⟨"secret_id", secret.text⟩ ⟨"group_id", group.text⟩) (some "") where
  noComplaint := rfl
  leads := leads_secretMembership secret group
  noQuery := rfl
  noCookies := rfl
  written := rfl

/-- A secret is revoked at the place of its membership, without a body. -/
theorem isAt_revokeSecret :
    (revokeSecret secret group).IsAt
      (.secretMembership ⟨"secret_id", secret.text⟩ ⟨"group_id", group.text⟩) none where
  noComplaint := rfl
  leads := leads_secretMembership secret group
  noQuery := rfl
  noCookies := rfl
  written := rfl

end IsAt

/-! ## How calls with identifiers end -/

/-- Whether a call over a loopback shows the detail of an object, if it is there. -/
structure Outcome.Shows
    {Detail : Type}
    (outcome : Outcome Loopback Detail)
    (store : Server.Store)
    (named : Kind × Int64)
    (detail : Option Detail) :
    Prop where
  shown : store.HasAll [named] → ∃ value, detail = some value ∧ outcome.result = .ok value
  missing :
    ¬store.HasAll [named] →
      detail = none ∧ outcome.result = .error (.refused .notFound)
  unchanged : outcome.state.store = store

/--
Whether a call over a loopback has the server make a change: the call succeeds and the change is
made if all objects that it names are there, and otherwise they are not found and nothing changes.
-/
structure Outcome.Makes
    (outcome : Outcome Loopback Unit)
    (store : Server.Store)
    (named : List (Kind × Int64))
    (change : Except Server.Denial Server.Store)
    (IsChange : Server.Store → Prop) :
    Prop where
  done :
    store.HasAll named →
      outcome.result = .ok () ∧
        change = .ok outcome.state.store ∧
        IsChange outcome.state.store
  missing :
    ¬store.HasAll named →
      outcome.result = .error (.refused .notFound) ∧
        change = .error .notFound ∧
        outcome.state.store = store

section Exchange

variable {connection : Connection} {loopback : Loopback} {resource : Server.Resource}

/-- The change that a call asks for is made by the server, if it can be made. -/
theorem Call.IsAt.makes
    {call : Call Unit}
    {body : Option String}
    {read : Server.CommandReader}
    {command : Server.Command}
    {answer : Server.Answer}
    {named : List (Kind × Int64)}
    {change : Except Server.Denial Server.Store}
    {IsChange : Server.Store → Prop}
    (isAt : call.IsAt resource body)
    (live : connection.Live loopback.store)
    (isReader : resource.reader? call.task.method.word = some read)
    (isRead : ∀ request, read request = .ok command)
    (executed :
      ∀ user, loopback.store.execute user command = loopback.store.answerChanged answer change)
    (requires : loopback.store.Requires named change IsChange)
    (succeeds : call.result (classify answer.response) = .ok ())
    (noAnswer : call.onRefusal .notFound = none)
    (token : Nat → String) :
    (call.perform (Loopback.transport token) connection loopback).Makes loopback.store named
      change IsChange := by
  obtain ⟨user, performed⟩ := isAt.obeyed live isReader (fun _ _ => isRead _) token
  rw [performed, executed user]
  constructor
  case done =>
    intro hasAll
    obtain ⟨after, isChanged, isChange⟩ := requires.done hasAll
    rw [isChanged]
    exact ⟨succeeds, rfl, isChange⟩
  case missing =>
    intro notAll
    rw [requires.missing notAll]
    exact ⟨call.result_denied .notFound rfl noAnswer, rfl, rfl⟩

end Exchange

/-- What is told of the detail of an object is told exactly if the object is there. -/
theorem Outcome.Tells.shows
    {Detail : Type}
    {outcome : Outcome Loopback Detail}
    {store : Server.Store}
    {named : Kind × Int64}
    {detail : Option Detail}
    (tells : outcome.Tells detail store)
    (isSome_eq : detail.isSome = (store.object? named).isSome) :
    outcome.Shows store named detail where
  shown hasAll := by
    have isThere : (store.object? named).isSome := hasAll named List.mem_cons_self
    obtain ⟨value, isValue⟩ := Option.isSome_iff_exists.mp (isSome_eq.trans isThere)
    exact ⟨value, isValue, (tells.told_iff value).mpr isValue⟩
  missing notAll := by
    have isNone : detail = none := by
      simpa [← isSome_eq] using notAll
    exact ⟨isNone, tells.missing isNone⟩
  unchanged := tells.unchanged

/-! ## Calls with identifiers over a loopback -/

section Calls

variable {connection : Connection} {loopback : Loopback}
variable (live : connection.Live loopback.store) (token : Nat → String)
include live

/-- The detail of a group is shown as the server has it, for every identifier. -/
theorem groupDetails_shows (id : Int64) :
    ((groupDetails ⟨id⟩).perform (Loopback.transport token) connection loopback).Shows
      loopback.store (.group, id)
      ((loopback.store.groupDetail? id).map Server.GroupDetail.seen) := by
  apply (groupDetails_tells live id token).shows
  simp [Server.Store.groupDetail?, Server.Store.object?]

/-- The detail of a client is shown as the server has it, for every identifier. -/
theorem clientDetails_shows (id : Int64) :
    ((clientDetails ⟨id⟩).perform (Loopback.transport token) connection loopback).Shows
      loopback.store (.client, id)
      ((loopback.store.clientDetail? id).map Server.ClientDetail.seen) := by
  apply (clientDetails_tells live id token).shows
  simp [Server.Store.clientDetail?, Server.Store.object?]

/-- The detail of a secret is shown as the server has it, for every identifier. -/
theorem secretDetails_shows (id : Int64) :
    ((secretDetails ⟨id⟩).perform (Loopback.transport token) connection loopback).Shows
      loopback.store (.secret, id)
      ((loopback.store.secretDetail? id).map Server.SecretDetail.seen) := by
  apply (secretDetails_tells live id token).shows
  simp [Server.Store.secretDetail?, Server.Store.object?]

/-- The server loses the group that a client deletes, and nothing else. -/
theorem deleteGroup_makes (id : Int64) :
    ((deleteGroup ⟨id⟩).perform (Loopback.transport token) connection loopback).Makes
      loopback.store [(.group, id)] (loopback.store.deleteGroup id)
      (loopback.store.Loses (.group, id)) :=
  (isAt_deleteGroup ⟨id⟩).makes live rfl
    (Server.CommandReader.ofId_text .deleteGroup ⟨id⟩ "id") (fun _ => rfl)
    (loopback.store.requires_deleteGroup id) rfl rfl token

/-- The server loses the client that is deleted, and nothing else. -/
theorem deleteClient_makes (id : Int64) :
    ((deleteClient ⟨id⟩).perform (Loopback.transport token) connection loopback).Makes
      loopback.store [(.client, id)] (loopback.store.deleteClient id)
      (loopback.store.Loses (.client, id)) :=
  (isAt_deleteClient ⟨id⟩).makes live rfl
    (Server.CommandReader.ofId_text .deleteClient ⟨id⟩ "id") (fun _ => rfl)
    (loopback.store.requires_deleteClient id) rfl rfl token

/-- The server loses the secret that a client deletes, and nothing else. -/
theorem deleteSecret_makes (id : Int64) :
    ((deleteSecret ⟨id⟩).perform (Loopback.transport token) connection loopback).Makes
      loopback.store [(.secret, id)] (loopback.store.deleteSecret id)
      (loopback.store.Loses (.secret, id)) :=
  (isAt_deleteSecret ⟨id⟩).makes live rfl
    (Server.CommandReader.ofId_text .deleteSecret ⟨id⟩ "id") (fun _ => rfl)
    (loopback.store.requires_deleteSecret id) rfl rfl token

/-- The first identifier is that of the client, the second that of the group it enters. -/
theorem enrollClient_makes (client group : Int64) :
    ((enrollClient ⟨client⟩ ⟨group⟩).perform (Loopback.transport token) connection
        loopback).Makes
      loopback.store [(.client, client), (.group, group)]
      (loopback.store.enrollClient ⟨client, group⟩)
      (loopback.store.Relinks .client ⟨client, group⟩ true) :=
  (isAt_enrollClient ⟨client⟩ ⟨group⟩).makes live rfl
    (Server.CommandReader.ofLink_text .enrollClient ⟨client⟩ ⟨group⟩ "client_id" "group_id")
    (fun _ => rfl) (loopback.store.requires_enrollClient ⟨client, group⟩) rfl rfl token

/-- The first identifier is that of the client, the second that of the group it leaves. -/
theorem evictClient_makes (client group : Int64) :
    ((evictClient ⟨client⟩ ⟨group⟩).perform (Loopback.transport token) connection
        loopback).Makes
      loopback.store [(.client, client), (.group, group)]
      (loopback.store.evictClient ⟨client, group⟩)
      (loopback.store.Relinks .client ⟨client, group⟩ false) :=
  (isAt_evictClient ⟨client⟩ ⟨group⟩).makes live rfl
    (Server.CommandReader.ofLink_text .evictClient ⟨client⟩ ⟨group⟩ "client_id" "group_id")
    (fun _ => rfl) (loopback.store.requires_evictClient ⟨client, group⟩) rfl rfl token

/-- The first identifier is that of the secret, the second that of the group it enters. -/
theorem grantSecret_makes (secret group : Int64) :
    ((grantSecret ⟨secret⟩ ⟨group⟩).perform (Loopback.transport token) connection
        loopback).Makes
      loopback.store [(.secret, secret), (.group, group)]
      (loopback.store.grantSecret ⟨secret, group⟩)
      (loopback.store.Relinks .secret ⟨secret, group⟩ true) :=
  (isAt_grantSecret ⟨secret⟩ ⟨group⟩).makes live rfl
    (Server.CommandReader.ofLink_text .grantSecret ⟨secret⟩ ⟨group⟩ "secret_id" "group_id")
    (fun _ => rfl) (loopback.store.requires_grantSecret ⟨secret, group⟩) rfl rfl token

/-- The first identifier is that of the secret, the second that of the group it leaves. -/
theorem revokeSecret_makes (secret group : Int64) :
    ((revokeSecret ⟨secret⟩ ⟨group⟩).perform (Loopback.transport token) connection
        loopback).Makes
      loopback.store [(.secret, secret), (.group, group)]
      (loopback.store.revokeSecret ⟨secret, group⟩)
      (loopback.store.Relinks .secret ⟨secret, group⟩ false) :=
  (isAt_revokeSecret ⟨secret⟩ ⟨group⟩).makes live rfl
    (Server.CommandReader.ofLink_text .revokeSecret ⟨secret⟩ ⟨group⟩ "secret_id" "group_id")
    (fun _ => rfl) (loopback.store.requires_revokeSecret ⟨secret, group⟩) rfl rfl token

end Calls

/--
Whatever a server has in its store, a client with a live session there reaches by any identifiers
exactly the objects that have them. It is shown their details, deletes them with their memberships
and nothing else, and changes single memberships; and if one of the objects is not there, that is
the only thing that it is told.
-/
theorem identifiers_name_objects
    {address : String}
    {connection : Connection}
    {token : Nat → String}
    {loopback : Loopback}
    (established : Connection.establish address = .ok { base := connection.base })
    (loggedIn :
      (isLoggedIn.perform (Loopback.transport token) connection loopback).result = .ok true) :
    let store := loopback.store
    let transport := Loopback.transport token
    (∀ id,
      ((groupDetails ⟨id⟩).perform transport connection loopback).Shows store (.group, id)
        ((store.groupDetail? id).map Server.GroupDetail.seen)) ∧
      (∀ id,
        ((clientDetails ⟨id⟩).perform transport connection loopback).Shows store (.client, id)
          ((store.clientDetail? id).map Server.ClientDetail.seen)) ∧
      (∀ id,
        ((secretDetails ⟨id⟩).perform transport connection loopback).Shows store (.secret, id)
          ((store.secretDetail? id).map Server.SecretDetail.seen)) ∧
      (∀ id,
        ((deleteGroup ⟨id⟩).perform transport connection loopback).Makes store [(.group, id)]
          (store.deleteGroup id) (store.Loses (.group, id))) ∧
      (∀ id,
        ((deleteClient ⟨id⟩).perform transport connection loopback).Makes store [(.client, id)]
          (store.deleteClient id) (store.Loses (.client, id))) ∧
      (∀ id,
        ((deleteSecret ⟨id⟩).perform transport connection loopback).Makes store [(.secret, id)]
          (store.deleteSecret id) (store.Loses (.secret, id))) ∧
      (∀ client group,
        ((enrollClient ⟨client⟩ ⟨group⟩).perform transport connection loopback).Makes store
          [(.client, client), (.group, group)] (store.enrollClient ⟨client, group⟩)
          (store.Relinks .client ⟨client, group⟩ true)) ∧
      (∀ client group,
        ((evictClient ⟨client⟩ ⟨group⟩).perform transport connection loopback).Makes store
          [(.client, client), (.group, group)] (store.evictClient ⟨client, group⟩)
          (store.Relinks .client ⟨client, group⟩ false)) ∧
      (∀ secret group,
        ((grantSecret ⟨secret⟩ ⟨group⟩).perform transport connection loopback).Makes store
          [(.secret, secret), (.group, group)] (store.grantSecret ⟨secret, group⟩)
          (store.Relinks .secret ⟨secret, group⟩ true)) ∧
      ∀ secret group,
        ((revokeSecret ⟨secret⟩ ⟨group⟩).perform transport connection loopback).Makes store
          [(.secret, secret), (.group, group)] (store.revokeSecret ⟨secret, group⟩)
          (store.Relinks .secret ⟨secret, group⟩ false) := by
  have live := Connection.live_of_isLoggedIn established loggedIn
  exact ⟨groupDetails_shows live token, clientDetails_shows live token,
    secretDetails_shows live token, deleteGroup_makes live token, deleteClient_makes live token,
    deleteSecret_makes live token, enrollClient_makes live token, evictClient_makes live token,
    grantSecret_makes live token, revokeSecret_makes live token⟩

/-- The creation of a client and of a group, after a login. -/
private def partners : List Server.Arrival :=
  let posting (target : String) : Server.Arrival :=
    ⟨"", .posting target "k3y" "\x7b\"name\":\"n\",\"description\":\"\"\x7d"⟩
  [.login "k3y", posting "/admin/clients", posting "/admin/groups"]

/-- The client is enrolled in the group, not the other way round, and no least group is deleted. -/
theorem identifiers_name_objects_partners :
    let loopback : Loopback := ⟨(Server.Store.fresh.run partners).2, 3⟩
    let transport := Loopback.transport fun _ => ""
    let enrolled := (enrollClient ⟨1⟩ ⟨2⟩).perform transport afterLogin loopback
    let swapped := (enrollClient ⟨2⟩ ⟨1⟩).perform transport afterLogin loopback
    let deleted := (deleteGroup ⟨Int64.minValue⟩).perform transport afterLogin loopback
    enrolled.result = .ok () ∧
      loopback.store.Relinks .client ⟨1, 2⟩ true enrolled.state.store ∧
      swapped.result = .error (.refused .notFound) ∧
      deleted.result = .error (.refused .notFound) ∧
      deleted.state.store = loopback.store := by
  intro loopback transport enrolled swapped deleted
  have established :
      Connection.establish "http://localhost" = .ok { base := afterLogin.base } := by
    decide +kernel
  have loggedIn :
      (isLoggedIn.perform (Loopback.transport fun _ => "") afterLogin
        ⟨(Server.Store.fresh.run partners).2, 3⟩).result = .ok true := by
    decide +kernel
  obtain ⟨-, -, -, deletes, -, -, enrolls, -⟩ := identifiers_name_objects established loggedIn
  have areThere :
      (Server.Store.fresh.run partners).2.HasAll [(.client, 1), (.group, 2)] := by
    simp only [Server.Store.hasAll_cons, Server.Store.hasAll_nil, and_true]
    decide +kernel
  have noneSwapped :
      ¬(Server.Store.fresh.run partners).2.HasAll [(.client, 2), (.group, 1)] := by
    simp only [Server.Store.hasAll_cons, Server.Store.hasAll_nil, and_true]
    decide +kernel
  have noLeast :
      ¬(Server.Store.fresh.run partners).2.HasAll [(.group, Int64.minValue)] := by
    simp only [Server.Store.hasAll_cons, Server.Store.hasAll_nil, and_true]
    decide +kernel
  obtain ⟨isEnrolled, -, isLinked⟩ := (enrolls 1 2).done areThere
  obtain ⟨isUndeleted, -, isKept⟩ := (deletes Int64.minValue).missing noLeast
  exact ⟨isEnrolled, isLinked, ((enrolls 2 1).missing noneSwapped).1, isUndeleted, isKept⟩

end SecretsAdmin.Client
