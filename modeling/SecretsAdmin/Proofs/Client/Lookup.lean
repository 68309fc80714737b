import SecretsAdmin.Proofs.Client.Creation
import SecretsAdmin.Proofs.Server.Names

namespace SecretsAdmin

/-!
# Looking up by name

A client that asks for a name, whatever characters are in it, is told what the lists of all
groups, clients and secrets say of that name.
-/

/-! ## Queries that arrive -/

namespace Server

variable {request : Request} {name version : String}

/-- A name is read as it was put into a query. -/
theorem readName_encode (isQuery : request.query = Url.Form.encode [("name", name)]) :
    readName request = .ok name := by
  unfold readName readQuery
  rw [isQuery, Url.Form.decode_encode]
  rfl

/-- A name and a version are read as they were put into a query. -/
theorem readNameAndVersion_encode
    (isQuery : request.query = Url.Form.encode [("name", name), ("version", version)]) :
    readNameAndVersion request = .ok (some name, some version) := by
  unfold readNameAndVersion readQuery
  rw [isQuery, Url.Form.decode_encode]
  rfl

/-- Who asks for a name asks for that name and no other. -/
theorem CommandReader.ofName_encode
    (isQuery : request.query = Url.Form.encode [("name", name)])
    (make : String → Command) :
    CommandReader.ofName make request = .ok (make name) :=
  CommandReader.ofName_eq_ok_iff.mpr ⟨name, readName_encode isQuery, rfl⟩

/-- Who asks for a name and a version does not ask for all secrets. -/
theorem CommandReader.ofVersion_encode
    (isQuery : request.query = Url.Form.encode [("name", name), ("version", version)]) :
    CommandReader.ofVersion request = .ok (.findSecret name version) := by
  unfold CommandReader.ofVersion
  rw [readNameAndVersion_encode isQuery]
  rfl

end Server

namespace Client

open Model
open Server (Loopback)

/-! ## Calls with a query -/

section Asks

variable {name : String}

theorem asks_groupByName (named : name ≠ "") : (groupByName name).Asks .groups none where
  noComplaint := complainIfEmpty_eq_none named _
  leads := ⟨["groups"], rfl, by decide, rfl⟩
  noCookies := rfl
  written := rfl

theorem asks_clientByName (named : name ≠ "") : (clientByName name).Asks .clients none where
  noComplaint := complainIfEmpty_eq_none named _
  leads := ⟨["clients"], rfl, by decide, rfl⟩
  noCookies := rfl
  written := rfl

theorem asks_secretByNameAndVersion
    (named : name ≠ "")
    (version : String) :
    (secretByNameAndVersion name version).Asks .secrets none where
  noComplaint := complainIfEmpty_eq_none named _
  leads := ⟨["secrets"], rfl, by decide, rfl⟩
  noCookies := rfl
  written := rfl

theorem asks_versionsOfSecret (name : String) : (versionsOfSecret name).Asks .versions none where
  noComplaint := rfl
  leads := ⟨["secrets", "versions"], rfl, by decide, rfl⟩
  noCookies := rfl
  written := rfl

end Asks

/-! ## How a look-up ends -/

/-- Whether a call over a loopback picks out of a list the only entry that is asked for. -/
structure Outcome.LooksUp
    {Entry : Type}
    (outcome : Outcome Loopback Entry)
    (entries : List Entry)
    (IsAsked : Entry → Prop)
    (store : Server.Store) :
    Prop where
  found_iff : ∀ entry, outcome.result = .ok entry ↔ entry ∈ entries ∧ IsAsked entry
  missing :
    (∀ entry ∈ entries, ¬IsAsked entry) → outcome.result = .error (.refused .notFound)
  unchanged : outcome.state.store = store

section Found

variable {α β : Type} {view : α → β} {found : Option α}

/-- Where the server finds what is in a list, the client looks it up in the list as it sees it. -/
theorem Outcome.Tells.looksUp
    {outcome : Outcome Loopback β}
    {store : Server.Store}
    {records : List α}
    {IsMeant : α → Prop}
    {IsAsked : β → Prop}
    (tells : outcome.Tells (found.map view) store)
    (found_iff : ∀ record, found = some record ↔ record ∈ records ∧ IsMeant record)
    (isAsked_iff : ∀ record, IsAsked (view record) ↔ IsMeant record) :
    outcome.LooksUp (records.map view) IsAsked store where
  found_iff entry := by
    rw [tells.told_iff, Option.map_eq_some_iff, List.mem_map]
    constructor
    · rintro ⟨record, isFound, rfl⟩
      obtain ⟨member, isMeant⟩ := (found_iff record).mp isFound
      exact ⟨⟨record, member, rfl⟩, (isAsked_iff record).mpr isMeant⟩
    · rintro ⟨⟨record, member, rfl⟩, isAsked⟩
      exact ⟨record, (found_iff record).mpr ⟨member, (isAsked_iff record).mp isAsked⟩, rfl⟩
  missing noneAsked := by
    apply tells.missing
    rw [Option.map_eq_none_iff, Option.eq_none_iff_forall_ne_some]
    intro record isFound
    obtain ⟨member, isMeant⟩ := (found_iff record).mp isFound
    exact noneAsked (view record) (List.mem_map_of_mem member) ((isAsked_iff record).mpr isMeant)
  unchanged := tells.unchanged

end Found

/--
Whether a call over a loopback tells the versions of a name: those of the secrets of that name in a
list, in the order of the list, or that there are no such secrets.
-/
structure Outcome.TellsVersions
    (outcome : Outcome Loopback (List String))
    (secrets : List Secret)
    (name : String)
    (store : Server.Store) :
    Prop where
  listed :
    (∃ secret ∈ secrets, secret.name = name) →
      outcome.result =
        .ok ((secrets.filter fun secret => secret.name == name).filterMap Secret.version)
  missing :
    (∀ secret ∈ secrets, secret.name ≠ name) → outcome.result = .error (.refused .notFound)
  unchanged : outcome.state.store = store

/-! ## Look-ups over a loopback -/

section LookUps

variable {connection : Connection} {loopback : Loopback} {name : String}

theorem groupByName_looksUp
    (live : connection.Live loopback.store)
    (keeps : loopback.store.KeepsNames)
    (named : name ≠ "")
    (token : Nat → String) :
    ((groupByName name).perform (Loopback.transport token) connection loopback).LooksUp
      (loopback.store.groups.values.map Server.Group.seen) (fun group => group.name = name)
      loopback.store := by
  have tells :=
    (asks_groupByName named).tells live rfl sees_group rfl rfl
      (fun _ isQuery => Server.CommandReader.ofName_encode isQuery .findGroup) (fun _ => rfl) token
  apply tells.looksUp
  · exact fun _ => keeps.groupNamed?_eq_some_iff
  · exact fun _ => Iff.rfl

theorem clientByName_looksUp
    (live : connection.Live loopback.store)
    (keeps : loopback.store.KeepsNames)
    (named : name ≠ "")
    (token : Nat → String) :
    ((clientByName name).perform (Loopback.transport token) connection loopback).LooksUp
      (loopback.store.clients.values.map Server.Client.seen) (fun client => client.name = name)
      loopback.store := by
  have tells :=
    (asks_clientByName named).tells live rfl sees_client rfl rfl
      (fun _ isQuery => Server.CommandReader.ofName_encode isQuery .findClient) (fun _ => rfl)
      token
  apply tells.looksUp
  · exact fun _ => keeps.clientNamed?_eq_some_iff
  · exact fun _ => Iff.rfl

/-- A secret is looked up by its name and version; the empty version asks for one without. -/
theorem secretByNameAndVersion_looksUp
    (live : connection.Live loopback.store)
    (keeps : loopback.store.KeepsNames)
    (named : name ≠ "")
    (version : String)
    (token : Nat → String) :
    ((secretByNameAndVersion name version).perform (Loopback.transport token) connection
        loopback).LooksUp
      (loopback.store.secrets.values.map Server.Secret.seen)
      (fun secret =>
        secret.name = name ∧
          (secret.version = some version ∨ secret.version = none ∧ version = ""))
      loopback.store := by
  have tells :=
    (asks_secretByNameAndVersion named version).tells live rfl sees_secret rfl rfl
      (fun _ isQuery => Server.CommandReader.ofVersion_encode isQuery) (fun _ => rfl) token
  apply tells.looksUp
  · exact fun _ => keeps.secretNamed?_eq_some_iff
  · intro secret
    refine and_congr_right fun _ => ?_
    show secret.version = some version ∨ secret.version = none ∧ version = "" ↔ _
    cases secret.version with
    | none => simp [eq_comm]
    | some own => simp

/-- The versions of a name are those that are listed with the secrets of that name. -/
theorem versionsOfSecret_tellsVersions
    (live : connection.Live loopback.store)
    (name : String)
    (token : Nat → String) :
    ((versionsOfSecret name).perform (Loopback.transport token) connection
        loopback).TellsVersions
      (loopback.store.secrets.values.map Server.Secret.seen) name loopback.store := by
  have tells :=
    (asks_versionsOfSecret name).tells live rfl sees_text.array rfl rfl
      (fun _ isQuery => Server.CommandReader.ofName_encode isQuery .listVersions) (fun _ => rfl)
      token
  have filtered :
      ((loopback.store.secrets.values.map Server.Secret.seen).filter
          fun secret => secret.name == name).filterMap Secret.version =
        (loopback.store.secretsOf name).filterMap Server.Secret.version := by
    rw [List.filter_map, List.filterMap_map]
    rfl
  refine ⟨fun used => ?listed, fun unused => ?missing, tells.unchanged⟩
  case listed =>
    obtain ⟨secret, member, isNamed⟩ := used
    obtain ⟨stored, isStored, rfl⟩ := List.mem_map.mp member
    have isThere : stored ∈ loopback.store.secretsOf name :=
      Server.Store.mem_secretsOf_iff.mpr ⟨isStored, isNamed⟩
    rw [tells.told_iff, List.map_id_fun, Option.map_id, filtered]
    exact (loopback.store.versionsNamed?_eq name).trans (if_neg (List.ne_nil_of_mem isThere))
  case missing =>
    apply tells.missing
    have isEmpty : loopback.store.secretsOf name = [] := by
      rw [List.eq_nil_iff_forall_not_mem]
      intro stored isThere
      obtain ⟨isStored, isNamed⟩ := Server.Store.mem_secretsOf_iff.mp isThere
      exact unused stored.seen (List.mem_map_of_mem isStored) isNamed
    rw [Option.map_eq_none_iff]
    exact (loopback.store.versionsNamed?_eq name).trans (if_pos isEmpty)

end LookUps

/--
Whatever requests a server has served, a client with a live session there is told for every name,
and for every name and version, exactly what the lists of all groups, clients and secrets hold of
it. The characters of a name do not matter.
-/
theorem lookups_agree_with_listings
    {address : String}
    {connection : Connection}
    {arrivals : List Server.Arrival}
    {token : Nat → String}
    {served : Nat}
    (established : Connection.establish address = .ok { base := connection.base })
    (loggedIn :
      (isLoggedIn.perform (Loopback.transport token) connection
        ⟨(Server.Store.fresh.run arrivals).2, served⟩).result = .ok true) :
    let store := (Server.Store.fresh.run arrivals).2
    let transport := Loopback.transport token
    ∃ groups clients secrets,
      (allGroups.perform transport connection ⟨store, served⟩).result = .ok groups ∧
        (allClients.perform transport connection ⟨store, served⟩).result = .ok clients ∧
        (allSecrets.perform transport connection ⟨store, served⟩).result = .ok secrets ∧
        (∀ name,
          name ≠ "" →
            ((groupByName name).perform transport connection ⟨store, served⟩).LooksUp groups
              (fun group => group.name = name) store) ∧
        (∀ name,
          name ≠ "" →
            ((clientByName name).perform transport connection ⟨store, served⟩).LooksUp clients
              (fun client => client.name = name) store) ∧
        (∀ name version,
          name ≠ "" →
            ((secretByNameAndVersion name version).perform transport connection
                ⟨store, served⟩).LooksUp secrets
              (fun secret =>
                secret.name = name ∧
                  (secret.version = some version ∨ secret.version = none ∧ version = ""))
              store) ∧
        ∀ name,
          ((versionsOfSecret name).perform transport connection ⟨store, served⟩).TellsVersions
            secrets name store := by
  intro store transport
  have live := Connection.live_of_isLoggedIn established loggedIn
  have keeps : store.KeepsNames := Server.Store.Reachable.keepsNames ⟨arrivals, rfl⟩
  refine ⟨_, _, _, allGroups_shown live token, allClients_shown live token,
    allSecrets_shown live token, ?groups, ?clients, ?secrets, ?versions⟩
  case groups => exact fun name named => groupByName_looksUp live keeps named token
  case clients => exact fun name named => clientByName_looksUp live keeps named token
  case secrets =>
    exact fun name version named => secretByNameAndVersion_looksUp live keeps named version token
  case versions => exact fun name => versionsOfSecret_tellsVersions live name token

/-- The creation of one secret with a version, after a login. -/
private def marked : List Server.Arrival :=
  [.login "k3y",
    ⟨"", .posting "/admin/secrets" "k3y"
      "\x7b\"name\":\"a b+&%=ü\",\"content\":\"YQ==\",\"withVersion\":true\x7d"⟩]

/-- The secret is found by its name and its version only, though the name is full of marks. -/
theorem lookups_agree_with_listings_marks :
    let loopback : Loopback := ⟨(Server.Store.fresh.run marked).2, 2⟩
    let transport := Loopback.transport fun _ => ""
    let version := "0000000000000001"
    ∃ secret,
      (allSecrets.perform transport afterLogin loopback).result = .ok [secret] ∧
        ((secretByNameAndVersion "a b+&%=ü" version).perform transport afterLogin
            loopback).result = .ok secret ∧
        ((secretByNameAndVersion "a b+&%=ü" "").perform transport afterLogin loopback).result =
          .error (.refused .notFound) ∧
        ((versionsOfSecret "a b+&%=ü").perform transport afterLogin loopback).result =
          .ok [version] := by
  intro loopback transport version
  have established :
      Connection.establish "http://localhost" = .ok { base := afterLogin.base } := by
    decide +kernel
  have loggedIn :
      (isLoggedIn.perform (Loopback.transport fun _ => "") afterLogin
        ⟨(Server.Store.fresh.run marked).2, 2⟩).result = .ok true := by
    decide +kernel
  obtain ⟨-, -, secrets, -, -, listed, -, -, looksUp, tellsVersions⟩ :=
    lookups_agree_with_listings established loggedIn
  let secret : Secret := {
    id := ⟨1⟩
    name := "a b+&%=ü"
    description := some ""
    version := some version
    createdBy := some Server.Store.administrator }
  have isListed :
      (allSecrets.perform (Loopback.transport fun _ => "") afterLogin
        ⟨(Server.Store.fresh.run marked).2, 2⟩).result = .ok [secret] := by
    decide +kernel
  obtain rfl : [secret] = secrets := by
    rw [listed] at isListed
    exact (Except.ok.inj isListed).symm
  refine ⟨secret, listed, ?found, ?missing, ?versions⟩
  case found =>
    exact ((looksUp _ version (by decide)).found_iff secret).mpr ⟨by simp, rfl, .inl rfl⟩
  case missing =>
    apply (looksUp _ "" (by decide)).missing
    simp [secret, version]
  case versions =>
    rw [(tellsVersions "a b+&%=ü").listed ⟨secret, by simp, rfl⟩]
    simp [secret]

end Client

end SecretsAdmin
