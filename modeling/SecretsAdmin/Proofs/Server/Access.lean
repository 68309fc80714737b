import SecretsAdmin.Proofs.Server.Objects

namespace SecretsAdmin.Server.Store

/-!
# One access relation

The details of clients, groups and secrets are computed in different directions from two sets of
links. They all describe the same relation: a client can read a secret exactly if both are in some
group, and each of the three says so. Every record in a detail is the one of its listing.
-/

/-- Whether each of the records that are shown is the one that a listing has of its identifier. -/
def AreListed
    {α : Type}
    (listing : List α)
    (idOf : α → Int64)
    (shown : List α) :
    Prop :=
  ∀ record ∈ shown,
    record ∈ listing ∧ ∀ other ∈ listing, idOf other = idOf record → other = record

/-- Whether a group shows both a client and a secret. -/
def Meet
    (store : Store)
    (client : Client)
    (secret : Secret) :
    Prop :=
  ∃ group ∈ store.groups.values,
    client ∈ (store.detailOfGroup group).clients ∧
      secret ∈ (store.detailOfGroup group).secrets

/-- Whether all details of a store describe one relation between its objects. -/
structure SharesAccess (store : Store) : Prop where
  /-- The details are those that the server shows of what it has stored. -/
  clientShown :
    ∀ client ∈ store.clients.values,
      store.clientDetail? client.id = some (store.detailOfClient client)
  groupShown :
    ∀ group ∈ store.groups.values,
      store.groupDetail? group.id = some (store.detailOfGroup group)
  secretShown :
    ∀ secret ∈ store.secrets.values,
      store.secretDetail? secret.id = some (store.detailOfSecret secret)
  /-- A client and a group show each other. -/
  clientInGroup :
    ∀ client ∈ store.clients.values, ∀ group ∈ store.groups.values,
      group ∈ (store.detailOfClient client).groups ↔
        client ∈ (store.detailOfGroup group).clients
  /-- A secret and a group show each other. -/
  secretInGroup :
    ∀ secret ∈ store.secrets.values, ∀ group ∈ store.groups.values,
      group ∈ (store.detailOfSecret secret).groups ↔
        secret ∈ (store.detailOfGroup group).secrets
  /-- A client and a secret show each other. -/
  clientAndSecret :
    ∀ client ∈ store.clients.values, ∀ secret ∈ store.secrets.values,
      client ∈ (store.detailOfSecret secret).clients ↔
        secret ∈ (store.detailOfClient client).secrets
  /-- They do so exactly if a group shows both. -/
  clientMeetsSecret :
    ∀ client ∈ store.clients.values, ∀ secret ∈ store.secrets.values,
      client ∈ (store.detailOfSecret secret).clients ↔ store.Meet client secret
  /-- Nothing is shown that the listings do not show. -/
  clientsListed :
    (∀ group ∈ store.groups.values,
        AreListed store.clients.values Client.id (store.detailOfGroup group).clients) ∧
      ∀ secret ∈ store.secrets.values,
        AreListed store.clients.values Client.id (store.detailOfSecret secret).clients
  groupsListed :
    (∀ client ∈ store.clients.values,
        AreListed store.groups.values Group.id (store.detailOfClient client).groups) ∧
      ∀ secret ∈ store.secrets.values,
        AreListed store.groups.values Group.id (store.detailOfSecret secret).groups
  secretsListed :
    (∀ group ∈ store.groups.values,
        AreListed store.secrets.values Secret.id (store.detailOfGroup group).secrets) ∧
      ∀ client ∈ store.clients.values,
        AreListed store.secrets.values Secret.id (store.detailOfClient client).secrets

/-! ## Records in listings -/

section Lists

variable {α : Type} {records : OrderedMap Int64 α} {idOf : α → Int64} {asked : Int64 → Prop}
variable {listed : List α}

/-- A record that is stored is listed exactly if its identifier is asked for. -/
theorem Lists.mem_iff_asked
    (lists : Lists records idOf asked listed)
    {record : α}
    (stored : records.find? (idOf record) = some record) :
    record ∈ listed ↔ asked (idOf record) := by
  rw [← lists.mem_iff, List.mem_map]
  constructor
  · intro isListed
    exact ⟨record, isListed, rfl⟩
  · rintro ⟨other, isListed, sameId⟩
    have found := lists.stored other isListed
    rw [sameId, stored] at found
    exact Option.some.inj found ▸ isListed

/-- What is listed of some records stands in the listing of all of them. -/
theorem Lists.areListed
    (lists : Lists records idOf asked listed)
    (own : OwnIds records idOf) :
    AreListed records.values idOf listed := by
  intro record isListed
  have stored := lists.stored record isListed
  refine ⟨OrderedMap.mem_values_iff.mpr ⟨_, stored⟩, fun other isOther sameId => ?_⟩
  have found := own.find?_eq_some isOther
  rw [sameId, stored] at found
  exact (Option.some.inj found).symm

end Lists

theorem AreListed.flatMap
    {α β : Type}
    {listing : List α}
    {idOf : α → Int64}
    {shown : β → List α}
    (areListed : ∀ member, AreListed listing idOf (shown member))
    (members : List β) :
    AreListed listing idOf (members.flatMap shown) := by
  intro record isShown
  obtain ⟨member, -, isHere⟩ := List.mem_flatMap.mp isShown
  exact areListed member record isHere

/-! ## Both ends of a link -/

namespace Consistent

variable {store : Store} {client : Client} {group : Group} {secret : Secret}

/-- A client has a group exactly if the group has the client: both tell of the same link. -/
theorem mem_groupsOfClient_iff
    (consistent : store.Consistent)
    (isClient : client ∈ store.clients.values)
    (isGroup : group ∈ store.groups.values) :
    group ∈ store.groupsOfClient client.id ↔ client ∈ store.clientsInGroup group.id := by
  rw [(consistent.groupsOfClient client.id).mem_iff_asked (consistent.groups.find?_eq_some isGroup),
    (consistent.clientsInGroup group.id).mem_iff_asked
      (consistent.clients.find?_eq_some isClient)]

theorem mem_groupsOfSecret_iff
    (consistent : store.Consistent)
    (isSecret : secret ∈ store.secrets.values)
    (isGroup : group ∈ store.groups.values) :
    group ∈ store.groupsOfSecret secret.id ↔ secret ∈ store.secretsInGroup group.id := by
  rw [(consistent.groupsOfSecret secret.id).mem_iff_asked (consistent.groups.find?_eq_some isGroup),
    (consistent.secretsInGroup group.id).mem_iff_asked
      (consistent.secrets.find?_eq_some isSecret)]

/-- A secret shows a client group by group, so it shows exactly the clients that it meets. -/
theorem mem_clients_iff
    (consistent : store.Consistent)
    (isSecret : secret ∈ store.secrets.values) :
    client ∈ (store.detailOfSecret secret).clients ↔ store.Meet client secret := by
  have areGroups := (consistent.groupsOfSecret secret.id).areListed consistent.groups
  rw [detailOfSecret, List.mem_flatMap]
  constructor
  · rintro ⟨group, isShown, hasClient⟩
    have isGroup := (areGroups group isShown).1
    exact ⟨group, isGroup, hasClient,
      (consistent.mem_groupsOfSecret_iff isSecret isGroup).mp isShown⟩
  · rintro ⟨group, isGroup, hasClient, hasSecret⟩
    exact ⟨group, (consistent.mem_groupsOfSecret_iff isSecret isGroup).mpr hasSecret, hasClient⟩

theorem mem_secrets_iff
    (consistent : store.Consistent)
    (isClient : client ∈ store.clients.values) :
    secret ∈ (store.detailOfClient client).secrets ↔ store.Meet client secret := by
  have areGroups := (consistent.groupsOfClient client.id).areListed consistent.groups
  rw [detailOfClient, List.mem_flatMap]
  constructor
  · rintro ⟨group, isShown, hasSecret⟩
    have isGroup := (areGroups group isShown).1
    exact ⟨group, isGroup,
      (consistent.mem_groupsOfClient_iff isClient isGroup).mp isShown, hasSecret⟩
  · rintro ⟨group, isGroup, hasClient, hasSecret⟩
    exact ⟨group, (consistent.mem_groupsOfClient_iff isClient isGroup).mpr hasClient, hasSecret⟩

/-- A consistent store has one access relation. -/
theorem sharesAccess (consistent : store.Consistent) : store.SharesAccess where
  clientShown client isClient := by
    rw [clientDetail?, consistent.clients.find?_eq_some isClient, Option.map_some]
  groupShown group isGroup := by
    rw [groupDetail?, consistent.groups.find?_eq_some isGroup, Option.map_some]
  secretShown secret isSecret := by
    rw [secretDetail?, consistent.secrets.find?_eq_some isSecret, Option.map_some]
  clientInGroup _ isClient _ isGroup := consistent.mem_groupsOfClient_iff isClient isGroup
  secretInGroup _ isSecret _ isGroup := consistent.mem_groupsOfSecret_iff isSecret isGroup
  clientAndSecret _ isClient _ isSecret :=
    (consistent.mem_clients_iff isSecret).trans (consistent.mem_secrets_iff isClient).symm
  clientMeetsSecret _ _ _ isSecret := consistent.mem_clients_iff isSecret
  clientsListed :=
    have inGroup (group : Int64) := (consistent.clientsInGroup group).areListed consistent.clients
    ⟨fun group _ => inGroup group.id, fun _ _ => .flatMap (fun group : Group => inGroup group.id) _⟩
  groupsListed :=
    ⟨fun client _ => (consistent.groupsOfClient client.id).areListed consistent.groups,
      fun secret _ => (consistent.groupsOfSecret secret.id).areListed consistent.groups⟩
  secretsListed :=
    have inGroup (group : Int64) := (consistent.secretsInGroup group).areListed consistent.secrets
    ⟨fun group _ => inGroup group.id, fun _ _ => .flatMap (fun group : Group => inGroup group.id) _⟩

end Consistent

/--
In every reachable store the details of all objects describe one access relation, and show the
records of the listings.
-/
theorem details_share_access
    {store : Store}
    (reachable : store.Reachable) :
    store.SharesAccess :=
  reachable.consistent.sharesAccess

/--
A client, two groups and a secret; the client and the secret are in both groups, of which the
first is deleted.
-/
private def sharing : List Arrival :=
  let putting (path : String) : Arrival :=
    ⟨"", { Request.posting path "t" "" with method := "PUT" }⟩
  [.login "t",
    ⟨"", .posting "/admin/clients" "t" "\x7b\"name\":\"c\"\x7d"⟩,
    ⟨"", .posting "/admin/groups" "t" "\x7b\"name\":\"g\"\x7d"⟩,
    ⟨"", .posting "/admin/groups" "t" "\x7b\"name\":\"h\"\x7d"⟩,
    ⟨"", .posting "/admin/secrets" "t" "\x7b\"name\":\"s\",\"content\":\"AA==\"\x7d"⟩,
    putting "/admin/memberships/clients/1/groups/2",
    putting "/admin/memberships/clients/1/groups/3",
    putting "/admin/memberships/secrets/4/groups/2",
    putting "/admin/memberships/secrets/4/groups/3",
    ⟨"", { Request.posting "/admin/groups/2" "t" "" with method := "DELETE" }⟩]

/-- The client still reads the secret through the group that is left. -/
theorem details_share_access_deletedGroup :
    let store := (fresh.run sharing).2
    store.SharesAccess ∧
      (store.groups.values.map Group.id = [3]) ∧
      (store.clients.values.map fun client =>
        (store.detailOfClient client).secrets.map Secret.id) = [[4]] ∧
      (store.secrets.values.map fun secret =>
        (store.detailOfSecret secret).clients.map Client.id) = [[1]] := by
  intro store
  exact ⟨details_share_access ⟨sharing, rfl⟩, by decide +kernel⟩

end SecretsAdmin.Server.Store
