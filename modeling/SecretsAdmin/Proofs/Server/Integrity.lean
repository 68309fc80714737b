import SecretsAdmin.OrderedMap.Lemmas
import SecretsAdmin.Proofs.Server.Run

namespace SecretsAdmin.Server

/-!
# Integrity of the store

Every record stands under its own identifier, and every membership is between objects that are
there. So what a view looks up it finds, and no membership is lost on the way into a detail.
-/

/-! ## Links in order -/

instance : Std.LawfulEqOrd Link where
  eq_of_compare := by
    rintro ⟨member, group⟩ ⟨otherMember, otherGroup⟩ same
    obtain ⟨sameMember, sameGroup⟩ := compareLex_eq_eq.mp same
    have isMember : member = otherMember := Std.LawfulEqOrd.eq_of_compare sameMember
    have isGroup : group = otherGroup := Std.LawfulEqOrd.eq_of_compare sameGroup
    rw [isMember, isGroup]

namespace Links

variable {links : Links} {member group : Int64}

/-- The groups of a member are those that it is linked to. -/
theorem mem_groupsOf_iff :
    group ∈ links.groupsOf member ↔ ⟨member, group⟩ ∈ links.keys := by
  simp only [groupsOf, List.mem_map, List.mem_filter, beq_iff_eq]
  constructor
  · rintro ⟨link, ⟨isLink, rfl⟩, rfl⟩
    exact isLink
  · intro isLink
    exact ⟨_, ⟨isLink, rfl⟩, rfl⟩

/-- The members of a group are those that are linked to it. -/
theorem mem_membersOf_iff :
    member ∈ links.membersOf group ↔ ⟨member, group⟩ ∈ links.keys := by
  simp only [membersOf, List.mem_map, List.mem_filter, beq_iff_eq]
  constructor
  · rintro ⟨link, ⟨isLink, rfl⟩, rfl⟩
    exact isLink
  · intro isLink
    exact ⟨_, ⟨isLink, rfl⟩, rfl⟩

/-- Links ascend first by their members and then by their groups. -/
private theorem ascending_links (links : Links) :
    links.keys.Pairwise fun earlier later =>
      earlier.member < later.member ∨
        earlier.member = later.member ∧ earlier.group < later.group := by
  refine links.pairwise_keys.imp fun {earlier later} before => ?_
  obtain isLess | ⟨isSame, isLess⟩ := Ordering.then_eq_lt.mp before
  · exact .inl (Std.compare_eq_lt.mp isLess)
  · exact .inr ⟨Std.LawfulEqOrd.eq_of_compare isSame, Std.compare_eq_lt.mp isLess⟩

/-- The groups of a member come in ascending order, so none comes twice. -/
theorem pairwise_groupsOf (links : Links) (member : Int64) :
    (links.groupsOf member).Pairwise (· < ·) := by
  refine List.pairwise_map.mpr (List.pairwise_filter.mpr ?_)
  refine links.ascending_links.imp fun {earlier later} before isEarlier isLater => ?_
  rw [beq_iff_eq] at isEarlier isLater
  obtain isLess | ⟨-, isLess⟩ := before
  · rw [isEarlier, isLater] at isLess
    exact absurd isLess Int64.lt_irrefl
  · exact isLess

/-- The members of a group come in ascending order, so none comes twice. -/
theorem pairwise_membersOf (links : Links) (group : Int64) :
    (links.membersOf group).Pairwise (· < ·) := by
  refine List.pairwise_map.mpr (List.pairwise_filter.mpr ?_)
  refine links.ascending_links.imp fun {earlier later} before isEarlier isLater => ?_
  rw [beq_iff_eq] at isEarlier isLater
  obtain isLess | ⟨-, isLess⟩ := before
  · exact isLess
  · rw [isEarlier, isLater] at isLess
    exact absurd isLess Int64.lt_irrefl

/-- Only the memberships of the member go with it. -/
theorem mem_withoutMember_iff
    {link : Link} :
    link ∈ (links.withoutMember member).keys ↔ link ∈ links.keys ∧ member ≠ link.member := by
  refine OrderedMap.mem_keys_filter_iff.trans (and_congr_right fun _ => ?_)
  rw [bne_iff_ne, ne_comm]

/-- Only the memberships of the group go with it. -/
theorem mem_withoutGroup_iff
    {link : Link} :
    link ∈ (links.withoutGroup group).keys ↔ link ∈ links.keys ∧ group ≠ link.group := by
  refine OrderedMap.mem_keys_filter_iff.trans (and_congr_right fun _ => ?_)
  rw [bne_iff_ne, ne_comm]

end Links

namespace Store

/-! ## The invariant -/

/-- Whether every record stands under its own identifier. -/
def OwnIds
    {α : Type}
    (records : OrderedMap Int64 α)
    (idOf : α → Int64) :
    Prop :=
  ∀ id record, records.find? id = some record → idOf record = id

/-- Whether both ends of every link are there. -/
def Bound
    {α : Type}
    (links : Links)
    (members : OrderedMap Int64 α)
    (groups : OrderedMap Int64 Group) :
    Prop :=
  ∀ link ∈ links.keys, link.member ∈ members.keys ∧ link.group ∈ groups.keys

/-- What holds of every store that a fresh server reaches. -/
structure Consistent (store : Store) : Prop where
  clients : OwnIds store.clients Client.id
  groups : OwnIds store.groups Group.id
  secrets : OwnIds store.secrets Secret.id
  clientLinks : Bound store.clientLinks store.clients store.groups
  secretLinks : Bound store.secretLinks store.secrets store.groups

/-! ## What is kept of it by the changes of one map -/

section Parts

variable {α : Type} {records members : OrderedMap Int64 α} {groups : OrderedMap Int64 Group}
variable {links : Links} {idOf : α → Int64}

/-- A record that comes in under its own identifier leaves all under their own. -/
theorem OwnIds.insert
    (own : OwnIds records idOf)
    (record : α) :
    OwnIds (records.insert (idOf record) record) idOf := by
  intro id found isFound
  rw [OrderedMap.find?_insert] at isFound
  split at isFound
  next isNew =>
    cases isFound
    exact isNew.symm
  next isOld => exact own _ _ isFound

/-- The records that are left keep their own identifiers. -/
theorem OwnIds.erase
    (own : OwnIds records idOf)
    (gone : Int64) :
    OwnIds (records.erase gone) idOf := by
  intro id found isFound
  rw [OrderedMap.find?_erase] at isFound
  split at isFound
  next isGone => cases isFound
  next stays => exact own _ _ isFound

/-- Ends that are there stay there when more members come in. -/
theorem Bound.insertMember
    (bound : Bound links members groups)
    (id : Int64)
    (member : α) :
    Bound links (members.insert id member) groups :=
  fun link isLink =>
    ⟨OrderedMap.mem_keys_insert_iff.mpr (.inr (bound link isLink).1), (bound link isLink).2⟩

/-- More groups do not unbind a membership. -/
theorem Bound.insertGroup
    (bound : Bound links members groups)
    (id : Int64)
    (group : Group) :
    Bound links members (groups.insert id group) :=
  fun link isLink =>
    ⟨(bound link isLink).1, OrderedMap.mem_keys_insert_iff.mpr (.inr (bound link isLink).2)⟩

/-- A member that goes with its links leaves the ends of the others. -/
theorem Bound.withoutMember
    (bound : Bound links members groups)
    (gone : Int64) :
    Bound (links.withoutMember gone) (members.erase gone) groups := by
  intro link isLink
  obtain ⟨wasLink, isOther⟩ := Links.mem_withoutMember_iff.mp isLink
  obtain ⟨member, group⟩ := bound link wasLink
  exact ⟨OrderedMap.mem_keys_erase_iff.mpr ⟨member, isOther.symm⟩, group⟩

/-- When a group goes, the memberships that are left belong to groups that are left. -/
theorem Bound.withoutGroup
    (bound : Bound links members groups)
    (gone : Int64) :
    Bound (links.withoutGroup gone) members (groups.erase gone) := by
  intro link isLink
  obtain ⟨wasLink, isOther⟩ := Links.mem_withoutGroup_iff.mp isLink
  obtain ⟨member, group⟩ := bound link wasLink
  exact ⟨member, OrderedMap.mem_keys_erase_iff.mpr ⟨group, isOther.symm⟩⟩

/-- A link between ends that are there can come in. -/
theorem Bound.insert
    (bound : Bound links members groups)
    (link : Link)
    (member : members.contains link.member = true)
    (group : groups.contains link.group = true) :
    Bound (links.insert link ()) members groups := by
  intro other isLink
  obtain rfl | wasLink := OrderedMap.mem_keys_insert_iff.mp isLink
  · exact ⟨OrderedMap.contains_iff_mem_keys.mp member,
      OrderedMap.contains_iff_mem_keys.mp group⟩
  · exact bound other wasLink

/-- Fewer memberships are still bound. -/
theorem Bound.erase
    (bound : Bound links members groups)
    (link : Link) :
    Bound (links.erase link) members groups :=
  fun other isLink => bound other (OrderedMap.mem_keys_erase_iff.mp isLink).1

end Parts

/-! ## Reachable stores -/

/-- In the beginning there is nothing that could be wrong. -/
theorem consistent_fresh : Consistent fresh where
  clients _ _ found := by cases found
  groups _ _ found := by cases found
  secrets _ _ found := by cases found
  clientLinks := nofun
  secretLinks := nofun

/-- Every change keeps a store consistent. -/
theorem Consistent.change
    {store after : Store}
    (consistent : store.Consistent)
    (change : Change store after) :
    after.Consistent := by
  obtain ⟨clients, groups, secrets, clientLinks, secretLinks⟩ := consistent
  cases change with
  | session _ _ => exact ⟨clients, groups, secrets, clientLinks, secretLinks⟩
  | group user input _ _ =>
      exact ⟨clients, groups.insert (store.newGroup user input), secrets,
        clientLinks.insertGroup _ _, secretLinks.insertGroup _ _⟩
  | client user input _ _ =>
      exact ⟨clients.insert (store.newClient user input), groups, secrets,
        clientLinks.insertMember _ _, secretLinks⟩
  | secret user input _ _ =>
      exact ⟨clients, groups, secrets.insert (store.newSecret user input),
        clientLinks, secretLinks.insertMember _ _⟩
  | groupGone id _ =>
      exact ⟨clients, groups.erase id, secrets,
        clientLinks.withoutGroup id, secretLinks.withoutGroup id⟩
  | clientGone id _ =>
      exact ⟨clients.erase id, groups, secrets, clientLinks.withoutMember id, secretLinks⟩
  | secretGone id _ =>
      exact ⟨clients, groups, secrets.erase id, clientLinks, secretLinks.withoutMember id⟩
  | clientLinked link member group =>
      exact ⟨clients, groups, secrets, clientLinks.insert link member group, secretLinks⟩
  | clientUnlinked link =>
      exact ⟨clients, groups, secrets, clientLinks.erase link, secretLinks⟩
  | secretLinked link member group =>
      exact ⟨clients, groups, secrets, clientLinks, secretLinks.insert link member group⟩
  | secretUnlinked link =>
      exact ⟨clients, groups, secrets, clientLinks, secretLinks.erase link⟩

/-- Every reachable store is consistent. -/
theorem Reachable.consistent
    {store : Store}
    (reachable : store.Reachable) :
    store.Consistent :=
  reachable.induct consistent_fresh Consistent.change

/-! ## Views -/

/--
Whether a list is the records of those identifiers that are asked for: for each of them the one
record that is stored under it, in ascending order, and nothing else.
-/
structure Lists
    {α : Type}
    (records : OrderedMap Int64 α)
    (idOf : α → Int64)
    (asked : Int64 → Prop)
    (listed : List α) :
    Prop where
  stored : ∀ record ∈ listed, records.find? (idOf record) = some record
  mem_iff : ∀ id, id ∈ listed.map idOf ↔ asked id
  ascending : (listed.map idOf).Pairwise (· < ·)

/-- Looking up identifiers that are all there finds a record for each of them. -/
theorem OwnIds.map_filterMap
    {α : Type}
    {records : OrderedMap Int64 α}
    {idOf : α → Int64}
    {ids : List Int64}
    (own : OwnIds records idOf)
    (known : ∀ id ∈ ids, id ∈ records.keys) :
    (ids.filterMap records.find?).map idOf = ids := by
  induction ids with
  | nil => rfl
  | cons id rest inductionHypothesis =>
      have isKnown := OrderedMap.contains_iff_mem_keys.mpr (known id List.mem_cons_self)
      obtain ⟨record, found⟩ := Option.isSome_iff_exists.mp isKnown
      rw [List.filterMap_cons_some found, List.map_cons, own _ _ found,
        inductionHypothesis fun other isOther => known other (List.mem_cons_of_mem _ isOther)]

/-- Looking up ascending identifiers that are all there lists their records. -/
theorem OwnIds.lists
    {α : Type}
    {records : OrderedMap Int64 α}
    {idOf : α → Int64}
    {asked : Int64 → Prop}
    {ids : List Int64}
    (own : OwnIds records idOf)
    (ascending : ids.Pairwise (· < ·))
    (mem_iff : ∀ {id}, id ∈ ids ↔ asked id)
    (known : ∀ {id}, asked id → id ∈ records.keys) :
    Lists records idOf asked (ids.filterMap records.find?) := by
  have sameIds := own.map_filterMap fun id isId => known (mem_iff.mp isId)
  refine ⟨fun record isListed => ?_, fun id => ?_, ?_⟩
  · obtain ⟨id, -, found⟩ := List.mem_filterMap.mp isListed
    rw [own _ _ found]
    exact found
  · rw [sameIds]
    exact mem_iff
  · rw [sameIds]
    exact ascending

namespace Consistent

variable {store : Store}

/-- The groups of a client are those that it is linked to. -/
theorem groupsOfClient
    (consistent : store.Consistent)
    (client : Int64) :
    Lists store.groups Group.id (fun group => ⟨client, group⟩ ∈ store.clientLinks.keys)
      (store.groupsOfClient client) :=
  consistent.groups.lists (store.clientLinks.pairwise_groupsOf client) Links.mem_groupsOf_iff
    fun isLink => (consistent.clientLinks _ isLink).2

/-- The groups of a secret are those that it has a membership in. -/
theorem groupsOfSecret
    (consistent : store.Consistent)
    (secret : Int64) :
    Lists store.groups Group.id (fun group => ⟨secret, group⟩ ∈ store.secretLinks.keys)
      (store.groupsOfSecret secret) :=
  consistent.groups.lists (store.secretLinks.pairwise_groupsOf secret) Links.mem_groupsOf_iff
    fun isLink => (consistent.secretLinks _ isLink).2

/-- The clients in a group are those that have a membership in it. -/
theorem clientsInGroup
    (consistent : store.Consistent)
    (group : Int64) :
    Lists store.clients Client.id (fun client => ⟨client, group⟩ ∈ store.clientLinks.keys)
      (store.clientsInGroup group) :=
  consistent.clients.lists (store.clientLinks.pairwise_membersOf group) Links.mem_membersOf_iff
    fun isLink => (consistent.clientLinks _ isLink).1

/-- The secrets in a group are those that have a membership in it. -/
theorem secretsInGroup
    (consistent : store.Consistent)
    (group : Int64) :
    Lists store.secrets Secret.id (fun secret => ⟨secret, group⟩ ∈ store.secretLinks.keys)
      (store.secretsInGroup group) :=
  consistent.secrets.lists (store.secretLinks.pairwise_membersOf group) Links.mem_membersOf_iff
    fun isLink => (consistent.secretLinks _ isLink).1

end Consistent

/--
A reachable store is consistent, so each view has exactly one record for every membership that it
is about, in ascending order.
-/
theorem reachable_links_resolve
    {store : Store}
    (reachable : store.Reachable) :
    store.Consistent ∧
      (∀ client,
        Lists store.groups Group.id (fun group => ⟨client, group⟩ ∈ store.clientLinks.keys)
          (store.groupsOfClient client)) ∧
      (∀ secret,
        Lists store.groups Group.id (fun group => ⟨secret, group⟩ ∈ store.secretLinks.keys)
          (store.groupsOfSecret secret)) ∧
      (∀ group,
        Lists store.clients Client.id (fun client => ⟨client, group⟩ ∈ store.clientLinks.keys)
          (store.clientsInGroup group)) ∧
      ∀ group,
        Lists store.secrets Secret.id (fun secret => ⟨secret, group⟩ ∈ store.secretLinks.keys)
          (store.secretsInGroup group) := by
  have consistent := reachable.consistent
  exact ⟨consistent, consistent.groupsOfClient, consistent.groupsOfSecret,
    consistent.clientsInGroup, consistent.secretsInGroup⟩

/-- One client is created, one group, and the client is put into the group. -/
private def enrollment : List Arrival := [
  .login "t",
  ⟨"", .posting "/admin/clients" "t" "\x7b\"name\":\"c\"\x7d"⟩,
  ⟨"", .posting "/admin/groups" "t" "\x7b\"name\":\"g\"\x7d"⟩,
  ⟨"", { Request.posting "/admin/memberships/clients/1/groups/2" "t" "" with method := "PUT" }⟩]

/-- The client that was put into the group is the one that is listed there. -/
theorem reachable_links_resolve_enrollment :
    (fresh.run enrollment).2.clientLinks.keys = [⟨1, 2⟩] ∧
      Lists (fresh.run enrollment).2.clients Client.id
        (fun client => ⟨client, 2⟩ ∈ (fresh.run enrollment).2.clientLinks.keys)
        ((fresh.run enrollment).2.clientsInGroup 2) := by
  have resolved := reachable_links_resolve ⟨enrollment, rfl⟩
  exact ⟨by decide +kernel, resolved.2.2.2.1 2⟩

end Store

end SecretsAdmin.Server
