import SecretsAdmin.Proofs.Server.Membership
import SecretsAdmin.Proofs.Server.Objects

namespace SecretsAdmin.Server

/-!
# What a change leaves as it is

The changes that name their objects by identifiers: an object goes with the memberships of it, or
a single membership comes or goes. Everything else in the store stays.
-/

open Model (Kind)

/-- The kind of the objects that a kind of members has. -/
def MemberKind.kind : MemberKind → Kind
  | client => .client
  | secret => .secret

/-- Whether an object is one of the two ends of a membership. -/
def Link.Involves
    (link : Link)
    (members : MemberKind)
    (object : Kind × Int64) :
    Prop :=
  object = (members.kind, link.member) ∨ object = (.group, link.group)

namespace Store

/-- The object of a kind and an identifier. -/
def object? (store : Store) : Kind × Int64 → Option Object
  | (.client, id) => (store.clients.find? id).map .client
  | (.group, id) => (store.groups.find? id).map .group
  | (.secret, id) => (store.secrets.find? id).map .secret

/-- Whether objects are all there. -/
def HasAll
    (store : Store)
    (objects : List (Kind × Int64)) :
    Prop :=
  ∀ object ∈ objects, (store.object? object).isSome

/-- Whether a store loses one object and the memberships of it, and nothing else. -/
structure Loses
    (store : Store)
    (gone : Kind × Int64)
    (after : Store) :
    Prop where
  objects : ∀ other, after.object? other = if other = gone then none else store.object? other
  links :
    ∀ (members : MemberKind) (link : Link),
      link ∈ (members.links after).keys ↔
        link ∈ (members.links store).keys ∧ ¬link.Involves members gone
  sessions : after.sessions = store.sessions
  lastId : after.lastId = store.lastId

/-- Whether a store has a membership afterwards, or has it no longer, and nothing else changes. -/
structure Relinks
    (store : Store)
    (members : MemberKind)
    (link : Link)
    (isMember : Bool)
    (after : Store) :
    Prop where
  own : link ∈ (members.links after).keys ↔ isMember = true
  others :
    ∀ (kind : MemberKind) (other : Link),
      (kind, other) ≠ (members, link) →
        (other ∈ (kind.links after).keys ↔ other ∈ (kind.links store).keys)
  rest : ∃ clientLinks secretLinks, after = { store with clientLinks, secretLinks }

section Loses

variable (store : Store) (id : Int64)

/-- Among records, one identifier is free after a removal, and the others mean what they meant. -/
private theorem map_find?_erase
    {α : Type}
    (records : OrderedMap Int64 α)
    (make : α → Object)
    (other : Int64) :
    ((records.erase id).find? other).map make =
      if other = id then none else (records.find? other).map make := by
  rw [OrderedMap.find?_erase]
  split <;> rfl

/-- A group goes with its memberships of both kinds. -/
theorem loses_withoutGroup : store.Loses (.group, id) (store.withoutGroup id) where
  objects := by
    rintro ⟨kind, other⟩
    cases kind with
    | group => simp [object?, withoutGroup, map_find?_erase]
    | client | secret => rfl
  links members link := by
    cases members <;>
      simp [withoutGroup, Links.mem_withoutGroup_iff, Link.Involves, MemberKind.kind]
  sessions := rfl
  lastId := rfl

/-- A client goes with its memberships; those of secrets stay. -/
theorem loses_withoutClient : store.Loses (.client, id) (store.withoutClient id) where
  objects := by
    rintro ⟨kind, other⟩
    cases kind with
    | client => simp [object?, withoutClient, map_find?_erase]
    | group | secret => rfl
  links members link := by
    cases members <;>
      simp [withoutClient, Links.mem_withoutMember_iff, Link.Involves, MemberKind.kind]
  sessions := rfl
  lastId := rfl

/-- A secret goes with its memberships; those of clients stay. -/
theorem loses_withoutSecret : store.Loses (.secret, id) (store.withoutSecret id) where
  objects := by
    rintro ⟨kind, other⟩
    cases kind with
    | secret => simp [object?, withoutSecret, map_find?_erase]
    | group | client => rfl
  links members link := by
    cases members <;>
      simp [withoutSecret, Links.mem_withoutMember_iff, Link.Involves, MemberKind.kind]
  sessions := rfl
  lastId := rfl

end Loses

section Relinks

variable {store : Store} {members : MemberKind} {link : Link}

/-- The store with other memberships of a kind. -/
def withLinks
    (store : Store)
    (links : Links) :
    MemberKind → Store
  | .client => store.withClientLinks links
  | .secret => store.withSecretLinks links

/-- Other memberships of a kind that differ in one only change no other. -/
theorem relinks_withLinks
    {links : Links}
    {isMember : Bool}
    (own : link ∈ links.keys ↔ isMember = true)
    (others : ∀ other, other ≠ link → (other ∈ links.keys ↔ other ∈ (members.links store).keys)) :
    store.Relinks members link isMember (store.withLinks links members) := by
  cases members with
  | client =>
      refine ⟨own, fun kind other differs => ?_, links, store.secretLinks, rfl⟩
      cases kind with
      | client => exact others other fun same => differs (same ▸ rfl)
      | secret => exact Iff.rfl
  | secret =>
      refine ⟨own, fun kind other differs => ?_, store.clientLinks, links, rfl⟩
      cases kind with
      | client => exact Iff.rfl
      | secret => exact others other fun same => differs (same ▸ rfl)

/-- A membership that is put in is there, and all others are as before. -/
theorem relinks_insert :
    store.Relinks members link true
      (store.withLinks ((members.links store).insert link ()) members) := by
  apply relinks_withLinks
  · simp [OrderedMap.mem_keys_insert_iff]
  · intro other differs
    simp [OrderedMap.mem_keys_insert_iff, differs]

/-- A membership that is taken out is gone, and all others are as before. -/
theorem relinks_erase :
    store.Relinks members link false
      (store.withLinks ((members.links store).erase link) members) := by
  apply relinks_withLinks
  · simp [OrderedMap.mem_keys_erase_iff]
  · intro other differs
    simp [OrderedMap.mem_keys_erase_iff, differs]

end Relinks

/-! ## Changes that need their objects -/

/-- Whether a change happens exactly if the objects that it names are there, and is a change then. -/
structure Requires
    (store : Store)
    (named : List (Kind × Int64))
    (change : Except Denial Store)
    (IsChange : Store → Prop) :
    Prop where
  done : store.HasAll named → ∃ after, change = .ok after ∧ IsChange after
  missing : ¬store.HasAll named → change = .error .notFound

section Requires

variable (store : Store)

/-- A change under a condition needs its objects, if the condition says that they are there. -/
private theorem requires_ite
    {named : List (Kind × Int64)}
    {condition : Prop}
    [Decidable condition]
    {after : Store}
    {IsChange : Store → Prop}
    (hasAll_iff : store.HasAll named ↔ condition)
    (isChange : IsChange after) :
    store.Requires named (if condition then .ok after else .error .notFound) IsChange where
  done hasAll := ⟨after, if_pos (hasAll_iff.mp hasAll), isChange⟩
  missing notAll := if_neg fun holds => notAll (hasAll_iff.mpr holds)

@[simp] theorem hasAll_nil : store.HasAll [] := nofun

/-- Objects are all there if the first one is and all others are. -/
@[simp] theorem hasAll_cons
    (object : Kind × Int64)
    (rest : List (Kind × Int64)) :
    store.HasAll (object :: rest) ↔ (store.object? object).isSome = true ∧ store.HasAll rest :=
  List.forall_mem_cons

/-- A client is there under the identifiers that the store has for clients. -/
@[simp] theorem isSome_object?_client (id : Int64) :
    (store.object? (.client, id)).isSome = store.clients.contains id :=
  Option.isSome_map

/-- A group is there under the identifiers that the store has for groups. -/
@[simp] theorem isSome_object?_group (id : Int64) :
    (store.object? (.group, id)).isSome = store.groups.contains id :=
  Option.isSome_map

/-- A secret is there under the identifiers that the store has for secrets. -/
@[simp] theorem isSome_object?_secret (id : Int64) :
    (store.object? (.secret, id)).isSome = store.secrets.contains id :=
  Option.isSome_map

/-- A deletion needs the group, and the store then loses this group alone. -/
theorem requires_deleteGroup (id : Int64) :
    store.Requires [(.group, id)] (store.deleteGroup id) (store.Loses (.group, id)) :=
  store.requires_ite (by simp) (store.loses_withoutGroup id)

/-- A deletion needs the client, and the store then loses this client alone. -/
theorem requires_deleteClient (id : Int64) :
    store.Requires [(.client, id)] (store.deleteClient id) (store.Loses (.client, id)) :=
  store.requires_ite (by simp) (store.loses_withoutClient id)

/-- A deletion needs the secret, and the store then loses this secret alone. -/
theorem requires_deleteSecret (id : Int64) :
    store.Requires [(.secret, id)] (store.deleteSecret id) (store.Loses (.secret, id)) :=
  store.requires_ite (by simp) (store.loses_withoutSecret id)

variable (link : Link)

/-- A client enters a group if both are there, and no other membership changes. -/
theorem requires_enrollClient :
    store.Requires [(.client, link.member), (.group, link.group)] (store.enrollClient link)
      (store.Relinks .client link true) :=
  store.requires_ite (by simp) relinks_insert

/-- A client leaves a group if both are there, whether it was a member or not. -/
theorem requires_evictClient :
    store.Requires [(.client, link.member), (.group, link.group)] (store.evictClient link)
      (store.Relinks .client link false) :=
  store.requires_ite (by simp) relinks_erase

/-- A secret enters a group if both are there, and no other membership changes. -/
theorem requires_grantSecret :
    store.Requires [(.secret, link.member), (.group, link.group)] (store.grantSecret link)
      (store.Relinks .secret link true) :=
  store.requires_ite (by simp) relinks_insert

/-- A secret leaves a group if both are there, whether it was a member or not. -/
theorem requires_revokeSecret :
    store.Requires [(.secret, link.member), (.group, link.group)] (store.revokeSecret link)
      (store.Relinks .secret link false) :=
  store.requires_ite (by simp) relinks_erase

end Requires

end Store

end SecretsAdmin.Server
