import Mathlib.Algebra.Group.Int.Defs
import SecretsAdmin.Proofs.Server.Atomicity
import SecretsAdmin.Proofs.Server.Integrity

namespace SecretsAdmin.Server

/-!
# Identifiers in order

Identifiers are given in ascending order from one. As long as they do not run out, what is new has
a greater identifier than everything before it, so it comes last wherever it is listed, and nothing
can be linked to it yet.
-/

/-! ## Identifiers that are given -/

/-- As long as a sum is not negative, it was not taken beyond the greatest number. -/
theorem toInt_add_ofNat
    {id : Int64}
    {count : Nat}
    (few : count ≤ greatestLength)
    (least : 0 ≤ id.toInt)
    (kept : 0 ≤ (id + Int64.ofNat count).toInt) :
    (id + Int64.ofNat count).toInt = id.toInt + count := by
  have less := id.toInt_lt
  unfold greatestLength at few
  rw [Int64.toInt_add, Int64.toInt_ofNat_of_lt (by omega), Int.bmod_def] at kept ⊢
  omega

namespace Store

/-- Whether all identifiers in use were given, and none of them was given after the last one. -/
structure Numbered (store : Store) : Prop where
  lastId : 0 ≤ store.lastId
  clients : ∀ id ∈ store.clients.keys, id ≤ store.lastId
  groups : ∀ id ∈ store.groups.keys, id ≤ store.lastId
  secrets : ∀ id ∈ store.secrets.keys, id ≤ store.lastId

theorem fresh_numbered : fresh.Numbered where
  lastId := by decide
  clients := nofun
  groups := nofun
  secrets := nofun

section Change

variable {store after : Store}

/-- The next identifier is one more than the last one, as long as there is one. -/
theorem toInt_nextId
    (least : 0 ≤ store.lastId)
    (room : store.lastId.toInt + 1 < 2 ^ 63) :
    store.nextId.toInt = store.lastId.toInt + 1 := by
  have isLeast := Int64.le_iff_toInt_le.mp least
  have zero : (0 : Int64).toInt = 0 := rfl
  rw [nextId, Int64.toInt_add, Int64.toInt_one, Int.bmod_def]
  omega

/-- The next identifier comes behind the last one, if it is not negative. -/
theorem lastId_lt_nextId
    (least : 0 ≤ store.lastId)
    (kept : 0 ≤ store.nextId) :
    store.lastId < store.nextId := by
  have isKept : 0 ≤ (store.lastId + Int64.ofNat 1).toInt := Int64.le_iff_toInt_le.mp kept
  have next := toInt_add_ofNat (by decide) (Int64.le_iff_toInt_le.mp least) isKept
  rw [Int64.lt_iff_toInt_lt]
  show _ < (store.lastId + Int64.ofNat 1).toInt
  omega

private theorem le_of_mem_insert
    {α : Type}
    {records : OrderedMap Int64 α}
    {last id other : Int64}
    {record : α}
    (numbered : ∀ id ∈ records.keys, id ≤ last)
    (isLess : last < id)
    (member : other ∈ (records.insert id record).keys) :
    other ≤ id := by
  rcases OrderedMap.mem_keys_insert_iff.mp member with rfl | wasThere
  · exact Int64.le_refl _
  · exact Int64.le_trans (numbered other wasThere) (Int64.le_of_lt isLess)

/-- A change gives the next identifier or none. -/
theorem Change.lastId
    (change : Change store after) :
    after.lastId = store.lastId ∨ after.lastId = store.nextId := by
  cases change with
  | group | client | secret => exact .inr rfl
  | _ => exact .inl rfl

/-- A change keeps the identifiers in order, as long as they do not run out. -/
theorem Change.numbered
    (change : Change store after)
    (numbered : store.Numbered)
    (kept : 0 ≤ after.lastId) :
    after.Numbered := by
  cases change with
  | session token user => exact { numbered with }
  | group user input named unused =>
      have isLess := lastId_lt_nextId numbered.lastId kept
      exact {
        lastId := kept
        clients := fun id member =>
          Int64.le_trans (numbered.clients id member) (Int64.le_of_lt isLess)
        groups := fun id member => le_of_mem_insert numbered.groups isLess member
        secrets := fun id member =>
          Int64.le_trans (numbered.secrets id member) (Int64.le_of_lt isLess) }
  | client user input named unused =>
      have isLess := lastId_lt_nextId numbered.lastId kept
      exact {
        lastId := kept
        clients := fun id member => le_of_mem_insert numbered.clients isLess member
        groups := fun id member =>
          Int64.le_trans (numbered.groups id member) (Int64.le_of_lt isLess)
        secrets := fun id member =>
          Int64.le_trans (numbered.secrets id member) (Int64.le_of_lt isLess) }
  | secret user input named unused =>
      have isLess := lastId_lt_nextId numbered.lastId kept
      exact {
        lastId := kept
        clients := fun id member =>
          Int64.le_trans (numbered.clients id member) (Int64.le_of_lt isLess)
        groups := fun id member =>
          Int64.le_trans (numbered.groups id member) (Int64.le_of_lt isLess)
        secrets := fun id member => le_of_mem_insert numbered.secrets isLess member }
  | groupGone id known =>
      exact { numbered with
        groups := fun other member =>
          numbered.groups other (OrderedMap.mem_keys_erase_iff.mp member).1 }
  | clientGone id known =>
      exact { numbered with
        clients := fun other member =>
          numbered.clients other (OrderedMap.mem_keys_erase_iff.mp member).1 }
  | secretGone id known =>
      exact { numbered with
        secrets := fun other member =>
          numbered.secrets other (OrderedMap.mem_keys_erase_iff.mp member).1 }
  | clientLinked | clientUnlinked | secretLinked | secretUnlinked => exact { numbered with }

/-- Secrets that are generated keep the identifiers in order, as long as these do not run out. -/
theorem Generates.numbered
    {user : String}
    {inputs : List TemplateInput}
    {secrets : List Secret}
    (generates : Generates user store inputs secrets after)
    (numbered : store.Numbered)
    (room : store.lastId.toInt + inputs.length < 2 ^ 63) :
    after.Numbered := by
  induction generates with
  | done => exact numbered
  | @next store between after input inputs secret secrets first rest inductionHypothesis =>
      obtain ⟨named, unused, rfl, rfl⟩ := generateOne_eq_ok_iff.mp first
      rw [List.length_cons] at room
      have least := Int64.le_iff_toInt_le.mp numbered.lastId
      have next := toInt_nextId numbered.lastId (by omega)
      have change : Change store (store.withSecret (store.newSecret user (generated input))) :=
        .secret user (generated input) named (by simp [generated, unused])
      refine inductionHypothesis (change.numbered numbered ?_) ?_
      · rw [Int64.le_iff_toInt_le]
        show (0 : Int64).toInt ≤ store.nextId.toInt
        omega
      · show store.nextId.toInt + _ < _
        omega

end Change

/-! ## Requests and runs -/

/--
A request gives no more identifiers than bytes are read, and keeps them in order. Only a generator
gives more than one, at most one for each byte that is read.
-/
theorem serve_takes
    (store : Store)
    (token : String)
    (request : Request) :
    ∃ count ≤ greatestLength,
      (store.serve token request).2.lastId = store.lastId + Int64.ofNat count ∧
        (store.Numbered → 0 ≤ (store.serve token request).2.lastId →
          (store.serve token request).2.Numbered) := by
  have served := store.serve_served token request
  generalize (store.serve token request).1 = response at served
  generalize (store.serve token request).2 = after at served
  have none_taken : store.lastId = store.lastId + Int64.ofNat 0 := by simp
  have of_change {after : Store} (change : Change store after) :
      ∃ count ≤ greatestLength,
        after.lastId = store.lastId + Int64.ofNat count ∧
          (store.Numbered → 0 ≤ after.lastId → after.Numbered) := by
    rcases change.lastId with same | next
    · exact ⟨0, by decide, same.trans none_taken, change.numbered⟩
    · exact ⟨1, by decide, next, change.numbered⟩
  cases served with
  | refused _ => exact ⟨0, by decide, none_taken, fun numbered _ => numbered⟩
  | begun _ login =>
      obtain ⟨-, rfl⟩ := login_eq_ok_iff.mp login
      exact of_change (.session token administrator)
  | @obeyed user command answer _ _ known asked executed _ =>
      by_cases isGenerator : ∃ generator parameters, command = .generate generator parameters
      · obtain ⟨generator, parameters, rfl⟩ := isGenerator
        have bound := length_parameters_le asked
        obtain ⟨_, outcome⟩ := generate_of_execute executed
        obtain ⟨inputs, secrets, generates, fewer⟩ := exists_generates_of_generate outcome
        have few := Nat.le_trans fewer bound
        refine ⟨inputs.length, few, generates.lastId, fun numbered kept => ?_⟩
        refine generates.numbered numbered ?_
        rw [generates.lastId] at kept
        rw [← toInt_add_ofNat few (Int64.le_iff_toInt_le.mp numbered.lastId)
          (Int64.le_iff_toInt_le.mp kept)]
        exact Int64.toInt_lt _
      · have notGenerator : ∀ generator parameters, command ≠ .generate generator parameters :=
          fun generator parameters same => isGenerator ⟨generator, parameters, same⟩
        cases change_of_execute executed notGenerator with
        | refl => exact ⟨0, by decide, none_taken, fun numbered _ => numbered⟩
        | single change => exact of_change change

/-! ## New objects -/

section Parts

variable {α : Type} {links : Links} {records : OrderedMap Int64 α}
variable {groups : OrderedMap Int64 Group} {last id : Int64}

/-- A record with a greater identifier than all others is listed at the end. -/
theorem values_insert_of_lt
    (numbered : ∀ id ∈ records.keys, id ≤ last)
    (isLess : last < id)
    (record : α) :
    (records.insert id record).values = records.values ++ [record] := by
  have greatest : ∀ other ∈ records.keys, compare id other = .gt := fun other member =>
    Std.compare_eq_gt.mpr (Int64.lt_of_le_of_lt (numbered other member) isLess)
  rw [OrderedMap.values, OrderedMap.entries_insert_of_greatest record greatest, List.map_append]
  rfl

/-- What has a greater identifier than all members is in no group. -/
private theorem groupsOf_eq_nil
    (bound : Bound links records groups)
    (numbered : ∀ id ∈ records.keys, id ≤ last)
    (isLess : last < id) :
    links.groupsOf id = [] := by
  refine List.eq_nil_iff_forall_not_mem.mpr fun group isGroup => ?_
  have known := numbered id (bound _ (Links.mem_groupsOf_iff.mp isGroup)).1
  exact absurd (Int64.lt_of_le_of_lt known isLess) Int64.lt_irrefl

/-- A group with a greater identifier than all others has no members. -/
private theorem membersOf_eq_nil
    (bound : Bound links records groups)
    (numbered : ∀ id ∈ groups.keys, id ≤ last)
    (isLess : last < id) :
    links.membersOf id = [] := by
  refine List.eq_nil_iff_forall_not_mem.mpr fun member isMember => ?_
  have known := numbered id (bound _ (Links.mem_membersOf_iff.mp isMember)).2
  exact absurd (Int64.lt_of_le_of_lt known isLess) Int64.lt_irrefl

end Parts

/-- Whether the records of a store are in order, and there is a next identifier. -/
structure Ordered (store : Store) : Prop where
  consistent : store.Consistent
  numbered : store.Numbered
  isLess : store.lastId < store.nextId

theorem groupDetail?_withGroup
    (store : Store)
    (group : Group) :
    (store.withGroup group).groupDetail? group.id =
      some ((store.withGroup group).detailOfGroup group) := by
  rw [groupDetail?, withGroup, OrderedMap.find?_insert, if_pos rfl, Option.map_some]

theorem clientDetail?_withClient
    (store : Store)
    (client : Client) :
    (store.withClient client).clientDetail? client.id =
      some ((store.withClient client).detailOfClient client) := by
  rw [clientDetail?, withClient, OrderedMap.find?_insert, if_pos rfl, Option.map_some]

theorem secretDetail?_withSecret
    (store : Store)
    (secret : Secret) :
    (store.withSecret secret).secretDetail? secret.id =
      some ((store.withSecret secret).detailOfSecret secret) := by
  rw [secretDetail?, withSecret, OrderedMap.find?_insert, if_pos rfl, Option.map_some]

namespace Ordered

variable {store : Store}

/-- A new group is empty, and listed at the end. -/
theorem newGroup
    (ordered : store.Ordered)
    (user : String)
    (input : GroupInput) :
    let group := store.newGroup user input
    let after := store.withGroup group
    (after.detailOfGroup group).secrets = [] ∧
      (after.detailOfGroup group).clients = [] ∧
      after.groups.values = store.groups.values ++ [group] := by
  refine ⟨?_, ?_, values_insert_of_lt ordered.numbered.groups ordered.isLess _⟩
  · have noMembers :=
      membersOf_eq_nil ordered.consistent.secretLinks ordered.numbered.groups ordered.isLess
    exact congrArg (List.filterMap _) noMembers
  · have noMembers :=
      membersOf_eq_nil ordered.consistent.clientLinks ordered.numbered.groups ordered.isLess
    exact congrArg (List.filterMap _) noMembers

theorem newClient
    (ordered : store.Ordered)
    (user : String)
    (input : ClientInput) :
    let client := store.newClient user input
    let after := store.withClient client
    (after.detailOfClient client).groups = [] ∧
      (after.detailOfClient client).secrets = [] ∧
      after.clients.values = store.clients.values ++ [client] := by
  have noGroups :
      (store.withClient (store.newClient user input)).groupsOfClient store.nextId = [] :=
    congrArg (List.filterMap _)
      (groupsOf_eq_nil ordered.consistent.clientLinks ordered.numbered.clients ordered.isLess)
  refine ⟨noGroups, ?_, values_insert_of_lt ordered.numbered.clients ordered.isLess _⟩
  exact congrArg (List.flatMap _) noGroups

theorem newSecret
    (ordered : store.Ordered)
    (user : String)
    (input : SecretInput) :
    let secret := store.newSecret user input
    let after := store.withSecret secret
    (after.detailOfSecret secret).groups = [] ∧
      (after.detailOfSecret secret).clients = [] ∧
      after.secrets.values = store.secrets.values ++ [secret] := by
  have noGroups :
      (store.withSecret (store.newSecret user input)).groupsOfSecret store.nextId = [] :=
    congrArg (List.filterMap _)
      (groupsOf_eq_nil ordered.consistent.secretLinks ordered.numbered.secrets ordered.isLess)
  refine ⟨noGroups, ?_, values_insert_of_lt ordered.numbered.secrets ordered.isLess _⟩
  exact congrArg (List.flatMap _) noGroups

end Ordered

end Store

end SecretsAdmin.Server
