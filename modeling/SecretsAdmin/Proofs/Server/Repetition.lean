import Mathlib.Data.List.Nodup
import SecretsAdmin.Proofs.Server.Access

namespace SecretsAdmin.Server.Store

/-!
# How often details show the same

What is linked to an object is shown once. What is linked to it only through groups is shown group
by group, so a detail shows it as often as there are groups that connect the two.
-/

/-- The groups that both a client and a secret are in. -/
def connecting
    (store : Store)
    (client secret : Int64) :
    List Int64 :=
  store.groups.keys.filter fun group =>
    ⟨client, group⟩ ∈ store.clientLinks.keys ∧ ⟨secret, group⟩ ∈ store.secretLinks.keys

/-- How often the details of a store show the same identifier. -/
structure RepeatsPerGroup (store : Store) : Prop where
  ofGroup :
    ∀ group detail,
      store.groupDetail? group = some detail →
        (detail.secrets.map Secret.id).Nodup ∧ (detail.clients.map Client.id).Nodup
  ofClient :
    ∀ client detail,
      store.clientDetail? client = some detail →
        (detail.groups.map Group.id).Nodup ∧
          (∀ secret,
              (detail.secrets.map Secret.id).count secret =
                (store.connecting client secret).length) ∧
            ((detail.secrets.map Secret.id).Nodup ↔
              ∀ secret, (store.connecting client secret).length ≤ 1)
  ofSecret :
    ∀ secret detail,
      store.secretDetail? secret = some detail →
        (detail.groups.map Group.id).Nodup ∧
          (∀ client,
              (detail.clients.map Client.id).count client =
                (store.connecting client secret).length) ∧
            ((detail.clients.map Client.id).Nodup ↔
              ∀ client, (store.connecting client secret).length ≤ 1)

/-! ## Counting -/

section Counting

variable {α : Type} {records : OrderedMap Int64 α} {idOf : α → Int64}

theorem Lists.nodup
    {asked : Int64 → Prop}
    {listed : List α}
    (lists : Lists records idOf asked listed) :
    (listed.map idOf).Nodup :=
  lists.ascending.imp fun before => Int64.ne_of_lt before

/-- A view shows an identifier once, if it is asked for. -/
theorem Lists.count_eq
    {asked : Int64 → Prop}
    [DecidablePred asked]
    {listed : List α}
    (lists : Lists records idOf asked listed)
    (id : Int64) :
    (listed.map idOf).count id = if asked id then 1 else 0 := by
  rw [lists.nodup.count]
  exact if_congr (lists.mem_iff id) rfl rfl

/-- Groups show an identifier once for each group for which it is asked. -/
theorem count_flatMap_eq
    {asked : Int64 → Int64 → Prop}
    [∀ group, DecidablePred (asked group)]
    {members : Int64 → List α}
    (lists : ∀ group, Lists records idOf (asked group) (members group))
    (groups : List Group)
    (id : Int64) :
    ((groups.flatMap fun group => members group.id).map idOf).count id =
      ((groups.map Group.id).filter fun group => asked group id).length := by
  induction groups with
  | nil => rfl
  | cons group rest inductionHypothesis =>
      rw [List.flatMap_cons, List.map_append, List.count_append, inductionHypothesis,
        (lists group.id).count_eq id, List.map_cons, List.filter_cons]
      by_cases isAsked : asked group.id id
      · simp [isAsked, Nat.add_comm]
      · simp [isAsked]

end Counting

/-! ## Groups between a client and a secret -/

/-- Among the groups of an object, those that another is in are all the groups of both. -/
theorem Lists.perm_filter
    {groups : OrderedMap Int64 Group}
    {asked other : Int64 → Prop}
    [DecidablePred asked]
    [DecidablePred other]
    {listed : List Group}
    (lists : Lists groups Group.id asked listed)
    (known : ∀ group, asked group → group ∈ groups.keys) :
    ((listed.map Group.id).filter fun group => other group).Perm
      (groups.keys.filter fun group => asked group ∧ other group) := by
  refine (List.perm_ext_iff_of_nodup (lists.nodup.filter _) (groups.nodup_keys.filter _)).mpr ?_
  intro group
  simp only [List.mem_filter, lists.mem_iff, decide_eq_true_eq]
  constructor
  · rintro ⟨isAsked, isOther⟩
    exact ⟨known group isAsked, isAsked, isOther⟩
  · exact And.right

namespace Consistent

variable {store : Store}

theorem count_secrets
    (consistent : store.Consistent)
    (client : Client)
    (secret : Int64) :
    ((store.detailOfClient client).secrets.map Secret.id).count secret =
      (store.connecting client.id secret).length := by
  have shown :=
    count_flatMap_eq consistent.secretsInGroup (store.groupsOfClient client.id) secret
  have isGroup (group : Int64) (isLink : ⟨client.id, group⟩ ∈ store.clientLinks.keys) :
      group ∈ store.groups.keys :=
    (consistent.clientLinks _ isLink).2
  exact shown.trans ((consistent.groupsOfClient client.id).perm_filter isGroup).length_eq

theorem count_clients
    (consistent : store.Consistent)
    (secret : Secret)
    (client : Int64) :
    ((store.detailOfSecret secret).clients.map Client.id).count client =
      (store.connecting client secret.id).length := by
  have shown :=
    count_flatMap_eq consistent.clientsInGroup (store.groupsOfSecret secret.id) client
  have isGroup (group : Int64) (isLink : ⟨secret.id, group⟩ ∈ store.secretLinks.keys) :
      group ∈ store.groups.keys :=
    (consistent.secretLinks _ isLink).2
  have sameGroups :
      store.connecting client secret.id =
        store.groups.keys.filter fun group =>
          ⟨secret.id, group⟩ ∈ store.secretLinks.keys ∧
            ⟨client, group⟩ ∈ store.clientLinks.keys :=
    List.filter_congr fun _ _ => decide_eq_decide.mpr and_comm
  rw [sameGroups]
  exact shown.trans ((consistent.groupsOfSecret secret.id).perm_filter isGroup).length_eq

theorem repeatsPerGroup (consistent : store.Consistent) : store.RepeatsPerGroup where
  ofGroup id detail isDetail := by
    obtain ⟨group, -, rfl⟩ := Option.map_eq_some_iff.mp isDetail
    exact ⟨(consistent.secretsInGroup group.id).nodup, (consistent.clientsInGroup group.id).nodup⟩
  ofClient id detail isDetail := by
    obtain ⟨client, found, rfl⟩ := Option.map_eq_some_iff.mp isDetail
    obtain rfl := consistent.clients id client found
    have counted := consistent.count_secrets client
    refine ⟨(consistent.groupsOfClient client.id).nodup, counted, ?_⟩
    simp only [List.nodup_iff_count_le_one, counted]
  ofSecret id detail isDetail := by
    obtain ⟨secret, found, rfl⟩ := Option.map_eq_some_iff.mp isDetail
    obtain rfl := consistent.secrets id secret found
    have counted := consistent.count_clients secret
    refine ⟨(consistent.groupsOfSecret secret.id).nodup, counted, ?_⟩
    simp only [List.nodup_iff_count_le_one, counted]

end Consistent

/--
In every reachable store the details of a group and the groups of other details show nothing twice.
A secret is shown to a client, and a client by a secret, once for each group that both are in.
-/
theorem details_repeat_per_group
    {store : Store}
    (reachable : store.Reachable) :
    store.RepeatsPerGroup :=
  reachable.consistent.repeatsPerGroup

/-- A client, two groups and a secret; the client and the secret are in both groups. -/
private def meetingTwice : List Arrival :=
  let putting (path : String) : Arrival :=
    ⟨"", { Request.posting path "t" "" with method := "PUT" }⟩
  [.login "t",
    ⟨"", .posting "/admin/clients" "t" "\x7b\"name\":\"c\"\x7d"⟩,
    ⟨"", .posting "/admin/groups" "t" "\x7b\"name\":\"g\"\x7d"⟩,
    ⟨"", .posting "/admin/groups" "t" "\x7b\"name\":\"h\"\x7d"⟩,
    ⟨"", .posting "/admin/secrets" "t" "\x7b\"name\":\"s\",\"content\":\"AA==\"\x7d"⟩,
    putting "/admin/memberships/clients/1/groups/2",
    putting "/admin/memberships/clients/1/groups/3",
    putting "/admin/memberships/secrets/4/groups/2",
    putting "/admin/memberships/secrets/4/groups/3"]

/-- In two groups with a client, a secret is shown twice, and so is the client. -/
theorem details_repeat_per_group_twice :
    let store := (fresh.run meetingTwice).2
    store.RepeatsPerGroup ∧
      store.connecting 1 4 = [2, 3] ∧
      (store.clientDetail? 1).map (fun detail => detail.secrets.map Secret.id) = some [4, 4] ∧
      (store.secretDetail? 4).map (fun detail => detail.clients.map Client.id) = some [1, 1] := by
  intro store
  exact ⟨details_repeat_per_group ⟨meetingTwice, rfl⟩, by decide +kernel⟩

/-- Reachable stores have details that show the same secret twice. -/
theorem not_nodup_details :
    ¬∀ store : Store,
        store.Reachable →
          ∀ client detail,
            store.clientDetail? client = some detail → (detail.secrets.map Secret.id).Nodup := by
  intro nodup
  have shown :
      (((fresh.run meetingTwice).2.clientDetail? 1).map fun detail =>
        detail.secrets.map Secret.id) = some [4, 4] := by
    decide +kernel
  obtain ⟨detail, isDetail, isTwice⟩ := Option.map_eq_some_iff.mp shown
  have distinct := nodup _ ⟨meetingTwice, rfl⟩ 1 detail isDetail
  rw [isTwice] at distinct
  exact absurd distinct (by decide)

end SecretsAdmin.Server.Store
