import Mathlib.Data.List.Count
import SecretsAdmin.Proofs.Server.Integrity
import SecretsAdmin.Proofs.Text.Hex

namespace SecretsAdmin.Server

/-!
# Names mean one object each

Names of groups and of clients are in use once, and names of secrets once for every version. So
what is looked up by its name is found, and not another object in its place.
-/

namespace Store

/-! ## Versions -/

/-- Identifiers have versions of their own. -/
theorem versionOf_injective
    {left right : Int64}
    (same : versionOf left = versionOf right) :
    left = right := by
  have sameDigits := Hex.fixed_injective left.toUInt64.toNat_lt right.toUInt64.toNat_lt
    (String.ofList_injective same)
  exact congrArg Int64.ofUInt64 (UInt64.toNat_inj.mp sameDigits)

/-- No version is empty. -/
theorem versionOf_ne_empty (id : Int64) : versionOf id ≠ "" := by
  intro isEmpty
  have length := congrArg String.length isEmpty
  simp [versionOf] at length

/-! ## Records that are called differently -/

section Distinct

variable {α β : Type} {records : OrderedMap Int64 α} {called : α → β}

/-- Whether no two records are called the same. -/
def Distinct
    (records : OrderedMap Int64 α)
    (called : α → β) :
    Prop :=
  ∀ id other record found,
    records.find? id = some record →
      records.find? other = some found → called record = called found → id = other

/-- A record can come in if none is called like it, but the one that it replaces. -/
theorem Distinct.insert
    (distinct : Distinct records called)
    {id : Int64}
    {record : α}
    (unused :
      ∀ other found,
        records.find? other = some found → called found = called record → other = id) :
    Distinct (records.insert id record) called := by
  intro first second former latter isFormer isLatter same
  rw [OrderedMap.find?_insert] at isFormer isLatter
  split at isFormer
  next isFirst =>
    cases isFormer
    split at isLatter
    next isSecond => rw [isFirst, isSecond]
    next => rw [isFirst, unused second latter isLatter same.symm]
  next =>
    split at isLatter
    next isSecond =>
      cases isLatter
      rw [isSecond, unused first former isFormer same]
    next => exact distinct first second former latter isFormer isLatter same

/-- The names of the records that are left differ. -/
theorem Distinct.erase
    (distinct : Distinct records called)
    (gone : Int64) :
    Distinct (records.erase gone) called := by
  intro first second former latter isFormer isLatter same
  rw [OrderedMap.find?_erase] at isFormer isLatter
  split at isFormer
  next => cases isFormer
  next =>
    split at isLatter
    next => cases isLatter
    next => exact distinct first second former latter isFormer isLatter same

/-- What records are called, when they are listed, is never the same twice. -/
theorem Distinct.nodup
    (distinct : Distinct records called) :
    (records.values.map called).Nodup := by
  rw [OrderedMap.values, List.map_map, List.Nodup, List.pairwise_map]
  refine records.ascending.imp_of_mem ?_
  intro earlier later isEarlier isLater before same
  have sameKey : earlier.1 = later.1 :=
    distinct _ _ _ _ (OrderedMap.find?_eq_some_iff.mpr isEarlier)
      (OrderedMap.find?_eq_some_iff.mpr isLater) same
  rw [sameKey] at before
  exact OrderedMap.compare_self_ne_lt _ before

/-- A record is the first one found that is called as it is. -/
theorem Distinct.find?_eq_some
    (distinct : Distinct records called)
    {record : α}
    (member : record ∈ records.values)
    {test : α → Bool}
    (tests : ∀ other, test other = true ↔ called other = called record) :
    records.values.find? test = some record := by
  have isThere : (records.values.find? test).isSome := by
    rw [List.find?_isSome]
    exact ⟨record, member, (tests record).mpr rfl⟩
  obtain ⟨other, found⟩ := Option.isSome_iff_exists.mp isThere
  have same : called other = called record := (tests other).mp (List.find?_some found)
  obtain ⟨otherId, isOther⟩ := OrderedMap.mem_values_iff.mp (List.mem_of_find?_eq_some found)
  obtain ⟨id, isRecord⟩ := OrderedMap.mem_values_iff.mp member
  obtain rfl : otherId = id := distinct _ _ _ _ isOther isRecord same
  rw [isRecord] at isOther
  rw [found, isOther]

/-- What is found is a record that is called as it is asked for, and there is no other. -/
theorem Distinct.find?_eq_some_iff
    (distinct : Distinct records called)
    {call : β}
    {test : α → Bool}
    (tests : ∀ record, test record = true ↔ called record = call)
    {record : α} :
    records.values.find? test = some record ↔
      record ∈ records.values ∧ called record = call := by
  constructor
  · intro found
    exact ⟨List.mem_of_find?_eq_some found, (tests record).mp (List.find?_some found)⟩
  · rintro ⟨member, isCalled⟩
    apply distinct.find?_eq_some member
    intro other
    rw [tests, isCalled]

end Distinct

/-! ## The invariant -/

/-- What tells a secret from the others: its name and its version, or the empty one. -/
def calledSecret (secret : Secret) : String × String :=
  (secret.name, secret.version.getD "")

/-- What the store keeps of the names in it. -/
structure KeepsNames (store : Store) : Prop where
  clientsNamed : ∀ client ∈ store.clients.values, client.name ≠ ""
  groupsNamed : ∀ group ∈ store.groups.values, group.name ≠ ""
  secretsNamed : ∀ secret ∈ store.secrets.values, secret.name ≠ ""
  clients : Distinct store.clients Client.name
  groups : Distinct store.groups Group.name
  secrets : Distinct store.secrets calledSecret
  versions :
    ∀ id secret,
      store.secrets.find? id = some secret →
        secret.version = none ∨ secret.version = some (versionOf id)

section Parts

variable {α : Type} {records : OrderedMap Int64 α} {holds : α → Prop}

/-- What holds of all records and of a new one holds of all records with it. -/
private theorem forall_values_insert
    (all : ∀ record ∈ records.values, holds record)
    (id : Int64)
    {record : α}
    (isNew : holds record) :
    ∀ other ∈ (records.insert id record).values, holds other := by
  intro other member
  obtain ⟨key, found⟩ := OrderedMap.mem_values_iff.mp member
  rw [OrderedMap.find?_insert] at found
  split at found
  next =>
    cases found
    exact isNew
  next => exact all other (OrderedMap.mem_values_iff.mpr ⟨key, found⟩)

/-- What holds of all records holds of those that are left. -/
private theorem forall_values_erase
    (all : ∀ record ∈ records.values, holds record)
    (gone : Int64) :
    ∀ other ∈ (records.erase gone).values, holds other := by
  intro other member
  obtain ⟨key, found⟩ := OrderedMap.mem_values_iff.mp member
  rw [OrderedMap.find?_erase] at found
  split at found
  next => cases found
  next => exact all other (OrderedMap.mem_values_iff.mpr ⟨key, found⟩)

end Parts

theorem keepsNames_fresh : KeepsNames fresh where
  clientsNamed := nofun
  groupsNamed := nofun
  secretsNamed := nofun
  clients := nofun
  groups := nofun
  secrets := nofun
  versions := nofun

/-- Only a secret that is replaced is called like a new one: the version of that is its own. -/
theorem KeepsNames.eq_nextId
    {store : Store}
    (keeps : store.KeepsNames)
    {user : String}
    {input : SecretInput}
    (unused : store.hasSecretNamed input.name = true → input.withVersion = true)
    {id : Int64}
    {secret : Secret}
    (found : store.secrets.find? id = some secret)
    (same : calledSecret secret = calledSecret (store.newSecret user input)) :
    id = store.nextId := by
  obtain ⟨sameName, sameVersion⟩ := Prod.mk.inj same
  have member : secret ∈ store.secrets.values := OrderedMap.mem_values_iff.mpr ⟨id, found⟩
  have versioned : input.withVersion = true :=
    unused (hasSecretNamed_iff.mpr ⟨secret, member, sameName⟩)
  have isVersion : secret.version.getD "" = versionOf store.nextId := by
    rw [sameVersion, newSecret, versioned]
    rfl
  rcases keeps.versions id secret found with isNone | isSome
  · rw [isNone] at isVersion
    exact absurd isVersion.symm (versionOf_ne_empty _)
  · rw [isSome] at isVersion
    exact versionOf_injective isVersion

/-- The names in a store are kept by every change. -/
theorem KeepsNames.change
    {store after : Store}
    (keeps : store.KeepsNames)
    (change : Change store after) :
    after.KeepsNames := by
  cases change with
  | session _ _ => exact { keeps with }
  | group user input named unused =>
      have noneCalled := groupNamed?_eq_none_iff.mp unused
      refine { keeps with
        groupsNamed := forall_values_insert keeps.groupsNamed _ named
        groups := keeps.groups.insert ?_ }
      intro other found isFound same
      exact absurd ⟨found, OrderedMap.mem_values_iff.mpr ⟨other, isFound⟩, same⟩ noneCalled
  | client user input named unused =>
      have noneCalled := clientNamed?_eq_none_iff.mp unused
      refine { keeps with
        clientsNamed := forall_values_insert keeps.clientsNamed _ named
        clients := keeps.clients.insert ?_ }
      intro other found isFound same
      exact absurd ⟨found, OrderedMap.mem_values_iff.mpr ⟨other, isFound⟩, same⟩ noneCalled
  | secret user input named unused =>
      refine { keeps with
        secretsNamed := forall_values_insert keeps.secretsNamed _ named
        secrets := keeps.secrets.insert fun other found => keeps.eq_nextId unused
        versions := ?_ }
      intro id secret found
      rw [withSecret, OrderedMap.find?_insert] at found
      split at found
      next isNew =>
        cases found
        rw [isNew]
        unfold newSecret
        dsimp only
        split
        · exact .inr rfl
        · exact .inl rfl
      next => exact keeps.versions id secret found
  | groupGone id _ =>
      exact { keeps with
        groupsNamed := forall_values_erase keeps.groupsNamed id
        groups := keeps.groups.erase id }
  | clientGone id _ =>
      exact { keeps with
        clientsNamed := forall_values_erase keeps.clientsNamed id
        clients := keeps.clients.erase id }
  | secretGone id _ =>
      refine { keeps with
        secretsNamed := forall_values_erase keeps.secretsNamed id
        secrets := keeps.secrets.erase id
        versions := ?_ }
      intro other secret found
      rw [withoutSecret, OrderedMap.find?_erase] at found
      split at found
      next => cases found
      next => exact keeps.versions other secret found
  | clientLinked | clientUnlinked | secretLinked | secretUnlinked => exact { keeps with }

/-- Every store that can be reached keeps the names apart. -/
theorem Reachable.keepsNames
    {store : Store}
    (reachable : store.Reachable) :
    store.KeepsNames :=
  reachable.induct keepsNames_fresh KeepsNames.change

/-! ## Names and versions in use -/

/-- The secrets of a name. -/
def secretsOf
    (store : Store)
    (name : String) :
    List Secret :=
  store.secrets.values.filter fun secret => secret.name == name

/-- The secrets of a name are those that are called so. -/
theorem mem_secretsOf_iff
    {store : Store}
    {name : String}
    {secret : Secret} :
    secret ∈ store.secretsOf name ↔ secret ∈ store.secrets.values ∧ secret.name = name := by
  rw [secretsOf, List.mem_filter, beq_iff_eq]

/-- The versions of a name are those of its secrets, if there are any. -/
theorem versionsNamed?_eq
    (store : Store)
    (name : String) :
    store.versionsNamed? name =
      if store.secretsOf name = [] then none
      else some ((store.secretsOf name).filterMap Secret.version) := by
  rw [versionsNamed?, ← secretsOf]
  exact if_congr List.isEmpty_iff rfl rfl

/-- Whether every name in use means one object, or one for each version. -/
structure Unambiguous (store : Store) : Prop where
  clientsNamed : ∀ client ∈ store.clients.values, client.name ≠ ""
  groupsNamed : ∀ group ∈ store.groups.values, group.name ≠ ""
  secretsNamed : ∀ secret ∈ store.secrets.values, secret.name ≠ ""
  clients : (store.clients.values.map Client.name).Nodup
  groups : (store.groups.values.map Group.name).Nodup
  /-- At most one of the secrets of a name is without a version. -/
  unversioned : ∀ name, ((store.secretsOf name).filter (·.version.isNone)).length ≤ 1
  /-- The versions of the others differ. -/
  versions : ∀ name, ((store.secretsOf name).filterMap Secret.version).Nodup
  versionsNamed : ∀ secret ∈ store.secrets.values, secret.version ≠ some ""

namespace KeepsNames

variable {store : Store}

/-- A version is not empty. -/
theorem version_ne_empty
    (keeps : store.KeepsNames)
    {secret : Secret}
    (member : secret ∈ store.secrets.values) :
    secret.version ≠ some "" := by
  intro isEmpty
  obtain ⟨id, found⟩ := OrderedMap.mem_values_iff.mp member
  rcases keeps.versions id secret found with isNone | isSome
  · rw [isNone] at isEmpty
    cases isEmpty
  · rw [isSome] at isEmpty
    exact versionOf_ne_empty id (Option.some.inj isEmpty)

/-- Secrets of one name without a version are the same. -/
theorem length_unversioned_le
    (keeps : store.KeepsNames)
    (name : String) :
    ((store.secretsOf name).filter (·.version.isNone)).length ≤ 1 := by
  let unversioned := (store.secretsOf name).filter (·.version.isNone)
  have areSecrets : unversioned.Sublist store.secrets.values :=
    List.filter_sublist.trans List.filter_sublist
  have distinct : (unversioned.map calledSecret).Nodup :=
    keeps.secrets.nodup.sublist (areSecrets.map calledSecret)
  have sameCall : ∀ call ∈ unversioned.map calledSecret, call = (name, "") := by
    intro call member
    obtain ⟨secret, isUnversioned, rfl⟩ := List.mem_map.mp member
    obtain ⟨isNamed, isNone⟩ := List.mem_filter.mp isUnversioned
    rw [calledSecret, (mem_secretsOf_iff.mp isNamed).2, Option.isNone_iff_eq_none.mp isNone]
    rfl
  rw [List.eq_replicate_of_mem sameCall, List.length_map, List.nodup_replicate] at distinct
  exact distinct

/-- Versions of secrets of one name differ. -/
theorem nodup_versions
    (keeps : store.KeepsNames)
    (name : String) :
    ((store.secretsOf name).filterMap Secret.version).Nodup := by
  have distinct := List.pairwise_map.mp keeps.secrets.nodup
  rw [List.Nodup, List.pairwise_filterMap]
  refine (distinct.filter _).imp_of_mem ?_
  intro earlier later isEarlier isLater differ version isVersion other isOther same
  have earlierName := (mem_secretsOf_iff.mp isEarlier).2
  have laterName := (mem_secretsOf_iff.mp isLater).2
  apply differ
  rw [calledSecret, calledSecret, earlierName, laterName, isVersion, isOther, same]

/-- What the store keeps of names makes them unambiguous. -/
theorem unambiguous (keeps : store.KeepsNames) : store.Unambiguous where
  clientsNamed := keeps.clientsNamed
  groupsNamed := keeps.groupsNamed
  secretsNamed := keeps.secretsNamed
  clients := keeps.clients.nodup
  groups := keeps.groups.nodup
  unversioned := keeps.length_unversioned_le
  versions := keeps.nodup_versions
  versionsNamed _ := keeps.version_ne_empty

/-! ## Look-ups -/

/-- A client is found by its own name. -/
theorem clientNamed?_eq
    (keeps : store.KeepsNames)
    {client : Client}
    (member : client ∈ store.clients.values) :
    store.clientNamed? client.name = some client :=
  keeps.clients.find?_eq_some member fun _ => beq_iff_eq

/-- A group is found by its own name. -/
theorem groupNamed?_eq
    (keeps : store.KeepsNames)
    {group : Group}
    (member : group ∈ store.groups.values) :
    store.groupNamed? group.name = some group :=
  keeps.groups.find?_eq_some member fun _ => beq_iff_eq

/-- A secret is found by its name and its version, or by the empty version if it has none. -/
theorem secretNamed?_eq
    (keeps : store.KeepsNames)
    {secret : Secret}
    (member : secret ∈ store.secrets.values) :
    store.secretNamed? secret.name (secret.version.getD "") = some secret := by
  refine keeps.secrets.find?_eq_some member fun other => ?_
  rw [Bool.and_eq_true, beq_iff_eq, beq_iff_eq, calledSecret, calledSecret, Prod.mk.injEq]

/-- A name finds the only client that is called so. -/
theorem clientNamed?_eq_some_iff
    (keeps : store.KeepsNames)
    {name : String}
    {client : Client} :
    store.clientNamed? name = some client ↔
      client ∈ store.clients.values ∧ client.name = name :=
  keeps.clients.find?_eq_some_iff fun _ => beq_iff_eq

/-- A name finds the only group that is called so. -/
theorem groupNamed?_eq_some_iff
    (keeps : store.KeepsNames)
    {name : String}
    {group : Group} :
    store.groupNamed? name = some group ↔
      group ∈ store.groups.values ∧ group.name = name :=
  keeps.groups.find?_eq_some_iff fun _ => beq_iff_eq

/-- A name and a version find the only secret that has both; the empty version is that of none. -/
theorem secretNamed?_eq_some_iff
    (keeps : store.KeepsNames)
    {name version : String}
    {secret : Secret} :
    store.secretNamed? name version = some secret ↔
      secret ∈ store.secrets.values ∧ secret.name = name ∧ secret.version.getD "" = version := by
  have tests (other : Secret) :
      (other.name == name && other.version.getD "" == version) = true ↔
        calledSecret other = (name, version) := by
    simp [calledSecret]
  rw [secretNamed?, keeps.secrets.find?_eq_some_iff tests, calledSecret, Prod.mk.injEq]

/--
Every version of a name belongs to one of the secrets of that name. Secrets of one name and one
version are the same one.
-/
theorem mem_versions_iff
    (keeps : store.KeepsNames)
    {name version : String} :
    version ∈ (store.secretsOf name).filterMap Secret.version ↔
      ∃! secret, secret ∈ store.secretsOf name ∧ secret.version = some version := by
  rw [List.mem_filterMap]
  constructor
  · rintro ⟨secret, member, isVersion⟩
    refine ⟨secret, ⟨member, isVersion⟩, ?_⟩
    rintro other ⟨isThere, isOther⟩
    obtain ⟨isSecret, isName⟩ := mem_secretsOf_iff.mp member
    obtain ⟨isOtherSecret, otherName⟩ := mem_secretsOf_iff.mp isThere
    have found := keeps.secretNamed?_eq isSecret
    have otherFound := keeps.secretNamed?_eq isOtherSecret
    rw [isName, isVersion] at found
    rw [otherName, isOther, found] at otherFound
    exact (Option.some.inj otherFound).symm
  · rintro ⟨secret, isVersioned, -⟩
    exact ⟨secret, isVersioned⟩

end KeepsNames

/--
In a reachable store no name is empty, and every name means one object, or one for each version.
So whatever has a session and looks for an object by its name, or by its name and its version, is
told that object; and the list of the versions of a name has one entry for each secret of that
name with a version.
-/
theorem names_mean_one_object
    {store : Store}
    (reachable : store.Reachable) :
    store.Unambiguous ∧
      (∀ client ∈ store.clients.values,
        store.clientNamed? client.name = some client ∧
          store.Tells (.findClient client.name) (Client.codec.write client)) ∧
      (∀ group ∈ store.groups.values,
        store.groupNamed? group.name = some group ∧
          store.Tells (.findGroup group.name) (Group.codec.write group)) ∧
      (∀ secret ∈ store.secrets.values,
        store.secretNamed? secret.name (secret.version.getD "") = some secret ∧
          store.Tells (.findSecret secret.name (secret.version.getD ""))
            (Secret.codec.write secret)) ∧
      ∀ name,
        (store.secretsOf name = [] → store.versionsNamed? name = none) ∧
          (store.secretsOf name ≠ [] →
            ∃ versions,
              store.versionsNamed? name = some versions ∧
                store.Tells (.listVersions name) (Json.Codec.text.array.write versions) ∧
                versions.Nodup ∧
                ∀ version,
                  version ∈ versions ↔
                    ∃! secret,
                      secret ∈ store.secretsOf name ∧ secret.version = some version) := by
  have keeps := reachable.keepsNames
  refine ⟨keeps.unambiguous, fun client member => ?client, fun group member => ?group,
    fun secret member => ?secret, fun name => ⟨fun isEmpty => ?absent, fun notEmpty => ?listed⟩⟩
  case client =>
    have found := keeps.clientNamed?_eq member
    refine ⟨found, tells_of_execute fun user => ?_⟩
    rw [execute, found]
    rfl
  case group =>
    have found := keeps.groupNamed?_eq member
    refine ⟨found, tells_of_execute fun user => ?_⟩
    rw [execute, found]
    rfl
  case secret =>
    have found := keeps.secretNamed?_eq member
    refine ⟨found, tells_of_execute fun user => ?_⟩
    rw [execute, found]
    rfl
  case absent =>
    unfold secretsOf at isEmpty
    rw [versionsNamed?, isEmpty]
    rfl
  case listed =>
    have found :
        store.versionsNamed? name = some ((store.secretsOf name).filterMap Secret.version) := by
      rw [versionsNamed?]
      exact if_neg (by simpa [secretsOf] using notEmpty)
    refine ⟨_, found, tells_of_execute fun user => ?_, keeps.nodup_versions name,
      fun version => keeps.mem_versions_iff⟩
    rw [execute, found]
    rfl

/-- Three secrets of one name: the first without a version, the others with one. -/
private def rotation : List Arrival :=
  let secret (withVersion : String) : Arrival :=
    ⟨"", .posting "/admin/secrets" "t"
      ("\x7b\"name\":\"s\",\"content\":\"YQ==\",\"withVersion\":" ++ withVersion ++ "\x7d")⟩
  [.login "t", secret "false", secret "true", secret "true"]

/-- All three are in the store, and each is found by its version. -/
theorem names_mean_one_object_rotation :
    let store := (fresh.run rotation).2
    let secret (id : Int64) (version : Option String) : Secret :=
      ⟨id, "s", "", version, administrator, .empty⟩
    store.secrets.values =
        [secret 1 none, secret 2 (some "0000000000000002"),
          secret 3 (some "0000000000000003")] ∧
      store.secretNamed? "s" "" = some (secret 1 none) ∧
      store.secretNamed? "s" "0000000000000003" = some (secret 3 (some "0000000000000003")) := by
  intro store secret
  have stored :
      store.secrets.values =
        [secret 1 none, secret 2 (some "0000000000000002"),
          secret 3 (some "0000000000000003")] := by
    decide +kernel
  have found := (names_mean_one_object ⟨rotation, rfl⟩).2.2.2.1
  exact ⟨stored, (found (secret 1 none) (by simp [store, stored])).1,
    (found (secret 3 (some "0000000000000003")) (by simp [store, stored])).1⟩

end Store

end SecretsAdmin.Server
