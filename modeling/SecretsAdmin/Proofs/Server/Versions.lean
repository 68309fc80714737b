import SecretsAdmin.Proofs.Server.Lifetime
import SecretsAdmin.Proofs.Server.Names

namespace SecretsAdmin.Server.Store

/-!
# Versions in the order of creation

A version is the identifier of its secret, written with as many digits as every other. So versions
come in the order of identifiers, and identifiers in the order of the requests that create secrets.
-/

/-! ## Versions and identifiers -/

/-- Whether a text is sixteen hexadecimal digits in lower case. -/
def IsVersion (text : String) : Prop :=
  text.length = 16 ∧ ∀ digit ∈ text.toList, Hex.IsLowerDigit digit

theorem isVersion_versionOf (id : Int64) : IsVersion (versionOf id) := by
  rw [IsVersion, versionOf, String.length_ofList, String.toList_ofList, Hex.length_fixed]
  exact ⟨rfl, fun digit member => Hex.isLowerDigit_of_mem_fixed member⟩

private theorem toNat_toUInt64
    {id : Int64}
    (least : 0 ≤ id) :
    (id.toUInt64.toNat : Int) = id.toInt := by
  rw [Int64.toNat_toUInt64_of_le least, Int64.toInt_eq_toNatClampNeg least]

/-- The number that the digits of a version stand for is the identifier. -/
theorem number?_versionOf
    {id : Int64}
    (least : 0 ≤ id) :
    (Hex.number? (versionOf id).toList).map Int.ofNat = some id.toInt := by
  rw [versionOf, String.toList_ofList, Hex.number?_fixed id.toUInt64.toNat_lt, Option.map_some]
  exact congrArg some (toNat_toUInt64 least)

/-- Versions come in the order of identifiers. -/
theorem encode_versionOf_lt_iff
    {left right : Int64}
    (isLeft : 0 ≤ left)
    (isRight : 0 ≤ right) :
    Utf8.encode (versionOf left) < Utf8.encode (versionOf right) ↔ left < right := by
  rw [versionOf, versionOf, Hex.encode_fixed_lt_iff left.toUInt64.toNat_lt right.toUInt64.toNat_lt,
    Int64.lt_iff_toInt_lt, ← toNat_toUInt64 isLeft, ← toNat_toUInt64 isRight, Int.ofNat_lt]

/-- A secret has no other version than that of its identifier. -/
theorem KeepsNames.eq_versionOf
    {store : Store}
    {secret : Secret}
    {version : String}
    (keeps : store.KeepsNames)
    (own : OwnIds store.secrets Secret.id)
    (member : secret ∈ store.secrets.values)
    (isVersion : secret.version = some version) :
    version = versionOf secret.id := by
  rcases keeps.versions secret.id secret (own.find?_eq_some member) with isNone | isOwn
  · rw [isNone] at isVersion
    cases isVersion
  · rw [isOwn] at isVersion
    exact (Option.some.inj isVersion).symm

/-! ## Requests that create secrets -/

/-- A generator makes secrets without versions. -/
theorem Generates.version_eq_none
    {user : String}
    {store after : Store}
    {inputs : List TemplateInput}
    {secrets : List Secret}
    (generates : Generates user store inputs secrets after) :
    ∀ secret ∈ secrets, secret.version = none := by
  induction generates with
  | done => exact nofun
  | next first _ inductionHypothesis =>
      obtain ⟨-, -, rfl, -⟩ := generateOne_eq_ok_iff.mp first
      exact List.forall_mem_cons.mpr ⟨rfl, inductionHypothesis⟩

/-- With a secret that has a version, a request creates nothing else. -/
theorem Passes.born_eq_singleton
    {store after : Store}
    {request : Request}
    {response : Http.Response}
    {gone : Option (Model.Kind × Int64)}
    {born : List Object}
    {secret : Secret}
    (passes : store.Passes request after response gone born)
    (member : .secret secret ∈ born)
    (versioned : secret.version ≠ none) :
    born = [.secret secret] := by
  have notGenerated {user inputs secrets final}
      (generates : Generates user store inputs secrets final) :
      .secret secret ∉ secrets.map Object.secret := by
    intro isGenerated
    obtain ⟨other, isOther, same⟩ := List.mem_map.mp isGenerated
    cases same
    exact versioned (generates.version_eq_none secret isOther)
  cases passes with
  | nothing => cases member
  | obeyed _ _ _ outcome =>
      cases outcome with
      | denied | told | deleted => cases member
      | created => rw [List.mem_singleton.mp member]
      | generated _ generates => exact absurd member (notGenerated generates)
      | brokenOff _ _ generates => exact absurd member (notGenerated generates)

/-- Whether a run creates a secret by an earlier request than another one. -/
def CreatesBefore
    (arrivals : List Arrival)
    (first second : Secret) :
    Prop :=
  ∃ earlier later,
    arrivals = earlier ++ later ∧
      .secret first ∈ fresh.births earlier ∧
      .secret second ∈ (fresh.run earlier).2.births later

section CreatesBefore

variable {arrivals : List Arrival} {first second : Secret}

/-- What was created before another secret stays so, whatever is asked later. -/
theorem CreatesBefore.append
    (before : CreatesBefore arrivals first second)
    (rest : List Arrival) :
    CreatesBefore (arrivals ++ rest) first second := by
  obtain ⟨earlier, later, rfl, isFirst, isSecond⟩ := before
  refine ⟨earlier, later ++ rest, List.append_assoc _ _ _, isFirst, ?_⟩
  rw [births_append]
  exact List.mem_append_left _ isSecond

theorem CreatesBefore.id_lt
    (few : fresh.issued arrivals < 2 ^ 63)
    (before : CreatesBefore arrivals first second) :
    first.id < second.id := by
  obtain ⟨earlier, later, rfl, isFirst, isSecond⟩ := before
  have ascending := (register_births few).ascending
  rw [births_append, List.map_append, List.pairwise_append] at ascending
  exact ascending.2.2 _ (List.mem_map_of_mem isFirst) _ (List.mem_map_of_mem isSecond)

/--
Of two secrets, one with a version and a greater identifier was created by a later request. New
objects have greater identifiers than all before, so their versions are new.
-/
theorem createsBefore_of_id_lt
    (few : fresh.issued arrivals < 2 ^ 63)
    (isFirst : .secret first ∈ fresh.births arrivals)
    (isSecond : .secret second ∈ fresh.births arrivals)
    (versioned : second.version ≠ none)
    (less : first.id < second.id) :
    CreatesBefore arrivals first second := by
  induction arrivals using List.reverseRecOn with
  | nil => cases isFirst
  | append_singleton earlier last inductionHypothesis =>
      have fewer := issued_lt_of_append few
      obtain ⟨gone, born, passes, turns⟩ := run_turns few
      have newcomers := turns.newcomers (inOrder_run fewer)
      rw [births_concat, newcomers] at isFirst isSecond
      rcases List.mem_append.mp isSecond with wasSecond | isNew
      · rcases List.mem_append.mp isFirst with wasFirst | isNew
        · exact (inductionHypothesis fewer wasFirst wasSecond).append _
        · have given := (register_births fewer).given _ wasSecond
          have greater := Int64.lt_of_le_of_lt given (turns.isGreater _ isNew)
          exact absurd less (Int64.lt_asymm greater)
      · have alone := passes.born_eq_singleton isNew versioned
        rw [alone] at isFirst newcomers
        rcases List.mem_append.mp isFirst with wasFirst | isSame
        · refine ⟨earlier, [last], rfl, wasFirst, ?_⟩
          rw [births, newcomers]
          exact List.mem_cons_self
        · cases List.mem_singleton.mp isSame
          exact absurd less Int64.lt_irrefl

end CreatesBefore

/-! ## Versions of stored secrets -/

section Stored

variable {arrivals : List Arrival} {name : String}

/-- What is stored was created. -/
theorem secret_mem_births
    {secret : Secret}
    (few : fresh.issued arrivals < 2 ^ 63)
    (member : secret ∈ (fresh.run arrivals).2.secrets.values) :
    .secret secret ∈ fresh.births arrivals :=
  (register_births few).recorded _ (secret_mem_objects_iff.mpr member)

/-- A stored version is that of an identifier which the run gave. -/
theorem eq_versionOf_of_mem_run
    {secret : Secret}
    {version : String}
    (few : fresh.issued arrivals < 2 ^ 63)
    (member : secret ∈ (fresh.run arrivals).2.secrets.values)
    (isVersion : secret.version = some version) :
    0 < secret.id ∧ version = versionOf secret.id := by
  have own := (inOrder_run few).consistent.secrets
  have keeps : (fresh.run arrivals).2.KeepsNames := Reachable.keepsNames ⟨arrivals, rfl⟩
  exact ⟨id_pos_of_mem_births few (secret_mem_births few member),
    keeps.eq_versionOf own member isVersion⟩

/-- Versions come in the order of the requests that created their secrets, whatever their names. -/
theorem encode_version_lt_iff
    {first second : Secret}
    {version other : String}
    (few : fresh.issued arrivals < 2 ^ 63)
    (isFirst : first ∈ (fresh.run arrivals).2.secrets.values)
    (isSecond : second ∈ (fresh.run arrivals).2.secrets.values)
    (ofFirst : first.version = some version)
    (ofSecond : second.version = some other) :
    Utf8.encode version < Utf8.encode other ↔ CreatesBefore arrivals first second := by
  obtain ⟨firstPos, rfl⟩ := eq_versionOf_of_mem_run few isFirst ofFirst
  obtain ⟨secondPos, rfl⟩ := eq_versionOf_of_mem_run few isSecond ofSecond
  rw [encode_versionOf_lt_iff (Int64.le_of_lt firstPos) (Int64.le_of_lt secondPos)]
  have versioned : second.version ≠ none := by
    rw [ofSecond]
    nofun
  exact ⟨createsBefore_of_id_lt few (secret_mem_births few isFirst)
    (secret_mem_births few isSecond) versioned, CreatesBefore.id_lt few⟩

/-- The secrets of a name that have a version. -/
def versionedSecrets
    (store : Store)
    (name : String) :
    List Secret :=
  (store.secretsOf name).filter (·.version.isSome)

theorem mem_versionedSecrets_iff
    {store : Store}
    {secret : Secret} :
    secret ∈ store.versionedSecrets name ↔
      secret ∈ store.secrets.values ∧ secret.name = name ∧ secret.version ≠ none := by
  rw [versionedSecrets, List.mem_filter, mem_secretsOf_iff, Option.isSome_iff_ne_none, and_assoc]

/-- The versions of a name are those of its secrets that have one. -/
theorem map_versionedSecrets
    (store : Store)
    (name : String) :
    (store.versionedSecrets name).map Secret.version =
      ((store.secretsOf name).filterMap Secret.version).map some := by
  unfold versionedSecrets
  induction store.secretsOf name with
  | nil => rfl
  | cons secret rest inductionHypothesis =>
      cases isVersion : secret.version <;> simp [isVersion, inductionHypothesis]

/-- Secrets of a name that have a version are listed in the order of their creation. -/
theorem versionedSecrets_inOrder
    (few : fresh.issued arrivals < 2 ^ 63)
    (name : String) :
    ((fresh.run arrivals).2.versionedSecrets name).Pairwise (CreatesBefore arrivals) := by
  have ascending := (inOrder_run few).consistent.secrets.pairwise_values
  refine ((ascending.filter _).filter _).imp_of_mem fun isFirst isSecond less => ?_
  obtain ⟨isFirst, -, -⟩ := mem_versionedSecrets_iff.mp isFirst
  obtain ⟨isSecond, -, versioned⟩ := mem_versionedSecrets_iff.mp isSecond
  exact createsBefore_of_id_lt few (secret_mem_births few isFirst)
    (secret_mem_births few isSecond) versioned less

end Stored

/-- Whether versions are in order, as texts and by the requests that created their secrets. -/
structure ListsInOrder
    (arrivals : List Arrival)
    (name : String)
    (versions : List String) :
    Prop where
  written : ∀ version ∈ versions, IsVersion version
  ascending : versions.Pairwise fun earlier later => Utf8.encode earlier < Utf8.encode later
  /-- They are those of the secrets of the name that have one, in the order of their creation. -/
  created :
    ∃ secrets : List Secret,
      secrets.map Secret.version = versions.map some ∧
        (∀ secret,
          secret ∈ secrets ↔
            secret ∈ (fresh.run arrivals).2.secrets.values ∧
              secret.name = name ∧ secret.version ≠ none) ∧
        secrets.Pairwise (CreatesBefore arrivals)

/-- The versions of the secrets of a name are in order. -/
theorem listsInOrder_versions
    {arrivals : List Arrival}
    (few : fresh.issued arrivals < 2 ^ 63)
    (name : String) :
    ListsInOrder arrivals name
      (((fresh.run arrivals).2.secretsOf name).filterMap Secret.version) where
  written version member := by
    obtain ⟨secret, isThere, isVersion⟩ := List.mem_filterMap.mp member
    have isStored := (mem_secretsOf_iff.mp isThere).1
    rw [(eq_versionOf_of_mem_run few isStored isVersion).2]
    exact isVersion_versionOf secret.id
  ascending := by
    have inOrder := versionedSecrets_inOrder few name
    rw [versionedSecrets, List.pairwise_filter] at inOrder
    rw [List.pairwise_filterMap]
    refine inOrder.imp_of_mem ?_
    intro first second isFirst isSecond created version isVersion other isOther
    refine (encode_version_lt_iff few (mem_secretsOf_iff.mp isFirst).1
      (mem_secretsOf_iff.mp isSecond).1 isVersion isOther).mpr (created ?_ ?_)
    · rw [isVersion]; rfl
    · rw [isOther]; rfl
  created :=
    ⟨(fresh.run arrivals).2.versionedSecrets name, map_versionedSecrets _ name,
      fun _ => mem_versionedSecrets_iff, versionedSecrets_inOrder few name⟩

/--
After a run that gives fewer than 2^63 identifiers, the versions of a name are listed as sixteen
digits each, in the order of their texts and of the creation of their secrets. A version is the
identifier of its secret in hexadecimal, so no two secrets have the same one. Of any two secrets,
that with the lesser version was created by an earlier request.
-/
theorem versions_follow_creation
    {arrivals : List Arrival}
    (few : fresh.issued arrivals < 2 ^ 63) :
    let store := (fresh.run arrivals).2
    (∀ name,
      (store.secretsOf name = [] → store.versionsNamed? name = none) ∧
        (store.secretsOf name ≠ [] →
          ∃ versions,
            store.versionsNamed? name = some versions ∧
              store.Tells (.listVersions name) (Json.Codec.text.array.write versions) ∧
              ListsInOrder arrivals name versions)) ∧
      (∀ secret ∈ store.secrets.values,
        ∀ version,
          secret.version = some version →
            (Hex.number? version.toList).map Int.ofNat = some secret.id.toInt ∧
              ∀ other ∈ store.secrets.values, other.version = some version → other = secret) ∧
      ∀ first ∈ store.secrets.values,
        ∀ second ∈ store.secrets.values,
          ∀ version other,
            first.version = some version →
              second.version = some other →
                (Utf8.encode version < Utf8.encode other ↔
                  CreatesBefore arrivals first second) := by
  intro store
  refine ⟨fun name => ⟨fun isEmpty => ?absent, fun notEmpty => ?listed⟩,
    fun secret member version isVersion => ⟨?number, fun other isOther same => ?unique⟩,
    fun first isFirst second isSecond version other ofFirst ofSecond => ?order⟩
  case absent => rw [versionsNamed?_eq, if_pos isEmpty]
  case listed =>
    have found := store.versionsNamed?_eq name
    rw [if_neg notEmpty] at found
    refine ⟨_, found, tells_of_execute fun user => ?_, listsInOrder_versions few name⟩
    rw [execute, found]
    rfl
  case number =>
    obtain ⟨pos, rfl⟩ := eq_versionOf_of_mem_run few member isVersion
    exact number?_versionOf (Int64.le_of_lt pos)
  case unique =>
    obtain ⟨-, ofSecret⟩ := eq_versionOf_of_mem_run few member isVersion
    obtain ⟨-, ofOther⟩ := eq_versionOf_of_mem_run few isOther same
    have own := (inOrder_run few).consistent.secrets
    have sameId := versionOf_injective (ofOther.symm.trans ofSecret)
    have found := own.find?_eq_some isOther
    rw [sameId, own.find?_eq_some member] at found
    exact (Option.some.inj found).symm
  case order => exact encode_version_lt_iff few isFirst isSecond ofFirst ofSecond

/--
Two secrets of a name with versions, the first of which is deleted; a batch of nine secrets; and one
more with a version of the same name.
-/
private def succession : List Arrival :=
  let secret : Arrival :=
    ⟨"", .posting "/admin/secrets" "t"
      "\x7b\"name\":\"s\",\"content\":\"YQ==\",\"withVersion\":true\x7d"⟩
  [.login "t", secret, secret,
    ⟨"", { Request.posting "/admin/secrets/1" "t" "" with method := "DELETE" }⟩,
    ⟨"", .posting "/admin/secrets/generators/templated/batch" "t"
      ("[\x7b\"name\":\"a\"\x7d,\x7b\"name\":\"b\"\x7d,\x7b\"name\":\"c\"\x7d," ++
        "\x7b\"name\":\"d\"\x7d,\x7b\"name\":\"e\"\x7d,\x7b\"name\":\"f\"\x7d," ++
        "\x7b\"name\":\"g\"\x7d,\x7b\"name\":\"h\"\x7d,\x7b\"name\":\"i\"\x7d]")⟩,
    secret]

/-- The version of the deleted secret is not given again, and the letters come behind the digits. -/
theorem versions_follow_creation_succession :
    let versions := ["0000000000000002", "000000000000000c"]
    fresh.issued succession = 12 ∧
      (fresh.run succession).2.versionsNamed? "s" = some versions ∧
      ListsInOrder succession "s" versions := by
  intro versions
  have computed :
      fresh.issued succession = 12 ∧
        (fresh.run succession).2.versionsNamed? "s" = some versions := by
    decide +kernel
  obtain ⟨issued, listed⟩ := computed
  have few : fresh.issued succession < 2 ^ 63 := by
    rw [issued]
    decide
  obtain ⟨absent, present⟩ := (versions_follow_creation few).1 "s"
  have notEmpty : (fresh.run succession).2.secretsOf "s" ≠ [] := by
    intro isEmpty
    rw [absent isEmpty] at listed
    cases listed
  obtain ⟨others, found, -, inOrder⟩ := present notEmpty
  cases listed.symm.trans found
  exact ⟨issued, listed, inOrder⟩

end SecretsAdmin.Server.Store
