import SecretsAdmin.Proofs.Client.Performing
import SecretsAdmin.Proofs.Server.Path

namespace SecretsAdmin.Client

/-!
# Where operations lead

The addresses of operations lead to resources of the server or to nothing. Only a login leads to
where sessions begin, however the name of a generator is written.
-/

namespace Operation

/-- The segments of an operation are plain, unless one is the name of a generator. -/
theorem segments_cases
    {operation : Operation}
    (noLogin : ¬operation.IsLogin) :
    (∃ word rest,
        operation.call.segments = "admin" :: word :: rest ∧
          word ≠ "login" ∧ ∀ segment ∈ word :: rest, Url.IsPlain segment) ∨
      ∃ generator rest,
        operation.call.segments = "admin" :: "secrets" :: "generators" :: generator :: rest ∧
          (rest = [] ∨ rest = ["batch"]) := by
  cases operation with
  | login username password => exact absurd ⟨username, password, rfl⟩ noLogin
  | isLoggedIn | allGroups | createGroup | groupByName | allSecrets | createSecret
  | secretByNameAndVersion | versionsOfSecret | allClients | createClient | clientByName =>
      exact .inl ⟨_, _, rfl, by decide, by decide⟩
  | groupDetails id | deleteGroup id | secretDetails id | deleteSecret id | clientDetails id
  | deleteClient id => exact .inl ⟨_, _, rfl, by decide, Server.plain_withId (by decide) id⟩
  | enrollClient member group | evictClient member group | grantSecret member group
  | revokeSecret member group =>
      exact .inl ⟨_, _, rfl, by decide, Server.plain_membership (by decide) member group⟩
  | generateSecrets generator => exact .inr ⟨generator, [], rfl, .inl rfl⟩
  | batchGenerateSecrets generator => exact .inr ⟨generator, ["batch"], rfl, .inr rfl⟩

section PathOf

variable {start : List String}

/--
However the name of a generator is written, its path leads to something below the secrets. Above the
generators is the directory of secrets, and no name leads further up.
-/
theorem exists_pathOf_generator
    {rest : List String}
    (kind : Url.SchemeKind)
    (isStart : start = [] ∨ start = [""])
    (generator : String)
    (isRest : rest = [] ∨ rest = ["batch"]) :
    ∃ name others,
      Url.pathOf kind start ("admin" :: "secrets" :: "generators" :: generator :: rest) =
          "admin" :: "secrets" :: name :: others ∧
        (∀ segment ∈ name :: others, Url.Undivided segment.toList) ∧
        Url.AreApart ("admin" :: "secrets" :: name :: others) := by
  let front := ["admin", "secrets", "generators"]
  have isFront : front.foldl (Url.addSegment kind) start = front :=
    Url.pathOf_plain isStart (by decide) (by decide)
  have isPath {name : String} {others : List String}
      (isMade : Url.addSegment kind front generator = "admin" :: "secrets" :: name :: others) :
      Url.pathOf kind start (front ++ generator :: rest) =
        "admin" :: "secrets" :: name :: (others ++ rest) := by
    rw [Url.pathOf, List.foldl_append, isFront, List.foldl_cons, isMade]
    rcases isRest with rfl | rfl
    · simp
    · rw [List.foldl_cons, Url.IsPlain.addSegment_eq (by decide), if_neg (by simp)]
      simp
  have undividedRest : ∀ segment ∈ rest, Url.Undivided segment.toList := by
    rcases isRest with rfl | rfl <;> decide
  have apartRest (segment : String) : Url.AreApart (segment :: rest) := by
    rcases isRest with rfl | rfl
    · exact .singleton segment
    · exact List.isChain_cons_cons.mpr ⟨fun _ => by decide, .singleton "batch"⟩
  rcases Url.addSegment_cases (show front ≠ [] by decide) (by decide) generator with
    same | ⟨_, name, rfl | rfl, undivided, added⟩
  · refine ⟨"generators", rest, isPath same, ?_, ?_⟩
    · exact List.forall_mem_cons.mpr ⟨by decide, undividedRest⟩
    · exact .cons (by decide) (.cons (by decide) (apartRest "generators"))
  · refine ⟨"generators", name :: rest, isPath added, ?_, ?_⟩
    · rw [List.forall_mem_cons, List.forall_mem_cons]
      exact ⟨by decide, undivided, undividedRest⟩
    · exact .cons (by decide) (.cons (by decide) (.cons (by decide) (apartRest name)))
  · refine ⟨name, rest, isPath added, ?_, ?_⟩
    · exact List.forall_mem_cons.mpr ⟨undivided, undividedRest⟩
    · exact .cons (by decide) (.cons (by decide) (apartRest name))

/-- Below the first segment, the path of an operation is one of resources. -/
theorem exists_pathOf
    {operation : Operation}
    (noLogin : ¬operation.IsLogin)
    (kind : Url.SchemeKind)
    (isStart : start = [] ∨ start = [""]) :
    ∃ segments,
      Url.pathOf kind start operation.call.segments = "admin" :: segments ∧
        segments ≠ ["login"] ∧
        (∀ segment ∈ segments, Url.Undivided segment.toList) ∧
        Url.AreApart ("admin" :: segments) := by
  rcases segments_cases noLogin with
    ⟨word, rest, isSegments, differs, plain⟩ | ⟨generator, rest, isSegments, isRest⟩
  · have allPlain : ∀ segment ∈ "admin" :: word :: rest, Url.IsPlain segment :=
      List.forall_mem_cons.mpr ⟨by decide, plain⟩
    refine ⟨word :: rest, ?_, ?_, fun segment member => (plain segment member).undivided, ?_⟩
    · rw [isSegments]
      exact Url.pathOf_plain isStart (by decide) allPlain
    · rintro ⟨⟩
      exact differs rfl
    · exact Url.areApart_of_plain allPlain
  · obtain ⟨name, others, isPath, undivided, apart⟩ :=
      exists_pathOf_generator kind isStart generator isRest
    rw [isSegments]
    refine ⟨"secrets" :: name :: others, isPath, by simp, ?_, apart⟩
    exact List.forall_mem_cons.mpr ⟨by decide, undivided⟩

end PathOf

end Operation

/-- Whether the addresses under a base lead to the server. -/
structure LeadsToServer (base : Url) : Prop where
  divided : base.WellDivided
  hasPath : ∃ path, base.path = .segments path
  hasAuthority : base.authority.isSome

namespace LeadsToServer

variable {connection : Connection} {url : Url}

/-- An operation that is no login does not lead to where sessions begin. -/
theorem route_ne_login
    {operation : Operation}
    (leads : LeadsToServer connection.base)
    (noLogin : ¬operation.IsLogin)
    (located : connection.locate operation.call.segments operation.call.query = .ok url) :
    Server.Route.ofPath? (Http.pathOf url.text) ≠ some .login := by
  obtain ⟨path, isPath⟩ := leads.hasPath
  obtain ⟨segments, followed, notLogin, undivided, -⟩ :=
    Operation.exists_pathOf noLogin connection.base.kind (Url.start_cases path)
  rw [(Url.pathOf_resolved leads.divided leads.hasAuthority isPath followed
    (List.forall_mem_cons.mpr ⟨by decide, undivided⟩) (Connection.resolve_of_locate located)).1]
  have noSlash : ∀ segment ∈ segments, '/' ∉ segment.toList :=
    fun segment member within => (undivided segment member '/' within).1 rfl
  rw [Server.Route.ofPath?_segmentsText noSlash notLogin]
  cases Server.Resource.ofSegments? segments <;> nofun

/-- However the name of a generator is written, its address leads to something below the secrets. -/
theorem exists_generatorRoute
    {generator : String}
    {rest : List String}
    {query : List (String × String)}
    (leads : LeadsToServer connection.base)
    (isRest : rest = [] ∨ rest = ["batch"])
    (located :
      connection.locate ("admin" :: "secrets" :: "generators" :: generator :: rest) query =
        .ok url) :
    ∃ name others,
      Server.Route.ofPath? (Http.pathOf url.text) =
        (Server.Resource.ofSegments? ("secrets" :: name :: others)).map .administration := by
  obtain ⟨path, isPath⟩ := leads.hasPath
  obtain ⟨name, others, followed, undivided, -⟩ :=
    Operation.exists_pathOf_generator connection.base.kind (Url.start_cases path) generator isRest
  have allUndivided :
      ∀ segment ∈ "admin" :: "secrets" :: name :: others, Url.Undivided segment.toList := by
    rw [List.forall_mem_cons, List.forall_mem_cons]
    exact ⟨by decide, by decide, undivided⟩
  refine ⟨name, others, ?_⟩
  rw [(Url.pathOf_resolved leads.divided leads.hasAuthority isPath followed allUndivided
    (Connection.resolve_of_locate located)).1]
  apply Server.Route.ofPath?_segmentsText
  · intro segment member within
    exact (allUndivided segment (List.mem_cons_of_mem _ member) '/' within).1 rfl
  · simp

theorem exists_loginRoute (leads : LeadsToServer connection.base) :
    ∃ url,
      connection.locate ["admin", "login"] [] = .ok url ∧
        Server.Route.ofPath? (Http.pathOf url.text) = some .login := by
  obtain ⟨path, isPath⟩ := leads.hasPath
  have plain : ∀ segment ∈ ["admin", "login"], Url.IsPlain segment := by decide
  obtain ⟨url, resolved, isTarget, -⟩ :=
    Url.pathOf_resolve leads.divided isPath (by decide) plain
  refine ⟨url, ?_, ?_⟩
  · rw [Connection.locate, resolved]
    rfl
  · rw [isTarget, if_pos leads.hasAuthority]
    decide +kernel

end LeadsToServer

/-- Under a base without an authority no operation leads anywhere, unless it is a login. -/
theorem Operation.route_eq_none
    {operation : Operation}
    {connection : Connection}
    {path : List String}
    {url : Url}
    (divided : connection.base.WellDivided)
    (isPath : connection.base.path = .segments path)
    (noAuthority : connection.base.authority = none)
    (noLogin : ¬operation.IsLogin)
    (located : connection.locate operation.call.segments operation.call.query = .ok url) :
    Server.Route.ofPath? (Http.pathOf url.text) = none := by
  obtain ⟨segments, followed, -, undivided, apart⟩ :=
    Operation.exists_pathOf noLogin connection.base.kind (Url.start_cases path)
  rw [(Url.pathOf_resolved_of_none divided noAuthority isPath followed (by decide)
    (List.forall_mem_cons.mpr ⟨by decide, undivided⟩) apart
    (Connection.resolve_of_locate located)).1]
  decide

end SecretsAdmin.Client
