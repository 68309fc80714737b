import SecretsAdmin.Proofs.Client.Addresses
import SecretsAdmin.Proofs.Client.Exchange
import SecretsAdmin.Proofs.Client.Locating

namespace SecretsAdmin.Client

/-!
# Calls for generators

The name of a generator is the only segment of a path that a caller chooses. A name of one or two
dots is left out of the path, tabs and line breaks are left out of every name, and dots that remain
are followed. Under every other name exactly the generator of that name is asked.
-/

/-- A call for a generator: for secrets of one payload, or of each of many. -/
inductive Generation where
  | one (parameters : Payload)
  | batch (parameters : List Payload)

namespace Generation

/-- The operation that calls the generator of a name. -/
def operation (generator : String) : Generation → Operation
  | one parameters => .generateSecrets generator parameters
  | batch parameters => .batchGenerateSecrets generator parameters

/-- What is sent to the generator. -/
def payload : Generation → Payload
  | one parameters => parameters
  | batch parameters => .list parameters

/-- The resource of the server that the call is meant for, under the name of the generator. -/
def resource (name : Server.Parameter) : Generation → Server.Resource
  | one _ => .generator name
  | batch _ => .batch name

/-- The segments behind the name of the generator. -/
def behind : Generation → List String
  | one _ => []
  | batch _ => ["batch"]

/-- Where the generator of a name is asked. -/
def place
    (generation : Generation)
    (generator : String) :
    List String :=
  ["admin", "secrets", "generators", generator] ++ generation.behind

/-- Where a call for the generator of a name leads. -/
def destination
    (generation : Generation)
    (generator : String) :
    List String :=
  (if generator = "." ∨ generator = ".." then ["admin", "secrets", "generators"]
    else if Url.bareSegment generator = ".." then ["admin", "secrets", ""]
    else if Url.bareSegment generator = "." then ["admin", "secrets", "generators", ""]
    else ["admin", "secrets", "generators", Url.bareSegment generator]) ++ generation.behind

end Generation

/-- Whether the name of a generator is a segment of its own, of which nothing is left out. -/
structure IsOwnSegment (generator : String) : Prop where
  unfollowed : generator ≠ "." ∧ generator ≠ ".."
  unbroken :
    '\t' ∉ generator.toList ∧ '\n' ∉ generator.toList ∧ '\r' ∉ generator.toList

/-! ## Names -/

/-- Nothing is left out of a segment exactly if it has neither tabs nor line breaks. -/
theorem bareSegment_eq_self_iff
    {generator : String} :
    Url.bareSegment generator = generator ↔
      '\t' ∉ generator.toList ∧ '\n' ∉ generator.toList ∧ '\r' ∉ generator.toList := by
  have isBare :
      Url.bareSegment generator = generator ↔
        Url.withoutBreaks generator.toList = generator.toList := by
    rw [Url.bareSegment, ← String.toList_inj, String.toList_ofList]
  rw [isBare, Url.withoutBreaks, List.filter_eq_self]
  simp only [Url.isBreak, Bool.not_eq_true', List.contains_eq_mem, decide_eq_false_iff_not]
  constructor
  · intro unbroken
    refine ⟨?_, ?_, ?_⟩ <;> exact fun within => unbroken _ within (by decide)
  · rintro ⟨noTab, noFeed, noReturn⟩ character within isBreak
    have breaks : character = '\t' ∨ character = '\n' ∨ character = '\r' := by
      simpa using isBreak
    rcases breaks with rfl | rfl | rfl <;> contradiction

namespace Generation

variable {generation : Generation} {generator : String}

/-- A call leads to the generator of a name exactly if the name is a segment of its own. -/
theorem destination_eq_place_iff :
    generation.destination generator = generation.place generator ↔ IsOwnSegment generator := by
  unfold destination place
  rw [List.append_left_inj]
  constructor
  · intro same
    split at same
    next => simp at same
    next unfollowed =>
      split at same
      next => simp at same
      next =>
        split at same
        next isHere =>
          obtain rfl : "" = generator := by simpa using same
          exact absurd isHere (by decide)
        next =>
          have isBare : Url.bareSegment generator = generator := by simpa using same
          exact ⟨not_or.mp unfollowed, bareSegment_eq_self_iff.mp isBare⟩
  · rintro ⟨unfollowed, unbroken⟩
    rw [bareSegment_eq_self_iff.mpr unbroken, if_neg (not_or.mpr unfollowed),
      if_neg unfollowed.2, if_neg unfollowed.1]

/-- Calls for generators at places of their own lead to one place only if they are of one kind. -/
theorem place_inj
    {other : Generation}
    {otherName : String}
    (same : other.place otherName = generation.place generator) :
    otherName = generator ∧ other.behind = generation.behind := by
  unfold place at same
  simpa using same

end Generation

/-! ## Addresses -/

namespace Generation

variable {kind : Url.SchemeKind}

/-- Words that need no encoding stand in a path as they are. -/
private theorem map_encodeSegment
    {words : List String}
    (plain : ∀ word ∈ words, Url.IsPlain word) :
    words.map (Url.encodeSegment kind) = words :=
  (List.map_congr_left fun word member => (plain word member).encodeSegment_eq kind).trans
    (List.map_id _)

theorem isPlain_behind (generation : Generation) :
    ∀ word ∈ generation.behind, Url.IsPlain word := by
  cases generation with
  | one _ => exact List.forall_mem_nil _
  | batch _ => exact List.forall_mem_singleton.mpr (by decide)

/-- In the place where a generator is asked, only its name needs to be encoded. -/
theorem map_encodeSegment_place
    (generation : Generation)
    (generator : String) :
    (generation.place generator).map (Url.encodeSegment kind) =
      generation.place (Url.encodeSegment kind generator) := by
  have isFront :
      ["admin", "secrets", "generators"].map (Url.encodeSegment kind) =
        ["admin", "secrets", "generators"] :=
    map_encodeSegment (by decide)
  rw [place, place, List.map_append, map_encodeSegment generation.isPlain_behind]
  exact congrArg (· ++ Url.encodeSegment kind generator :: generation.behind) isFront

/-- Behind a path, the segments behind the name of a generator are put as they are. -/
theorem foldl_behind
    {path : List String}
    (notSlash : path ≠ [""])
    (generation : Generation) :
    generation.behind.foldl (Url.addSegment kind) path =
      path ++ generation.behind.map (Url.encodeSegment kind) := by
  rw [map_encodeSegment generation.isPlain_behind]
  cases generation with
  | one _ => exact (List.append_nil path).symm
  | batch _ =>
      rw [behind, List.foldl_cons, List.foldl_nil, Url.IsPlain.addSegment_eq (by decide),
        if_neg notSlash]

/--
The path of a call is that of its destination. What stands in front of a name needs no encoding.
-/
theorem pathOf_place
    {start : List String}
    (isStart : start = [] ∨ start = [""])
    (generation : Generation)
    (generator : String) :
    Url.pathOf kind start (generation.place generator) =
      (generation.destination generator).map (Url.encodeSegment kind) := by
  let front := ["admin", "secrets", "generators"]
  have isFront : front.foldl (Url.addSegment kind) start = front :=
    Url.pathOf_plain isStart (by decide) (by decide)
  have isPath :
      Url.pathOf kind start (generation.place generator) =
        generation.behind.foldl (Url.addSegment kind)
          (Url.addSegment kind front generator) := by
    show Url.pathOf kind start (front ++ generator :: generation.behind) = _
    rw [Url.pathOf, List.foldl_append, isFront, List.foldl_cons]
  have unencoded
      {words : List String}
      (plain : ∀ word ∈ words, Url.IsPlain word)
      (notSlash : words ≠ [""]) :
      generation.behind.foldl (Url.addSegment kind) words =
        words.map (Url.encodeSegment kind) ++
          generation.behind.map (Url.encodeSegment kind) := by
    rw [foldl_behind notSlash, map_encodeSegment plain]
  rw [isPath, Url.addSegment_behind (by decide) (by decide), destination, List.map_append]
  split
  next => exact unencoded (by decide) (by decide)
  next =>
    split
    next => exact unencoded (by decide) (by decide)
    next =>
      split
      next => exact unencoded (by decide) (by decide)
      next =>
        have isFrontEncoded : front.map (Url.encodeSegment kind) = front :=
          map_encodeSegment (by decide)
        rw [foldl_behind (by simp [front]), ← isFrontEncoded]
        rfl

/-- Whatever a segment is, its encoding has no mark at which a path is divided. -/
private theorem undivided_encodeSegment
    (kind : Url.SchemeKind)
    (segment : String) :
    Url.Undivided (Url.encodeSegment kind segment).toList := by
  rw [Url.encodeSegment, String.toList_ofList]
  exact Url.undivided_segment kind segment.toList

/-- The address of a call, under the base of the connection. -/
def address
    (generation : Generation)
    (connection : Connection)
    (generator : String) :
    Url :=
  { connection.base with
    path :=
      .segments ((generation.destination generator).map (Url.encodeSegment connection.base.kind))
    query := none
    fragment := none }

section Address

variable {connection : Connection} {generation : Generation} {generator : String}

/-- The segments of a call are those of the place where the generator is asked. -/
theorem segments_call
    (generation : Generation)
    (generator : String) :
    (generation.operation generator).call.segments = generation.place generator := by
  cases generation <;> rfl

theorem locate_eq
    {path : List String}
    (isPath : connection.base.path = .segments path)
    (generation : Generation)
    (generator : String) :
    connection.locate (generation.operation generator).call.segments
        (generation.operation generator).call.query =
      .ok (generation.address connection generator) := by
  have noQuery : (generation.operation generator).call.query = [] := by
    cases generation <;> rfl
  have followed :
      Url.pathOf connection.base.kind (if path.isEmpty then [] else [""])
          (generation.place generator) =
        (generation.destination generator).map (Url.encodeSegment connection.base.kind) :=
    pathOf_place (Url.start_cases path) generation generator
  rw [segments_call, noQuery, Connection.locate, Url.resolve, isPath]
  dsimp only
  rw [followed]
  rfl

/-- Every destination is below one first segment. -/
theorem exists_destination
    (generation : Generation)
    (generator : String) :
    ∃ rest, generation.destination generator = "admin" :: rest := by
  unfold destination
  split
  next => exact ⟨_, rfl⟩
  next =>
    split
    next => exact ⟨_, rfl⟩
    next => split <;> exact ⟨_, rfl⟩

/-- The destination of a call is read again from its path. -/
theorem readPieces_address
    (connection : Connection)
    (generation : Generation)
    (generator : String) :
    Url.readPieces (generation.address connection generator).path.text =
      (generation.destination generator).map some := by
  obtain ⟨rest, isDestination⟩ := generation.exists_destination generator
  rw [address, isDestination]
  exact Url.readPieces_segmentsText _ _ _

/-- Under one base, addresses are the same exactly if the destinations are. -/
theorem text_address_inj
    {other : Generation}
    {otherName : String} :
    (other.address connection otherName).text = (generation.address connection generator).text ↔
      other.destination otherName = generation.destination generator := by
  constructor
  · intro same
    have samePath :
        (other.address connection otherName).path.text =
          (generation.address connection generator).path.text := by
      cases guarded : connection.base.guarded <;>
        simpa [Url.text, address, String.append_assoc, guarded] using same
    have samePieces := congrArg Url.readPieces samePath
    rw [readPieces_address, readPieces_address] at samePieces
    exact List.map_injective_iff.mpr (fun _ _ => Option.some.inj) samePieces
  · intro same
    rw [address, address, same]

/-- The request of a call is one to its address. -/
theorem url_of_request
    {path : List String}
    {request : Http.Request}
    (isPath : connection.base.path = .segments path)
    (isRequest : (generation.operation generator).call.request connection = .ok request) :
    request.url = (generation.address connection generator).text := by
  rcases Call.request_cases _ connection isPath with
    ⟨_, -, noRequest⟩ | ⟨-, ⟨_, -, noRequest⟩ | ⟨url, body, located, -, isFound⟩⟩
  · rw [noRequest] at isRequest
    cases isRequest
  · rw [noRequest] at isRequest
    cases isRequest
  · rw [locate_eq isPath] at located
    cases located
    rw [isFound] at isRequest
    cases isRequest
    rfl

/-- As far as the target of a request goes, the address of a call is its path. -/
theorem pathOf_address
    {path : List String}
    (divided : connection.base.WellDivided)
    (isPath : connection.base.path = .segments path)
    (hasAuthority : connection.base.authority.isSome)
    (generation : Generation)
    (generator : String) :
    Http.pathOf (generation.address connection generator).text =
      (generation.address connection generator).path.text := by
  let kind := connection.base.kind
  obtain ⟨rest, isDestination⟩ := generation.exists_destination generator
  have followed :
      Url.pathOf kind (if path.isEmpty then [] else [""])
          (generation.operation generator).call.segments =
        ("admin" :: rest).map (Url.encodeSegment kind) := by
    rw [segments_call, pathOf_place (Url.start_cases path), isDestination]
  have undivided :
      ∀ segment ∈ ("admin" :: rest).map (Url.encodeSegment kind),
        Url.Undivided segment.toList := by
    intro segment member
    obtain ⟨word, -, rfl⟩ := List.mem_map.mp member
    exact undivided_encodeSegment kind word
  have located := locate_eq isPath generation generator
  rw [(Url.pathOf_resolved divided hasAuthority isPath followed undivided
    (Connection.resolve_of_locate located)).1, address, isDestination]
  rfl

/-- Under a name that is a segment of its own, the server reads the name of the generator again. -/
theorem exists_route
    (divided : connection.base.WellDivided)
    {path : List String}
    (isPath : connection.base.path = .segments path)
    (hasAuthority : connection.base.authority.isSome)
    (named : generator ≠ "")
    (own : IsOwnSegment generator) :
    ∃ name : Server.Parameter,
      Server.Route.ofPath? (Http.pathOf (generation.address connection generator).text) =
          some (.administration (generation.resource name)) ∧
        name.text = .ok generator := by
  let kind := connection.base.kind
  let name : Server.Parameter := ⟨"name", Url.encodeSegment kind generator⟩
  have isPathText :
      (generation.address connection generator).path.text =
        Url.segmentsText (generation.place (Url.encodeSegment kind generator)) := by
    rw [address, destination_eq_place_iff.mpr own, map_encodeSegment_place]
    rfl
  have noSlash :
      ∀ segment ∈ "secrets" :: "generators" :: Url.encodeSegment kind generator ::
        generation.behind, '/' ∉ segment.toList := by
    simp only [List.forall_mem_cons]
    refine ⟨by decide, by decide, fun within => ?_, fun word member within => ?_⟩
    · exact (undivided_encodeSegment kind generator '/' within).1 rfl
    · exact ((generation.isPlain_behind word member).undivided '/' within).1 rfl
  have written : Url.encodeSegment kind generator ≠ "" := fun isEmpty =>
    named (Url.encodeSegment_injective kind isEmpty)
  refine ⟨name, ?_, ?_⟩
  · rw [pathOf_address divided isPath hasAuthority, isPathText]
    refine (Server.Route.ofPath?_segmentsText noSlash (by simp)).trans ?_
    cases generation with
    | one _ =>
        have isResource :
            Server.Resource.ofSegments? ["secrets", "generators", name.written] =
              some (.generator name) := by
          simp [Server.Resource.ofSegments?, Server.Resource.ending, written, name]
        exact congrArg (Option.map Server.Route.administration) isResource
    | batch _ => rfl
  · rw [Server.Parameter.text, Url.percentDecode_encodeSegment, Utf8.decode?_encode]

end Address

/-! ## Requests -/

/-- The request that posts a body to an address. -/
def posting
    (connection : Connection)
    (url : Url)
    (body : String) :
    Http.Request :=
  ⟨.post, url.text, connection.headers (some "application/json"), some body⟩

/-- What the request of a call for a generator asks, and which other calls ask the same. -/
structure Asks
    (generation : Generation)
    (connection : Connection)
    (generator body : String)
    (url : Url) :
    Prop where
  posted :
    (generation.operation generator).call.request connection =
      .ok (posting connection url body)
  /-- This request is sent, and no other. -/
  sent :
    ∀ script : Script,
      let call := (generation.operation generator).call
      (call.perform Script.transport connection script).state.asked =
        posting connection url body :: script.asked
  /-- Whatever the name is, the server is the one that the connection was established with. -/
  sameServer :
    url.scheme = connection.base.scheme ∧
      url.authority = connection.base.authority ∧
      url.query = none ∧
      url.fragment = none
  isPath : connection.base.authority.isSome → Http.pathOf url.text = url.path.text
  readsAs : Url.readPieces url.path.text = (generation.destination generator).map some
  /-- The name is read from the path again exactly if it is a segment of its own. -/
  readsAsPlace_iff :
    Url.readPieces url.path.text = (generation.place generator).map some ↔
      IsOwnSegment generator
  /-- The server takes it for the name of the generator, too. -/
  route :
    IsOwnSegment generator →
      connection.base.authority.isSome →
        ∃ name : Server.Parameter,
          Server.Route.ofPath? (Http.pathOf url.text) =
              some (.administration (generation.resource name)) ∧
            name.text = .ok generator
  sameUrl_iff :
    ∀ (other : Generation) (otherName : String) (request : Http.Request),
      (other.operation otherName).call.request connection = .ok request →
        (request.url = url.text ↔
          other.destination otherName = generation.destination generator)
  /-- Calls for names that are segments of their own do not meet, nor do calls of both kinds. -/
  apart :
    ∀ (other : Generation) (otherName : String) (request : Http.Request),
      (other.operation otherName).call.request connection = .ok request →
        IsOwnSegment generator →
          IsOwnSegment otherName →
            request.url = url.text →
              otherName = generator ∧ other.behind = generation.behind

end Generation

/--
A call for a generator posts its payload to the server of the connection. The segments of the path
are read again as they were given, and the generator of the name is asked, exactly if the name is
neither one nor two dots and has no tabs and no line breaks.
-/
theorem generators_asked_by_name
    {address : String}
    {connection : Connection}
    {generator body : String}
    {generation : Generation}
    (established : Connection.establish address = .ok { base := connection.base })
    (named : generator ≠ "")
    (printed : generation.payload.print = .ok body) :
    ∃ url, generation.Asks connection generator body url := by
  obtain ⟨divided, path, isPath⟩ := Connection.base_of_establish established
  have noComplaint : (generation.operation generator).call.complaint = none := by
    cases generation <;> exact if_neg (by simpa using named)
  have written : (generation.operation generator).call.task.body? = .ok (some body) := by
    cases generation <;> exact congrArg (Except.map some) printed
  have isTask :
      (generation.operation generator).call.task.method = .post ∧
        (generation.operation generator).call.task.contentType? = some "application/json" := by
    cases generation <;> exact ⟨rfl, rfl⟩
  have posted :
      (generation.operation generator).call.request connection =
        .ok (Generation.posting connection (generation.address connection generator) body) := by
    rw [Call.request_eq noComplaint (Generation.locate_eq isPath generation generator) written,
      isTask.1, isTask.2]
    rfl
  have readsAs := generation.readPieces_address connection generator
  have sameUrl_iff
      (other : Generation)
      (otherName : String)
      (request : Http.Request)
      (isRequest : (other.operation otherName).call.request connection = .ok request) :
      request.url = (generation.address connection generator).text ↔
        other.destination otherName = generation.destination generator := by
    rw [Generation.url_of_request isPath isRequest, Generation.text_address_inj]
  refine ⟨generation.address connection generator, posted, ?sent, ⟨rfl, rfl, rfl, rfl⟩, ?isPath,
    readsAs, ?readsAsPlace_iff, ?route, sameUrl_iff, ?apart⟩
  case sent =>
    intro script call
    rw [Call.perform_of_ok posted]
    exact congrArg Script.asked (Operation.state_exchange _ script)
  case isPath =>
    exact fun hasAuthority =>
      Generation.pathOf_address divided isPath hasAuthority generation generator
  case readsAsPlace_iff =>
    rw [readsAs, ← Generation.destination_eq_place_iff]
    exact (List.map_injective_iff.mpr fun _ _ => Option.some.inj).eq_iff
  case route =>
    exact fun own hasAuthority =>
      Generation.exists_route divided isPath hasAuthority named own
  case apart =>
    intro other otherName request isRequest own otherOwn same
    have sameDestination := (sameUrl_iff other otherName request isRequest).mp same
    rw [Generation.destination_eq_place_iff.mpr own,
      Generation.destination_eq_place_iff.mpr otherOwn] at sameDestination
    exact Generation.place_inj sameDestination

/-- A generator whose name begins like a way up, but whose slash is part of the name. -/
theorem generators_asked_by_name_slash :
    let connection : Connection := {
      base := {
        scheme := "http"
        authority := some { host := .domain "localhost", port := some 4444 }
        path := .segments [""] } }
    let generation : Generation := .batch [.map []]
    Connection.establish "http://localhost:4444" = .ok { base := connection.base } ∧
      ∃ url,
        generation.Asks connection "../é" "[\x7b\x7d]" url ∧
          url.text = "http://localhost:4444/admin/secrets/generators/..%2F%C3%A9/batch" ∧
            Url.readPieces (Http.pathOf url.text) =
              ["admin", "secrets", "generators", "../é", "batch"].map some := by
  intro connection generation
  have established :
      Connection.establish "http://localhost:4444" = .ok { base := connection.base } := by
    decide +kernel
  have isText :
      ((generation.operation "../é").call.request connection).map Http.Request.url =
        .ok "http://localhost:4444/admin/secrets/generators/..%2F%C3%A9/batch" := by
    decide +kernel
  have own : IsOwnSegment "../é" := ⟨by decide, by decide⟩
  have printed : generation.payload.print = .ok "[\x7b\x7d]" := by
    decide +kernel
  have asked : ∃ url, generation.Asks connection "../é" "[\x7b\x7d]" url :=
    generators_asked_by_name established (by decide) printed
  obtain ⟨url, asks⟩ := asked
  rw [asks.posted] at isText
  refine ⟨established, url, asks, Except.ok.inj isText, ?_⟩
  rw [asks.isPath rfl]
  exact asks.readsAsPlace_iff.mpr own

/--
Names of dots: a tab between them leads out of the generators, one dot and two are asked at the same
place, and a call for many payloads at two dots is one for a single payload at another generator.
-/
theorem generators_of_dots_redirected :
    let connection : Connection := {
      base := {
        scheme := "http"
        authority := some { host := .domain "localhost", port := some 4444 }
        path := .segments [""] } }
    let asked (generation : Generation) (generator : String) : Except Error String :=
      ((generation.operation generator).call.request connection).map Http.Request.url
    Connection.establish "http://localhost:4444" = .ok connection ∧
      asked (.one (.map [])) ".\t." = .ok "http://localhost:4444/admin/secrets/" ∧
        asked (.one (.map [])) "." = .ok "http://localhost:4444/admin/secrets/generators" ∧
          asked (.one (.map [])) ".." = asked (.one (.map [])) "." ∧
            asked (.batch []) ".." = asked (.one (.map [])) "batch" := by
  decide +kernel

end SecretsAdmin.Client
