import SecretsAdmin.Proofs.Url.Target

namespace SecretsAdmin.Url

/-!
# Finding segments and queries again

Under a web scheme a base always has an authority and a path that begins with a slash, so the
address of segments and a query depends on nothing else of the base. Where every segment is put
into the path under its own name, the segments are found again between the slashes of the text.
-/

/-! ## Bases of web schemes -/

namespace Trail

theorem step_ne_nil
    (kind : SchemeKind)
    (set : EncodeSet)
    (trail : Trail)
    (written : List Char) :
    (trail.step kind set true written).segments ≠ [] := by
  unfold step
  dsimp only
  split
  next => simp [append]
  next =>
    split
    next => simp [append]
    next =>
      unfold enter
      dsimp only
      split
      next =>
        split
        next => simp
        next => split <;> simp [append]
      next => simp [append]

/-- Behind the last segment at least a slash is left. -/
theorem follow_ne_nil
    {written : List (List Char)}
    (notEmpty : written ≠ [])
    (kind : SchemeKind)
    (set : EncodeSet)
    (trail : Trail) :
    (trail.follow kind set written).segments ≠ [] := by
  induction written generalizing trail with
  | nil => contradiction
  | cons first rest inductionHypothesis =>
      cases rest with
      | nil => exact step_ne_nil kind set trail first
      | cons second others =>
          rw [follow]
          · exact inductionHypothesis (List.cons_ne_nil _ _) _
          · exact List.cons_ne_nil _ _

end Trail

theorem readPath_web_ne_nil (characters : List Char) :
    readPath .web characters ≠ [] := by
  have followed (rest : List Char) : readSegments .web rest ≠ [] :=
    Trail.follow_ne_nil (List.splitOnP_ne_nil _ _) _ _ _
  cases characters with
  | nil => exact List.cons_ne_nil _ _
  | cons first rest =>
      rw [readPath]
      split
      next => exact followed rest
      next => exact followed (first :: rest)

/-- A base under a web scheme: who is asked is known, and the path begins with a slash. -/
structure IsWebBase (base : Url) : Prop where
  kind : base.kind = .web
  authority : base.authority.isSome
  unguarded : base.guarded = false
  path : ∃ segments, base.path = .segments segments ∧ segments ≠ []

/-- What is read as an address under a web scheme is a base. -/
theorem isWebBase_of_parse
    {text : String}
    {base : Url}
    (parsed : Url.parse text = .ok base)
    (isWeb : base.kind = .web) :
    IsWebBase base := by
  unfold Url.parse at parsed
  split at parsed
  next => cases parsed
  next scheme rest _ =>
    dsimp only at parsed
    split at parsed
    next =>
      obtain ⟨⟨authority, segments⟩, read, parsed⟩ := exists_of_bind_eq_ok parsed
      cases parsed
      obtain ⟨found, -, read⟩ := exists_of_bind_eq_ok read
      cases read
      exact ⟨isWeb, rfl, rfl, _, rfl, readPath_web_ne_nil _⟩
    next isFile =>
      obtain ⟨found, -, parsed⟩ := exists_of_bind_eq_ok parsed
      cases parsed
      exact absurd (isWeb.symm.trans isFile) (by decide)
    next isOther =>
      obtain ⟨found, -, parsed⟩ := exists_of_bind_eq_ok parsed
      cases parsed
      exact absurd (isWeb.symm.trans isOther) (by decide)

/-- The address of segments and a query, from the scheme and the authority of a web base. -/
def webAddress
    (scheme : String)
    (authority : Option Authority)
    (segments : List String)
    (query : List (String × String)) :
    Url where
  scheme := scheme
  authority := authority
  path := .segments (pathOf .web [""] segments)
  query := if query.isEmpty then none else some (Form.encode query)

/-- Nothing else of a web base matters to the addresses under it. -/
theorem IsWebBase.resolve_eq
    {base : Url}
    (isBase : IsWebBase base)
    (segments : List String)
    (query : List (String × String)) :
    base.resolve segments query =
      .ok (webAddress base.scheme base.authority segments query) := by
  obtain ⟨path, isPath, notEmpty⟩ := isBase.path
  have noPath : ¬path.isEmpty = true := fun isEmpty => notEmpty (List.isEmpty_iff.mp isEmpty)
  unfold resolve
  rw [isPath]
  dsimp only
  rw [if_neg noPath, isBase.kind]
  simp [webAddress, isBase.unguarded]

/-! ## Reading addresses again -/

/-- The pieces behind the slashes of a path, as they are read; bytes that are no text are none. -/
def readPieces (path : String) : List (Option String) :=
  ((path.toList.drop 1).splitOn '/').map fun piece =>
    Utf8.decode? (percentDecode (Utf8.encode (String.ofList piece)))

/-- Segments are read again from the path that they make. -/
theorem readPieces_segmentsText
    (kind : SchemeKind)
    (first : String)
    (rest : List String) :
    readPieces (segmentsText ((first :: rest).map (encodeSegment kind))) =
      (first :: rest).map some := by
  have noSlash :
      ∀ name ∈ (first :: rest).map (encodeSegment kind), '/' ∉ name.toList := by
    intro name member isSlash
    obtain ⟨segment, -, rfl⟩ := List.mem_map.mp member
    rw [encodeSegment, String.toList_ofList] at isSlash
    exact (undivided_segment kind _ '/' isSlash).1 rfl
  have pieces := splitOn_segmentsText noSlash
  have begins :=
    toList_segmentsText (encodeSegment kind first) (rest.map (encodeSegment kind))
  have front : '/' ∉ ([] : List Char) := List.not_mem_nil
  rw [List.map_cons, begins] at pieces
  have behind := (List.splitOn_append_cons_self_of_not_mem front _).symm.trans pieces
  rw [readPieces, List.map_cons, begins, List.drop_one, List.tail_cons,
    (List.cons.inj behind).2, ← List.map_cons, List.map_map, List.map_map]
  refine List.map_congr_left fun segment _ => ?_
  dsimp only [Function.comp_apply]
  rw [String.ofList_toList, percentDecode_encodeSegment, Utf8.decode?_encode]

section Address

variable {scheme : String} {authority : Option Authority}

/-- The query of an address is the form of its pairs. -/
theorem query_webAddress
    (segments : List String)
    (query : List (String × String)) :
    (webAddress scheme authority segments query).query.getD "" = Form.encode query := by
  unfold webAddress
  cases query <;> rfl

theorem isSome_query_webAddress
    (segments : List String)
    (query : List (String × String)) :
    (webAddress scheme authority segments query).query.isSome ↔ query ≠ [] := by
  unfold webAddress
  cases query <;> simp

/-- The text of an address leads to the segments of the path and to the query. -/
theorem pathOf_text_webAddress
    {first : String}
    {rest : List String}
    {base : Url}
    (isBase : base.IsWebBase)
    (divided : base.WellDivided)
    (named : first ≠ "")
    (kept : ∀ segment ∈ first :: rest, IsKept .web segment)
    (query : List (String × String)) :
    let url := webAddress base.scheme base.authority (first :: rest) query
    Http.pathOf url.text = segmentsText ((first :: rest).map (encodeSegment .web)) ∧
      Http.queryOf url.text = url.query.getD "" := by
  obtain ⟨authority, isAuthority⟩ := Option.isSome_iff_exists.mp isBase.authority
  have isPath := pathOf_of_kept (.inr rfl) named kept
  have noNumber := not_mem_query query
  have undivided :
      ∀ name ∈ (first :: rest).map (encodeSegment .web), Undivided name.toList := by
    intro name member
    obtain ⟨segment, -, rfl⟩ := List.mem_map.mp member
    rw [encodeSegment, String.toList_ofList]
    exact undivided_segment .web _
  dsimp only
  refine pathOf_text ⟨divided.scheme, divided.schemeUndivided, divided.authority, fun _ => rfl⟩
    isAuthority (congrArg Path.segments isPath) noNumber rfl undivided

end Address

end SecretsAdmin.Url
