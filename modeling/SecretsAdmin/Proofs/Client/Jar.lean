import Mathlib.Data.List.Nodup
import SecretsAdmin.Client.Session
import SecretsAdmin.Proofs.Text.Blank
import SecretsAdmin.Server.Request

namespace SecretsAdmin.Client

/-!
# Cookies that come back

A session keeps names and values that cannot be taken for anything else in a cookie header: names
without equals signs, no semicolons, and no blanks at the ends. So the server finds the very
cookies of the session in the header, and with them the token of the session.
-/

/-! ## Cookies that are kept -/

/-- Whether the name and the value of a cookie can be told apart in a header. -/
structure Cookie.IsClean (cookie : Cookie) : Prop where
  named : cookie.name.toList ≠ []
  nameTrimmed : Text.IsTrimmed cookie.name.toList
  noEquals : '=' ∉ cookie.name.toList
  nameUndivided : ';' ∉ cookie.name.toList
  valueTrimmed : Text.IsTrimmed cookie.value.toList
  valueUndivided : ';' ∉ cookie.value.toList

namespace Cookie

private theorem not_mem_cutOrWhole
    (mark : Char)
    (whole : List Char) :
    mark ∉ (Text.cutOrWhole mark whole).1 := by
  unfold Text.cutOrWhole
  cases isCut : Text.cutAt? mark whole with
  | none => exact Text.cutAt?_eq_none_iff.mp isCut
  | some parts => exact (Text.cutAt?_eq_some_iff.mp isCut).2

/-- Every cookie that is taken from what a server gives is clean. -/
theorem isClean_of_given
    {given : String}
    {cookie : Cookie}
    (isGiven : ofGiven? given = some cookie) :
    cookie.IsClean := by
  have undivided := not_mem_cutOrWhole ';' given.toList
  unfold ofGiven? at isGiven
  generalize Text.cutOrWhole ';' given.toList = parts at isGiven undivided
  obtain ⟨⟨name, value⟩, isCut, isKept⟩ := Option.bind_eq_some_iff.mp isGiven
  obtain ⟨divided, noEquals⟩ := Text.cutAt?_eq_some_iff.mp isCut
  dsimp only at isKept
  split at isKept
  next => cases isKept
  next isNamed =>
    cases isKept
    rw [divided, List.mem_append, List.mem_cons, not_or, not_or] at undivided
    refine ⟨?_, ?_, ?_, ?_, ?_, ?_⟩ <;> simp only [String.toList_ofList]
    · exact fun isEmpty => isNamed (List.isEmpty_iff.mpr isEmpty)
    · exact Text.isTrimmed_trimBlanks name
    · exact fun member => noEquals (Text.mem_of_mem_trimBlanks member)
    · exact fun member => undivided.1 (Text.mem_of_mem_trimBlanks member)
    · exact Text.isTrimmed_trimBlanks value
    · exact fun member => undivided.2.2 (Text.mem_of_mem_trimBlanks member)

namespace IsClean

variable {cookie : Cookie}

private theorem toList_text (cookie : Cookie) :
    cookie.text.toList = cookie.name.toList ++ '=' :: cookie.value.toList := by
  simp [text]

theorem undivided_text (clean : cookie.IsClean) : ';' ∉ cookie.text.toList := by
  rw [toList_text, List.mem_append, List.mem_cons, not_or, not_or]
  exact ⟨clean.nameUndivided, by decide, clean.valueUndivided⟩

/-- Neither the name nor the value brings a blank to an end of the text of a cookie. -/
theorem isTrimmed_text (clean : cookie.IsClean) : Text.IsTrimmed cookie.text.toList where
  head first isFirst := by
    obtain ⟨nameFirst, nameRest, isName⟩ := List.exists_cons_of_ne_nil clean.named
    rw [toList_text, isName] at isFirst
    exact clean.nameTrimmed.head first (isName ▸ isFirst)
  last last isLast := by
    rw [toList_text, List.getLast?_append_of_ne_nil _ (List.cons_ne_nil _ _)] at isLast
    cases isValue : cookie.value.toList with
    | nil =>
        rw [isValue] at isLast
        cases isLast
        rfl
    | cons first rest =>
        rw [isValue, List.getLast?_cons_cons, ← isValue] at isLast
        exact clean.valueTrimmed.last last isLast

/-- The first equals sign stands behind the name, whatever is in the value. -/
theorem cut_text (clean : cookie.IsClean) :
    Text.cutAt? '=' cookie.text.toList = some (cookie.name.toList, cookie.value.toList) :=
  Text.cutAt?_eq_some_iff.mpr ⟨toList_text cookie, clean.noEquals⟩

end IsClean

end Cookie

/-! ## Jars -/

namespace Session

/-- Whether a session can have come about by keeping cookies. -/
structure IsJar (session : Session) : Prop where
  clean : ∀ cookie ∈ session.cookies, cookie.IsClean
  distinct : (session.cookies.map Cookie.name).Nodup

theorem mem_place
    {cookie other : Cookie}
    {cookies : List Cookie}
    (member : other ∈ place cookie cookies) :
    other = cookie ∨ other ∈ cookies := by
  induction cookies with
  | nil => exact .inl (List.mem_singleton.mp member)
  | cons first rest inductionHypothesis =>
      unfold place at member
      split at member
      next =>
        exact (List.mem_cons.mp member).imp_right (List.mem_cons_of_mem _)
      next =>
        rcases List.mem_cons.mp member with isFirst | inRest
        · exact .inr (isFirst ▸ List.mem_cons_self)
        · exact (inductionHypothesis inRest).imp_right (List.mem_cons_of_mem _)

/-- A name that is not there yet comes last. -/
theorem map_name_place
    (cookie : Cookie)
    (cookies : List Cookie) :
    (place cookie cookies).map Cookie.name =
      if cookie.name ∈ cookies.map Cookie.name then cookies.map Cookie.name
      else cookies.map Cookie.name ++ [cookie.name] := by
  induction cookies with
  | nil => rfl
  | cons first rest inductionHypothesis =>
      unfold place
      by_cases sameName : first.name = cookie.name
      · simp [sameName]
      · have otherName : cookie.name ≠ first.name := Ne.symm sameName
        rw [if_neg sameName, List.map_cons, inductionHypothesis, List.map_cons]
        simp only [List.mem_cons, otherName, false_or]
        split <;> rfl

/-- A cookie takes the place of the one with its name, so no name comes in twice. -/
theorem nodup_place
    {cookies : List Cookie}
    (distinct : (cookies.map Cookie.name).Nodup)
    (cookie : Cookie) :
    ((place cookie cookies).map Cookie.name).Nodup := by
  rw [map_name_place]
  split
  next => exact distinct
  next isNew => exact List.concat_eq_append ▸ distinct.concat isNew

theorem isJar_empty : IsJar {} where
  clean := nofun
  distinct := .nil

theorem IsJar.keep
    {session : Session}
    {cookie : Cookie}
    (jar : session.IsJar)
    (clean : cookie.IsClean) :
    (session.keep cookie).IsJar where
  clean other member := by
    rcases mem_place member with rfl | wasThere
    · exact clean
    · exact jar.clean other wasThere
  distinct := nodup_place jar.distinct cookie

/-- Whatever a server gives, a jar stays a jar. -/
theorem IsJar.store
    {session : Session}
    (jar : session.IsJar)
    (given : List String) :
    (session.store given).IsJar := by
  have clean : ∀ cookie ∈ given.filterMap Cookie.ofGiven?, cookie.IsClean := by
    intro cookie member
    obtain ⟨text, -, isGiven⟩ := List.mem_filterMap.mp member
    exact Cookie.isClean_of_given isGiven
  unfold Session.store
  generalize given.filterMap Cookie.ofGiven? = cookies at clean
  induction cookies generalizing session with
  | nil => exact jar
  | cons first rest inductionHypothesis =>
      exact inductionHypothesis (jar.keep (clean first List.mem_cons_self))
        fun cookie member => clean cookie (List.mem_cons_of_mem _ member)

/-- What is given may be kept in parts. -/
theorem store_append
    (session : Session)
    (given more : List String) :
    session.store (given ++ more) = (session.store given).store more := by
  unfold store
  rw [List.filterMap_append, List.foldl_append]

/-- The session after some responses, each with the cookies that it gives. -/
def ofResponses (responses : List (List String)) : Session :=
  responses.foldl store {}

theorem isJar_ofResponses (responses : List (List String)) :
    (ofResponses responses).IsJar := by
  unfold ofResponses
  have jar := isJar_empty
  generalize ({} : Session) = session at jar ⊢
  induction responses generalizing session with
  | nil => exact jar
  | cons first rest inductionHypothesis => exact inductionHypothesis _ (jar.store first)

/-- A jar has at most one cookie of a name, which is found by it. -/
theorem IsJar.value_eq_some_iff
    {session : Session}
    (jar : session.IsJar)
    {name value : String} :
    ((session.cookies.find? fun cookie => cookie.name == name).map Cookie.value) = some value ↔
      ⟨name, value⟩ ∈ session.cookies := by
  rw [Option.map_eq_some_iff]
  constructor
  · rintro ⟨cookie, found, rfl⟩
    have sameName := List.find?_some found
    rw [beq_iff_eq] at sameName
    rw [← sameName]
    exact List.mem_of_find?_eq_some found
  · intro member
    have isThere : (session.cookies.find? fun cookie => cookie.name == name).isSome := by
      rw [List.find?_isSome]
      exact ⟨_, member, beq_self_eq_true name⟩
    obtain ⟨cookie, found⟩ := Option.isSome_iff_exists.mp isThere
    have sameName := List.find?_some found
    rw [beq_iff_eq] at sameName
    obtain rfl : cookie = ⟨name, value⟩ :=
      List.inj_on_of_nodup_map jar.distinct (List.mem_of_find?_eq_some found) member sameName
    exact ⟨_, found, rfl⟩

/-! ## The header -/

private theorem intercalate_header (first : List Char) (others : List (List Char)) :
    [';', ' '].intercalate (first :: others) =
      [';'].intercalate (first :: others.map (' ' :: ·)) := by
  induction others generalizing first with
  | nil => rfl
  | cons second others inductionHypothesis =>
      rw [List.intercalate_cons_cons, inductionHypothesis, List.map_cons,
        List.intercalate_cons_cons]
      cases others with
      | nil => simp
      | cons third others => simp [List.intercalate_cons_cons]

/-- Between the semicolons of the header stand the texts of the cookies, but for blanks. -/
theorem IsJar.parts_header
    {session : Session}
    (jar : session.IsJar)
    {header : String}
    (isHeader : session.header? = some header) :
    (header.toList.splitOn ';').map Text.trimBlanks =
      session.cookies.map fun cookie => cookie.text.toList := by
  obtain ⟨cookies⟩ := session
  unfold header? at isHeader
  split at isHeader
  next => cases isHeader
  next notEmpty =>
    cases isHeader
    cases cookies with
    | nil => exact absurd rfl notEmpty
    | cons first others =>
        have undivided :
            ∀ part ∈ first.text.toList :: (others.map fun cookie => ' ' :: cookie.text.toList),
              ';' ∉ part := by
          intro part member
          rcases List.mem_cons.mp member with rfl | isOther
          · exact (jar.clean first List.mem_cons_self).undivided_text
          · obtain ⟨cookie, isThere, rfl⟩ := List.mem_map.mp isOther
            rw [List.mem_cons, not_or]
            exact ⟨by decide,
              (jar.clean cookie (List.mem_cons_of_mem _ isThere)).undivided_text⟩
        have trimmed (cookie : Cookie) (member : cookie ∈ first :: others) :
            Text.trimBlanks cookie.text.toList = cookie.text.toList :=
          (jar.clean cookie member).isTrimmed_text.trimBlanks_eq
        have isSplit := List.splitOn_intercalate ';' undivided (List.cons_ne_nil _ _)
        have isText :
            ("; ".intercalate ((first :: others).map Cookie.text)).toList =
              [';'].intercalate
                (first.text.toList :: others.map fun cookie => ' ' :: cookie.text.toList) := by
          rw [String.toList_intercalate, List.map_map, List.map_cons]
          refine (intercalate_header _ _).trans ?_
          rw [List.map_map]
          rfl
        rw [isText, isSplit, List.map_cons, List.map_map, trimmed first List.mem_cons_self,
          List.map_cons]
        refine congrArg (List.cons _) (List.map_congr_left fun cookie member => ?_)
        exact (Text.trimBlanks_cons rfl _).trans (trimmed cookie (List.mem_cons_of_mem _ member))

/-- Every part of the header is a cookie of the session, divided at its first equals sign. -/
theorem IsJar.cut_header
    {session : Session}
    (jar : session.IsJar)
    {header : String}
    (isHeader : session.header? = some header) :
    ((header.toList.splitOn ';').map fun part => Text.cutAt? '=' (Text.trimBlanks part)) =
      session.cookies.map fun cookie => some (cookie.name.toList, cookie.value.toList) := by
  have parts := congrArg (List.map (Text.cutAt? '=')) (jar.parts_header isHeader)
  rw [List.map_map, List.map_map] at parts
  exact parts.trans (List.map_congr_left fun cookie member => (jar.clean cookie member).cut_text)

/-- The server reads the cookies of the session, in their order. -/
theorem IsJar.cookiePairs_header
    {session : Session}
    (jar : session.IsJar)
    {header : String}
    (isHeader : session.header? = some header) :
    Server.Request.cookiePairs header =
      session.cookies.map fun cookie => (cookie.name, cookie.value) := by
  have pairs :=
    congrArg
      (List.filterMap (Option.map fun pair => (String.ofList pair.1, String.ofList pair.2)))
      (jar.cut_header isHeader)
  rw [List.filterMap_map, List.filterMap_map] at pairs
  refine pairs.trans ?_
  rw [← List.filterMap_eq_map]
  refine List.filterMap_congr fun cookie _ => ?_
  simp

/--
After any responses, the header of a session is divided at its semicolons and at the first equals
sign of every part into exactly the cookies of the session, in their order. As the only cookie
header of a request, if it is visible, it brings the value of the session cookie that the session
keeps, and nothing if it keeps none.
-/
theorem cookies_come_back
    {responses : List (List String)}
    {header : String}
    (isHeader : (ofResponses responses).header? = some header) :
    ((header.toList.splitOn ';').map fun part => Text.cutAt? '=' (Text.trimBlanks part)) =
        ((ofResponses responses).cookies.map fun cookie =>
          some (cookie.name.toList, cookie.value.toList)) ∧
      ∀ headers : Http.Headers,
        headers.values "cookie" = [header] →
          Http.isVisible header = true →
            (∀ token,
              Server.Request.sessionToken? headers = some token ↔
                ⟨"session", token⟩ ∈ (ofResponses responses).cookies) ∧
              (Server.Request.sessionToken? headers = none ↔
                ∀ cookie ∈ (ofResponses responses).cookies, cookie.name ≠ "session") := by
  have jar := isJar_ofResponses responses
  generalize ofResponses responses = session at isHeader jar ⊢
  refine ⟨jar.cut_header isHeader, fun headers isOnly isVisible => ?_⟩
  have token :
      Server.Request.sessionToken? headers =
        (session.cookies.find? fun cookie => cookie.name == "session").map Cookie.value := by
    unfold Server.Request.sessionToken?
    rw [isOnly, List.filter_cons_of_pos isVisible, List.filter_nil, List.flatMap_singleton,
      jar.cookiePairs_header isHeader]
    dsimp only
    rw [List.find?_map, Option.map_map]
    rfl
  rw [token]
  refine ⟨fun _ => jar.value_eq_some_iff, ?_⟩
  simp only [Option.map_eq_none_iff, List.find?_eq_none, beq_iff_eq]

/-- Two responses; the second one replaces the session cookie of the first. -/
private def twoResponses : List (List String) :=
  [["a=b=;Path=/", " session = k3y ", "sessions=x", "=;", "session"],
    ["session=new; HttpOnly", "session x="]]

/-- No other cookie is taken for the session cookie, and the newest one comes back. -/
theorem cookies_come_back_replaced :
    (ofResponses twoResponses).header? = some "a=b=; session=new; sessions=x; session x=" ∧
      Server.Request.sessionToken?
        [("Cookie", "a=b=; session=new; sessions=x; session x=")] = some "new" := by
  have isHeader :
      (ofResponses twoResponses).header? =
        some "a=b=; session=new; sessions=x; session x=" := by
    decide +kernel
  have comesBack := (cookies_come_back isHeader).2
    [("Cookie", "a=b=; session=new; sessions=x; session x=")] (by decide +kernel)
    (by decide +kernel)
  exact ⟨isHeader, (comesBack.1 "new").mpr (by decide +kernel)⟩

end Session

end SecretsAdmin.Client
