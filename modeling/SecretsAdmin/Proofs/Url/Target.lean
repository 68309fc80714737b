import Mathlib.Data.List.Chain
import Mathlib.Data.List.TakeWhile
import SecretsAdmin.Http.Target
import SecretsAdmin.Proofs.Url.Authority
import SecretsAdmin.Proofs.Url.Segments

namespace SecretsAdmin.Url

/-!
# Addresses lead to their paths

An address under a base leads to the path of its segments: nothing of the scheme, the authority
and the query is taken for a part of the path. Which segments these are is shown for those that
need no encoding, and for one that may.
-/

/-! ## Plain segments -/

/-- Characters that stand for themselves everywhere in an address. -/
def plainCharacters : List Char :=
  "-0123456789abcdefghijklmnopqrstuvwxyz".toList

/-- Whether a segment is made of plain characters. -/
def IsPlain (segment : String) : Prop :=
  ∀ character ∈ segment.toList, character ∈ plainCharacters

instance (segment : String) : Decidable (IsPlain segment) :=
  decidable_of_iff (segment.toList.all plainCharacters.contains = true) (by simp [IsPlain])

/-- What a test says of all plain characters, it says of each in a plain text. -/
private theorem passes_of_plain
    {characters : List Char}
    {test : Char → Bool}
    (plain : ∀ character ∈ characters, character ∈ plainCharacters)
    (passed : plainCharacters.all test = true) :
    ∀ character ∈ characters, test character = true :=
  fun character member => List.all_eq_true.mp passed character (plain character member)

namespace IsPlain

variable {segment : String}

/-- A plain segment is its own encoding. -/
theorem encodeSegment_eq
    (plain : IsPlain segment)
    (kind : SchemeKind) :
    encodeSegment kind segment = segment := by
  have shown :
      ∀ character ∈ segment.toList,
        (percentCharacter (segmentSet kind) character == [character]) = true := by
    cases kind <;> exact passes_of_plain plain (by decide)
  have parts :
      segment.toList.flatMap (percentCharacter (segmentSet kind)) =
        segment.toList.flatMap fun character => [character] :=
    List.flatMap_congr fun character member => eq_of_beq (shown character member)
  rw [encodeSegment, percentEncode, parts, List.flatMap_singleton', String.ofList_toList]

theorem isDrive_eq (plain : IsPlain segment) : isDrive segment = false := by
  unfold isDrive
  split
  next letter mark isPair =>
    have noMark : ∀ mark ∈ segment.toList, (!(mark == ':' || mark == '|')) = true :=
      passes_of_plain plain (by decide)
    rw [(Bool.not_eq_true' _).mp (noMark mark (by simp [isPair])), Bool.and_false]
  next => rfl

private theorem dropWhile_isBreak
    {characters : List Char}
    (plain : ∀ character ∈ characters, character ∈ plainCharacters) :
    characters.dropWhile isBreak = characters := by
  have noBreak : ∀ character ∈ characters, (!isBreak character) = true :=
    passes_of_plain plain (by decide)
  cases characters with
  | nil => rfl
  | cons first rest =>
      rw [List.dropWhile_cons, (Bool.not_eq_true' _).mp (noBreak first List.mem_cons_self)]
      rfl

theorem cutDrive?_eq (plain : IsPlain segment) : cutDrive? segment.toList = none := by
  unfold cutDrive?
  rw [dropWhile_isBreak plain]
  split
  next => rfl
  next letter rest isSegment =>
    have isPlain : ∀ character ∈ rest, character ∈ plainCharacters :=
      fun character member => plain character (by simp [isSegment, member])
    rw [dropWhile_isBreak isPlain]
    split
    next => exact absurd (isPlain ':' List.mem_cons_self) (by decide)
    next => rfl

theorem not_mem
    {mark : Char}
    (plain : IsPlain segment)
    (notPlain : mark ∉ plainCharacters) :
    mark ∉ segment.toList :=
  fun member => notPlain (plain mark member)

theorem undivided (plain : IsPlain segment) : Undivided segment.toList := by
  intro character member
  refine ⟨?_, ?_, ?_⟩ <;> rintro rfl <;> exact absurd (plain _ member) (by decide)

/-- A plain segment stays as it is when percent signs are read. -/
theorem percentDecode_eq (plain : IsPlain segment) :
    percentDecode (Utf8.encode segment) = Utf8.encode segment := by
  have read := percentDecode_encodeSegment .other segment
  rwa [plain.encodeSegment_eq] at read

/-- A plain segment is neither followed nor a drive, and nothing in it is left out. -/
theorem isKept
    (plain : IsPlain segment)
    (kind : SchemeKind) :
    IsKept kind segment where
  unfollowed := by
    constructor <;> rintro rfl <;> exact absurd plain (by decide)
  unbroken character member := by
    have noBreak : ∀ character ∈ segment.toList, (!isBreak character) = true :=
      passes_of_plain plain (by decide)
    exact (Bool.not_eq_true' _).mp (noBreak character member)
  noDrive _ := by
    rw [plain.encodeSegment_eq]
    exact ⟨plain.isDrive_eq, plain.cutDrive?_eq⟩

/-- A plain segment is put behind a path as it is; it fills a path that is only a slash. -/
theorem addSegment_eq
    (plain : IsPlain segment)
    (kind : SchemeKind)
    (path : List String) :
    addSegment kind path segment = (if path = [""] then [] else path) ++ [segment] := by
  rw [(plain.isKept kind).addSegment_eq, plain.encodeSegment_eq]

end IsPlain

/-- Plain segments are the path themselves, unless the path begins with an empty one. -/
theorem pathOf_plain
    {kind : SchemeKind}
    {start : List String}
    {first : String}
    {rest : List String}
    (isStart : start = [] ∨ start = [""])
    (named : first ≠ "")
    (plain : ∀ segment ∈ first :: rest, IsPlain segment) :
    pathOf kind start (first :: rest) = first :: rest := by
  rw [pathOf_of_kept isStart named fun segment member => (plain segment member).isKept kind]
  exact (List.map_congr_left fun segment member =>
    (plain segment member).encodeSegment_eq kind).trans (List.map_id _)

/-- Segments are put behind nothing, or behind the slash of a base. -/
theorem start_cases (path : List String) :
    (if path.isEmpty then [] else [""]) = [] ∨ (if path.isEmpty then [] else [""]) = [""] := by
  cases path <;> simp

/-! ## Any segment -/

/-- Whatever a segment is, nothing in it is taken for the end of a segment, or of the path. -/
theorem undivided_segment
    (kind : SchemeKind)
    (written : List Char) :
    Undivided (percentEncode (segmentSet kind) written) := by
  refine undivided_percentEncode fun character _ shown => ?_
  intro other isOther
  cases List.mem_singleton.mp isOther
  refine ⟨?_, ?_, ?_⟩ <;> rintro rfl <;> cases kind <;> exact absurd shown (by decide)

/-- Whatever a segment is, it goes no further up than to the directory above a path. -/
theorem addSegment_cases
    {kind : SchemeKind}
    {path : List String}
    (notEmpty : path ≠ [])
    (notSlash : path ≠ [""])
    (segment : String) :
    addSegment kind path segment = path ∨
      ∃ front name,
        (front = path ∨ front = path.dropLast) ∧
          Undivided name.toList ∧
          addSegment kind path segment = front ++ [name] := by
  unfold addSegment
  by_cases noStep : segment = "." ∨ segment = ".."
  · exact .inl (if_pos noStep)
  · right
    rw [if_neg noStep, if_neg notSlash]
    unfold Trail.step
    dsimp only
    split
    next =>
      refine ⟨(Trail.above { segments := path }).segments, "", ?_, nofun, rfl⟩
      unfold Trail.above
      split
      next last _ =>
        by_cases isDrive : beginsWithDrive last = true
        · rw [if_pos isDrive]
          exact .inl rfl
        · rw [if_neg isDrive]
          exact .inr rfl
      next => exact .inl rfl
    next =>
      split
      next => exact ⟨path, "", .inl rfl, nofun, rfl⟩
      next =>
        have notFront : ¬(kind = .file ∧ path.isEmpty = true) := by
          rintro ⟨-, isEmpty⟩
          exact notEmpty (List.isEmpty_iff.mp isEmpty)
        unfold Trail.enter
        rw [if_neg notFront]
        refine ⟨path, _, .inl rfl, ?_, rfl⟩
        rw [String.toList_ofList]
        exact undivided_segment kind _

/-! ## Queries -/

/-- Whatever a query asks for, nothing in it is taken for the end of the query. -/
theorem undivided_encode (pairs : List (String × String)) :
    Undivided (Form.encode pairs).toList := by
  have isOctet (octet : UInt8) : Undivided (Form.encodeOctet octet) := by
    unfold Form.encodeOctet
    split
    next isPlain =>
      have arePlain :
          ∀ number < 256,
            Form.isPlain (UInt8.ofNat number) = true →
              Char.ofNat number ≠ '/' ∧ Char.ofNat number ≠ '?' ∧ Char.ofNat number ≠ '#' := by
        decide +kernel
      intro character member
      cases List.mem_singleton.mp member
      exact arePlain octet.toNat octet.toNat_lt (by rwa [UInt8.ofNat_toNat])
    · split
      · simp [Undivided]
      · exact undivided_percentTriple octet
  have isPart (part : String) : Undivided (Form.encodePart part) := by
    intro character member
    obtain ⟨octet, -, within⟩ := List.mem_flatMap.mp member
    exact isOctet octet character within
  unfold Form.encode
  rw [String.toList_ofList]
  refine Undivided.intercalate (by simp [Undivided]) fun written member => ?_
  obtain ⟨pair, -, rfl⟩ := List.mem_map.mp member
  refine (isPart pair.1).append ?_
  exact List.forall_mem_cons.mpr ⟨by decide, isPart pair.2⟩

/-- No number sign stands in the query of an address, whether there is one or not. -/
theorem not_mem_query (pairs : List (String × String)) :
    '#' ∉ ((if pairs.isEmpty then none else some (Form.encode pairs)).getD "").toList := by
  split
  · decide
  · exact fun member => (undivided_encode pairs '#' member).2.2 rfl

/-! ## Texts of paths -/

/-- A path begins with a slash and its first segment. -/
theorem toList_segmentsText
    (first : String)
    (rest : List String) :
    (segmentsText (first :: rest)).toList =
      '/' :: (first.toList ++ (segmentsText rest).toList) := by
  rw [segmentsText, String.append_assoc, String.toList_append, String.toList_append]
  rfl

/-- The segments of a path are found again between its slashes. -/
theorem splitOn_segmentsText
    {segments : List String}
    (noSlash : ∀ segment ∈ segments, '/' ∉ segment.toList) :
    (segmentsText segments).toList.splitOn '/' = [] :: segments.map String.toList := by
  have behind (front : List Char) (isFront : '/' ∉ front) :
      (front ++ (segmentsText segments).toList).splitOn '/' =
        front :: segments.map String.toList := by
    induction segments generalizing front with
    | nil => simpa [segmentsText] using List.splitOn_eq_singleton isFront
    | cons segment rest inductionHypothesis =>
        have isRest := inductionHypothesis
          (fun other member => noSlash other (List.mem_cons_of_mem _ member))
          segment.toList (noSlash segment List.mem_cons_self)
        rw [segmentsText, String.toList_append, String.toList_append, List.append_assoc]
        show (front ++ '/' :: (segment.toList ++ (segmentsText rest).toList)).splitOn '/' = _
        rw [List.splitOn_append_cons_self_of_not_mem isFront, isRest, List.map_cons]
  exact behind [] (by simp)

/-- Only the slashes of a path are not from its segments. -/
theorem not_mem_segmentsText
    {segments : List String}
    {mark : Char}
    (noSlash : mark ≠ '/')
    (absent : ∀ segment ∈ segments, mark ∉ segment.toList) :
    mark ∉ (segmentsText segments).toList := by
  induction segments with
  | nil => nofun
  | cons segment rest inductionHypothesis =>
      rw [segmentsText, String.toList_append, String.toList_append, List.mem_append,
        List.mem_append, not_or, not_or]
      refine ⟨⟨fun isSlash => noSlash (List.mem_singleton.mp isSlash), ?_⟩, ?_⟩
      · exact absent segment List.mem_cons_self
      · exact inductionHypothesis fun other member => absent other (List.mem_cons_of_mem _ member)

/-! ## From addresses to paths -/

/-- A scheme without a colon does not hide where the authority begins. -/
theorem behindAuthority_of_scheme
    {scheme rest : List Char}
    (noColon : ∀ character ∈ scheme, character ≠ ':') :
    Http.behindAuthority (scheme ++ rest) = Http.behindAuthority rest := by
  induction scheme with
  | nil => rfl
  | cons first others inductionHypothesis =>
      have differs : first ≠ ':' := noColon first List.mem_cons_self
      rw [List.cons_append, Http.behindAuthority]
      · exact inductionHypothesis fun character member =>
          noColon character (List.mem_cons_of_mem _ member)
      · rintro _ rfl
        contradiction

/-- The path begins where a text without dividers ends. -/
theorem dropWhile_of_undivided
    {front rest : List Char}
    (undivided : Undivided front) :
    (front ++ '/' :: rest).dropWhile
        (fun character => character ≠ '/' ∧ character ≠ '?') = '/' :: rest := by
  rw [List.dropWhile_append_of_pos]
  · simp
  · intro character member
    simp [(undivided character member).1, (undivided character member).2.1]

/-- A target that begins with a scheme is one behind an authority or none at all. -/
theorem locator_of_scheme
    {target : String}
    {scheme rest : List Char}
    (isTarget : target.toList = scheme ++ ':' :: rest)
    (noColon : ∀ character ∈ scheme, character ≠ ':')
    (undivided : Undivided scheme)
    (noNumber : '#' ∉ rest) :
    Http.locator target = (Http.behindAuthority (':' :: rest)).getD [] := by
  have whole : target.toList.takeWhile (· ≠ '#') = target.toList := by
    refine List.takeWhile_eq_self_iff.mpr fun character member => ?_
    rw [isTarget, List.mem_append, List.mem_cons] at member
    rcases member with inScheme | rfl | inRest
    · simpa using (undivided character inScheme).2.2
    · decide
    · simpa using (ne_of_mem_of_not_mem inRest noNumber)
  unfold Http.locator
  dsimp only
  rw [whole]
  split
  next others isWhole =>
    rw [isTarget] at isWhole
    cases scheme with
    | nil => cases isWhole
    | cons first others =>
        cases isWhole
        exact absurd rfl (undivided '/' List.mem_cons_self).1
  next isWhole =>
    rw [isTarget] at isWhole
    have length := congrArg List.length isWhole
    cases scheme with
    | nil => cases isWhole
    | cons first others => simp at length
  next => rw [isTarget, behindAuthority_of_scheme noColon]

/-- An address with an authority leads to the path of its segments, and to its query. -/
theorem pathOf_text
    {url : Url}
    {first : String}
    {rest : List String}
    {authority : Authority}
    (divided : url.WellDivided)
    (named : url.authority = some authority)
    (isPath : url.path = .segments (first :: rest))
    (noNumber : '#' ∉ (url.query.getD "").toList)
    (noFragment : url.fragment = none)
    (undivided : ∀ segment ∈ first :: rest, Undivided segment.toList) :
    Http.pathOf url.text = segmentsText (first :: rest) ∧
      Http.queryOf url.text = url.query.getD "" := by
  let path := (segmentsText (first :: rest)).toList
  let query := ((url.query.map ("?" ++ ·)).getD "").toList
  have isText :
      url.text.toList =
        url.scheme.toList ++ ':' :: '/' :: '/' :: (authority.text.toList ++ (path ++ query)) := by
    have unguarded := divided.unguarded (by simp [named])
    simp [text, named, isPath, noFragment, unguarded, Path.text, path, query]
  obtain ⟨others, isOthers⟩ : ∃ others, path = '/' :: others :=
    ⟨_, toList_segmentsText first rest⟩
  have isUndivided := divided.authority authority named
  have noNumberWithin : '#' ∉ path :=
    not_mem_segmentsText (by decide) fun segment member within =>
      (undivided segment member '#' within).2.2 rfl
  have noNumberBehind : '#' ∉ query := by
    cases isQuery : url.query with
    | none => simp [query, isQuery]
    | some asked => simpa [query, isQuery] using noNumber
  have isLocator : Http.locator url.text = path ++ query := by
    rw [locator_of_scheme isText divided.scheme divided.schemeUndivided]
    · rw [isOthers, List.cons_append, Http.behindAuthority, dropWhile_of_undivided isUndivided]
      rfl
    · simp only [List.mem_cons, List.mem_append, not_or]
      refine ⟨by decide, by decide, fun member => ?_, noNumberWithin, noNumberBehind⟩
      exact (isUndivided '#' member).2.2 rfl
  have noQuestion : '?' ∉ path :=
    not_mem_segmentsText (by decide) fun segment member within =>
      (undivided segment member '?' within).2.1 rfl
  have isCut : Text.cutOrWhole '?' (path ++ query) = (path, (url.query.getD "").toList) := by
    unfold Text.cutOrWhole
    cases isQuery : url.query with
    | none =>
        have none : Text.cutAt? '?' (path ++ query) = none :=
          Text.cutAt?_eq_none_iff.mpr (by simpa [query, isQuery] using noQuestion)
        rw [none]
        simp [query, isQuery]
    | some asked =>
        have some : Text.cutAt? '?' (path ++ query) = some (path, asked.toList) :=
          Text.cutAt?_eq_some_iff.mpr ⟨by simp [query, isQuery], noQuestion⟩
        rw [some]
        rfl
  rw [Http.pathOf, Http.queryOf, isLocator, isCut, String.ofList_toList, String.ofList_toList]
  exact ⟨rfl, rfl⟩

/-- No text without slashes hides what stands behind it, if no two slashes follow at once. -/
theorem behindAuthority_append
    {front rest : List Char}
    (noSlash : '/' ∉ front)
    (apart : ':' ∈ front → ∀ behind, rest ≠ '/' :: '/' :: behind) :
    Http.behindAuthority (front ++ rest) = Http.behindAuthority rest := by
  induction front with
  | nil => rfl
  | cons first others inductionHypothesis =>
      rw [List.mem_cons, not_or] at noSlash
      rw [List.cons_append, Http.behindAuthority]
      · exact inductionHypothesis noSlash.2 fun member => apart (List.mem_cons_of_mem _ member)
      · rintro behind rfl follows
        cases others with
        | nil => exact apart List.mem_cons_self behind follows
        | cons second _ =>
            rw [List.cons_append, List.cons.injEq] at follows
            rw [follows.1] at noSlash
            exact noSlash.2 List.mem_cons_self

/-- Whether no colon stands at the end of a segment before an empty one. -/
def AreApart (segments : List String) : Prop :=
  segments.IsChain fun before after => ':' ∈ before.toList → after ≠ ""

/-- A segment without colons can stand before any others. -/
theorem AreApart.cons
    {first : String}
    {rest : List String}
    (noColon : ':' ∉ first.toList)
    (apart : AreApart rest) :
    AreApart (first :: rest) :=
  List.IsChain.cons apart fun _ _ hasColon => absurd hasColon noColon

/-- Nothing in a path is taken for the two slashes before an authority. -/
theorem behindAuthority_segmentsText
    {segments : List String}
    {behind : List Char}
    (noSlash : ∀ segment ∈ segments, '/' ∉ segment.toList)
    (apart : AreApart segments)
    (noSlashBehind : '/' ∉ behind) :
    Http.behindAuthority ((segmentsText segments).toList ++ behind) = none := by
  induction segments with
  | nil =>
      have noneBehind : Http.behindAuthority (behind ++ []) = none :=
        behindAuthority_append noSlashBehind fun _ => nofun
      rwa [List.append_nil] at noneBehind
  | cons first rest inductionHypothesis =>
      rw [List.forall_mem_cons] at noSlash
      rw [toList_segmentsText, List.cons_append, List.append_assoc, Http.behindAuthority]
      · rw [behindAuthority_append noSlash.1]
        · exact inductionHypothesis noSlash.2 (List.IsChain.tail apart)
        · intro hasColon others follows
          cases rest with
          | nil =>
              rw [segmentsText, String.toList_empty, List.nil_append] at follows
              exact noSlashBehind (by simp [follows])
          | cons second more =>
              have named : second ≠ "" := List.IsChain.rel_head? apart rfl hasColon
              obtain ⟨letter, letters, isSecond⟩ :
                  ∃ letter letters, second.toList = letter :: letters :=
                List.exists_cons_of_ne_nil (by simpa using named)
              rw [toList_segmentsText, isSecond] at follows
              cases follows
              exact noSlash.2 second List.mem_cons_self (by simp [isSecond])
      · rintro _ ⟨⟩

/--
An address without an authority leads nowhere. Its path begins with one slash, and so does the guard
that may stand before it.
-/
theorem pathOf_text_of_none
    {url : Url}
    {first : String}
    {rest : List String}
    (divided : url.WellDivided)
    (named : url.authority = none)
    (isPath : url.path = .segments (first :: rest))
    (undividedQuery : Undivided (url.query.getD "").toList)
    (noFragment : url.fragment = none)
    (isFirst : first ≠ "")
    (undivided : ∀ segment ∈ first :: rest, Undivided segment.toList)
    (apart : AreApart (first :: rest)) :
    Http.pathOf url.text = "" ∧ Http.queryOf url.text = "" := by
  let path := (segmentsText (first :: rest)).toList
  let query := ((url.query.map ("?" ++ ·)).getD "").toList
  let guard := if url.guarded then ['/', '.'] else []
  have isText : url.text.toList = url.scheme.toList ++ ':' :: (guard ++ (path ++ query)) := by
    cases guarded : url.guarded <;>
      simp [text, named, isPath, noFragment, guarded, Path.text, path, query, guard]
  have noMark {mark : Char} (isMark : mark = '/' ∨ mark = '#') : mark ∉ query := by
    cases isQuery : url.query with
    | none => simp [query, isQuery]
    | some asked =>
        have notAsked : mark ∉ asked.toList := by
          intro member
          have divides := undividedQuery mark (by simpa [isQuery] using member)
          rcases isMark with rfl | rfl
          · exact divides.1 rfl
          · exact divides.2.2 rfl
        rcases isMark with rfl | rfl <;> simpa [query, isQuery] using notAsked
  have noNumber : '#' ∉ guard ++ (path ++ query) := by
    rw [List.mem_append, List.mem_append, not_or, not_or]
    refine ⟨?_, not_mem_segmentsText (by decide) ?_, noMark (.inr rfl)⟩
    · cases guarded : url.guarded <;> simp [guard, guarded]
    · exact fun segment member within => (undivided segment member '#' within).2.2 rfl
  have noneWithin : Http.behindAuthority (path ++ query) = none :=
    behindAuthority_segmentsText
      (fun segment member within => (undivided segment member '/' within).1 rfl) apart
      (noMark (.inl rfl))
  have single (behind : List Char) : guard ++ (path ++ query) ≠ '/' :: '/' :: behind := by
    obtain ⟨letter, letters, isLetters⟩ : ∃ letter letters, first.toList = letter :: letters :=
      List.exists_cons_of_ne_nil (by simpa using isFirst)
    have isPathText : path = '/' :: letter :: (letters ++ (segmentsText rest).toList) := by
      rw [← List.cons_append, ← isLetters]
      exact toList_segmentsText first rest
    have noSlash : letter ≠ '/' :=
      (undivided first List.mem_cons_self letter (by simp [isLetters])).1
    cases guarded : url.guarded <;> simp [guard, guarded, isPathText, noSlash]
  have isLocator : Http.locator url.text = [] := by
    rw [locator_of_scheme isText divided.scheme divided.schemeUndivided noNumber]
    have behindColon :
        Http.behindAuthority (':' :: (guard ++ (path ++ query))) =
          Http.behindAuthority (guard ++ (path ++ query)) := by
      have noSlash : '/' ∉ [':'] := by decide
      exact behindAuthority_append noSlash fun _ => single
    have behindGuard :
        Http.behindAuthority (guard ++ (path ++ query)) = Http.behindAuthority (path ++ query) := by
      apply behindAuthority_of_scheme
      cases guarded : url.guarded <;> simp [guard, guarded]
    rw [behindColon, behindGuard, noneWithin, Option.getD_none]
  rw [Http.pathOf, Http.queryOf, isLocator]
  exact ⟨rfl, rfl⟩

/-- An address under a base is divided as the base is. -/
theorem WellDivided.resolved
    {base : Url}
    (divided : base.WellDivided)
    (path : List String)
    (query : Option String) :
    WellDivided { base with path := .segments path, query, fragment := none } :=
  ⟨divided.scheme, divided.schemeUndivided, divided.authority, divided.unguarded⟩

/-- A base with the path and the query of a resource is the address of the resource. -/
theorem exists_of_resolve
    {base url : Url}
    {path segments : List String}
    {pairs : List (String × String)}
    (isPath : base.path = .segments path)
    (resolved : base.resolve segments pairs = .ok url) :
    ∃ query : Option String,
      query.getD "" = Form.encode pairs ∧
        url = { base with
          path := .segments (pathOf base.kind (if path.isEmpty then [] else [""]) segments)
          query
          fragment := none } := by
  unfold resolve at resolved
  rw [isPath] at resolved
  cases resolved
  refine ⟨_, ?_, rfl⟩
  cases pairs <;> rfl

section Resolved

variable {base url : Url} {path segments : List String} {pairs : List (String × String)}
variable {first : String} {rest : List String}

/-- An address under a base with an authority leads to its path, and asks for its pairs. -/
theorem pathOf_resolved
    (divided : base.WellDivided)
    (hasAuthority : base.authority.isSome)
    (isPath : base.path = .segments path)
    (followed :
      pathOf base.kind (if path.isEmpty then [] else [""]) segments = first :: rest)
    (undivided : ∀ segment ∈ first :: rest, Undivided segment.toList)
    (resolved : base.resolve segments pairs = .ok url) :
    Http.pathOf url.text = segmentsText (first :: rest) ∧
      Http.queryOf url.text = Form.encode pairs := by
  obtain ⟨authority, named⟩ := Option.isSome_iff_exists.mp hasAuthority
  obtain ⟨query, isQuery, rfl⟩ := exists_of_resolve isPath resolved
  have noNumber : '#' ∉ (query.getD "").toList := by
    rw [isQuery]
    exact fun member => (undivided_encode pairs '#' member).2.2 rfl
  rw [followed, ← isQuery]
  exact pathOf_text (divided.resolved (first :: rest) query) named rfl noNumber rfl undivided

/-- An address under a base without an authority leads nowhere, whatever its path is. -/
theorem pathOf_resolved_of_none
    (divided : base.WellDivided)
    (noAuthority : base.authority = none)
    (isPath : base.path = .segments path)
    (followed :
      pathOf base.kind (if path.isEmpty then [] else [""]) segments = first :: rest)
    (isFirst : first ≠ "")
    (undivided : ∀ segment ∈ first :: rest, Undivided segment.toList)
    (apart : AreApart (first :: rest))
    (resolved : base.resolve segments pairs = .ok url) :
    Http.pathOf url.text = "" ∧ Http.queryOf url.text = "" := by
  obtain ⟨query, isQuery, rfl⟩ := exists_of_resolve isPath resolved
  have undividedQuery : Undivided (query.getD "").toList := by
    rw [isQuery]
    exact undivided_encode pairs
  rw [followed]
  exact pathOf_text_of_none (divided.resolved (first :: rest) query) noAuthority rfl
    undividedQuery rfl isFirst undivided apart

end Resolved

/-- Plain segments are apart. -/
theorem areApart_of_plain
    {segments : List String}
    (plain : ∀ segment ∈ segments, IsPlain segment) :
    AreApart segments := by
  induction segments with
  | nil => exact .nil
  | cons first rest inductionHypothesis =>
      rw [List.forall_mem_cons] at plain
      exact (inductionHypothesis plain.2).cons (plain.1.not_mem (by decide))

/-- An address under a base leads to the path of its segments, if the base has an authority. -/
theorem pathOf_resolve
    {base : Url}
    {path : List String}
    {first : String}
    {rest : List String}
    (divided : base.WellDivided)
    (isPath : base.path = .segments path)
    (named : first ≠ "")
    (plain : ∀ segment ∈ first :: rest, IsPlain segment) :
    ∃ url,
      base.resolve (first :: rest) [] = .ok url ∧
        Http.pathOf url.text =
            (if base.authority.isSome then segmentsText (first :: rest) else "") ∧
          Http.queryOf url.text = "" := by
  have followed :
      pathOf base.kind (if path.isEmpty then [] else [""]) (first :: rest) = first :: rest :=
    pathOf_plain (start_cases path) named plain
  have undivided : ∀ segment ∈ first :: rest, Undivided segment.toList :=
    fun segment member => (plain segment member).undivided
  obtain ⟨url, resolved⟩ : ∃ url, base.resolve (first :: rest) [] = .ok url := by
    rw [resolve, isPath]
    exact ⟨_, rfl⟩
  refine ⟨url, resolved, ?_⟩
  split
  next isSome => exact pathOf_resolved divided isSome isPath followed undivided resolved
  next isNone =>
    have noAuthority : base.authority = none := by simpa using isNone
    exact pathOf_resolved_of_none divided noAuthority isPath followed named undivided
      (areApart_of_plain plain) resolved

end SecretsAdmin.Url
