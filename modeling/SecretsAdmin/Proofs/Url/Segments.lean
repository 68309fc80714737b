import SecretsAdmin.Proofs.Url.Encoding
import SecretsAdmin.Url.Resolve

namespace SecretsAdmin.Url

/-!
# Segments under their own names

A segment is put behind a path in its encoded form unless it is one of the two that are followed,
loses tabs or line breaks, or is a drive. No other segment is encoded like one that is followed,
since such a name would have to be read as dots.
-/

/-- A segment as it stands in a path. -/
def encodeSegment
    (kind : SchemeKind)
    (segment : String) :
    String :=
  String.ofList (percentEncode (segmentSet kind) segment.toList)

/-- Reading the percent signs of a segment in a path gives the segment. -/
theorem percentDecode_encodeSegment
    (kind : SchemeKind)
    (segment : String) :
    percentDecode (Utf8.encode (encodeSegment kind segment)) = Utf8.encode segment := by
  have signed : segmentSet kind '%' = true := by
    cases kind <;> decide
  rw [encodeSegment, percentDecode_percentEncode signed, String.ofList_toList]

theorem encodeSegment_injective (kind : SchemeKind) :
    Function.Injective (encodeSegment kind) := fun left right same =>
  Utf8.encode_injective <| by
    rw [← percentDecode_encodeSegment kind left, same, percentDecode_encodeSegment]

/-! ## Segments that are followed -/

/-- Only a dot is read as a dot, when a segment in a path is compared in small letters. -/
private theorem eq_dot_of_rewritten
    {set : EncodeSet}
    {character : Char}
    (isDot : rewritten set Char.toLower character = '.') :
    character = '.' := by
  have small : ∀ character : Char,
      character.toNat < 0x80 → character.toLower = '.' → character = '.' :=
    forall_ascii (by decide)
  unfold rewritten at isDot
  split at isDot
  next isShown =>
    rw [Bool.and_eq_true, decide_eq_true_eq] at isShown
    exact small character isShown.1 isDot
  next => exact isDot

/-- A segment is made of dots if it stands in a path as something that is read as dots. -/
theorem eq_of_read_as_dots
    {kind : SchemeKind}
    {segment name dots : String}
    (isName : String.ofList ((encodeSegment kind segment).toList.map Char.toLower) = name)
    (isRead : percentDecode (Utf8.encode name) = Utf8.encode dots)
    (areDots : ∀ character ∈ dots.toList, character = '.') :
    segment = dots := by
  have signed : segmentSet kind '%' = true := by
    cases kind <;> decide
  have read :=
    percentDecode_map_percentEncode keepsTriples_toLower signed segment.toList
  rw [← Utf8.encode_ofList, ← Utf8.encode_ofList] at read
  rw [encodeSegment, String.toList_ofList] at isName
  rw [isName, isRead] at read
  have isDots := Utf8.encode_injective read
  have kept :
      segment.toList.map (rewritten (segmentSet kind) Char.toLower) = segment.toList := by
    refine (List.map_congr_left fun character member => ?_).trans (List.map_id _)
    have isDot : rewritten (segmentSet kind) Char.toLower character = '.' := by
      refine areDots _ ?_
      rw [isDots, String.toList_ofList]
      exact List.mem_map_of_mem member
    rw [isDot, eq_dot_of_rewritten isDot]
    rfl
  rw [isDots, kept, String.ofList_toList]

theorem eq_of_isAbove
    {kind : SchemeKind}
    {segment : String}
    (above : isAbove (encodeSegment kind segment) = true) :
    segment = ".." := by
  rw [isAbove, List.contains_iff_mem] at above
  have areRead :
      ∀ name ∈ ["..", ".%2e", "%2e.", "%2e%2e"],
        percentDecode (Utf8.encode name) = Utf8.encode ".." := by
    decide
  exact eq_of_read_as_dots rfl (areRead _ above) (by simp)

theorem eq_of_isHere
    {kind : SchemeKind}
    {segment : String}
    (here : isHere (encodeSegment kind segment) = true) :
    segment = "." := by
  rw [isHere, List.contains_iff_mem] at here
  have areRead :
      ∀ name ∈ [".", "%2e"], percentDecode (Utf8.encode name) = Utf8.encode "." := by
    decide
  exact eq_of_read_as_dots rfl (areRead _ here) (by simp)

/-! ## Segments that are kept -/

/-- Whether a segment is put behind a path as it is, apart from its encoding. -/
structure IsKept (kind : SchemeKind) (segment : String) : Prop where
  unfollowed : segment ≠ "." ∧ segment ≠ ".."
  unbroken : ∀ character ∈ segment.toList, isBreak character = false
  noDrive :
    kind = .file →
      isDrive (encodeSegment kind segment) = false ∧ cutDrive? segment.toList = none

variable {kind : SchemeKind}

namespace IsKept

variable {segment : String}

/-- A segment that is kept loses nothing. -/
private theorem name_eq (kept : IsKept kind segment) :
    String.ofList (percentEncode (segmentSet kind) (withoutBreaks segment.toList)) =
      encodeSegment kind segment := by
  have unbroken : withoutBreaks segment.toList = segment.toList :=
    List.filter_eq_self.mpr fun character member => by
      rw [kept.unbroken character member, Bool.not_false]
  rw [unbroken, encodeSegment]

private theorem enter_eq
    (kept : IsKept kind segment)
    (trail : Trail) :
    trail.enter kind (segmentSet kind) segment.toList =
      trail.append [encodeSegment kind segment] := by
  simp only [Trail.enter, kept.name_eq]
  split
  next isFront =>
    obtain ⟨notDrive, notCut⟩ := kept.noDrive isFront.1
    rw [notDrive, if_neg Bool.false_ne_true, notCut]
  next => rfl

/-- A segment that is kept fills a path that is only a slash. -/
theorem addSegment_eq
    (kept : IsKept kind segment)
    (path : List String) :
    addSegment kind path segment =
      (if path = [""] then [] else path) ++ [encodeSegment kind segment] := by
  have notAbove : ¬isAbove (encodeSegment kind segment) = true := fun above =>
    kept.unfollowed.2 (eq_of_isAbove above)
  have notHere : ¬isHere (encodeSegment kind segment) = true := fun here =>
    kept.unfollowed.1 (eq_of_isHere here)
  rw [addSegment, if_neg (not_or.mpr kept.unfollowed)]
  dsimp only
  rw [Trail.step, kept.name_eq, if_neg notAbove, if_neg notHere, kept.enter_eq, Trail.append]

end IsKept

/-- Segments that are kept are the path, unless the path begins with an empty one. -/
theorem pathOf_of_kept
    {start : List String}
    {first : String}
    {rest : List String}
    (isStart : start = [] ∨ start = [""])
    (named : first ≠ "")
    (kept : ∀ segment ∈ first :: rest, IsKept kind segment) :
    pathOf kind start (first :: rest) = (first :: rest).map (encodeSegment kind) := by
  have notEmpty : encodeSegment kind first ≠ "" := fun isEmpty =>
    named (encodeSegment_injective kind (isEmpty.trans rfl))
  have behind (path : List String) (areKept : ∀ segment ∈ rest, IsKept kind segment) :
      rest.foldl (addSegment kind) (encodeSegment kind first :: path) =
        encodeSegment kind first :: path ++ rest.map (encodeSegment kind) := by
    clear kept
    induction rest generalizing path with
    | nil => simp
    | cons second rest inductionHypothesis =>
        have notSlash : encodeSegment kind first :: path ≠ [""] := by simp [notEmpty]
        rw [List.foldl_cons, (areKept second List.mem_cons_self).addSegment_eq,
          if_neg notSlash, List.cons_append,
          inductionHypothesis _ fun segment member =>
            areKept segment (List.mem_cons_of_mem _ member)]
        simp
  have front : addSegment kind start first = [encodeSegment kind first] := by
    rw [(kept first List.mem_cons_self).addSegment_eq]
    rcases isStart with rfl | rfl <;> simp
  rw [pathOf, List.foldl_cons, front,
    behind [] fun segment member => kept segment (List.mem_cons_of_mem _ member)]
  rfl

/-! ## Any segment behind others -/

/-- A segment without its tabs and line breaks. -/
def bareSegment (segment : String) : String :=
  String.ofList (withoutBreaks segment.toList)

theorem isAbove_encodeSegment_iff
    {segment : String} :
    isAbove (encodeSegment kind segment) = true ↔ segment = ".." := by
  refine ⟨eq_of_isAbove, ?_⟩
  rintro rfl
  cases kind <;> decide

theorem isHere_encodeSegment_iff
    {segment : String} :
    isHere (encodeSegment kind segment) = true ↔ segment = "." := by
  refine ⟨eq_of_isHere, ?_⟩
  rintro rfl
  cases kind <;> decide

/-- Behind a path that is not empty, no segment is a drive. -/
private theorem enter_behind
    {path : List String}
    (notEmpty : path ≠ [])
    (segment : String) :
    (Trail.enter kind (segmentSet kind) { segments := path } segment.toList).segments =
      path ++ [encodeSegment kind (bareSegment segment)] := by
  have notFront : ¬(kind = .file ∧ path.isEmpty = true) := fun isFront =>
    notEmpty (List.isEmpty_iff.mp isFront.2)
  unfold Trail.enter
  dsimp only
  rw [if_neg notFront, encodeSegment, bareSegment, String.toList_ofList]
  rfl

/--
What becomes of a segment behind a path. One or two dots add nothing. What is left of other segments
without tabs and line breaks is followed if it is one or two dots, and else put behind the path.
-/
theorem addSegment_behind
    {path : List String}
    (notEmpty : path ≠ [])
    (notSlash : path ≠ [""])
    (segment : String) :
    addSegment kind path segment =
      if segment = "." ∨ segment = ".." then path
      else if bareSegment segment = ".." then
        (Trail.above { segments := path }).segments ++ [""]
      else if bareSegment segment = "." then path ++ [""]
      else path ++ [encodeSegment kind (bareSegment segment)] := by
  have isName :
      String.ofList (percentEncode (segmentSet kind) (withoutBreaks segment.toList)) =
        encodeSegment kind (bareSegment segment) := by
    rw [encodeSegment, bareSegment, String.toList_ofList]
  unfold addSegment
  by_cases areDots : segment = "." ∨ segment = ".."
  · rw [if_pos areDots, if_pos areDots]
  · rw [if_neg areDots, if_neg areDots, if_neg notSlash]
    dsimp only
    rw [Trail.step, isName]
    simp only [isAbove_encodeSegment_iff, isHere_encodeSegment_iff]
    split
    next => rfl
    next =>
      split
      next => rfl
      next => exact enter_behind notEmpty segment

end SecretsAdmin.Url
