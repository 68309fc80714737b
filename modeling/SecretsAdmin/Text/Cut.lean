namespace SecretsAdmin.Text

/-!
# Cutting a text at a mark

`cutAt?` divides at the first occurrence of a mark only; `List.splitOn` of the core library
divides at every one.
-/

/-- The parts before and after the first occurrence of a mark, if it occurs. -/
def cutAt?
    {α : Type}
    [BEq α]
    (mark : α) :
    List α → Option (List α × List α)
  | [] => none
  | first :: rest =>
      if first == mark then
        some ([], rest)
      else
        (cutAt? mark rest).map fun (before, after) => (first :: before, after)

/-- The parts before and after the first occurrence, or the whole and nothing without one. -/
def cutOrWhole
    {α : Type}
    [BEq α]
    (mark : α)
    (whole : List α) :
    List α × List α :=
  (cutAt? mark whole).getD (whole, [])

/-- There is no cut exactly when the mark does not occur. -/
theorem cutAt?_eq_none_iff
    {α : Type}
    [BEq α]
    [LawfulBEq α]
    {mark : α}
    {whole : List α} :
    cutAt? mark whole = none ↔ mark ∉ whole := by
  induction whole with
  | nil => simp [cutAt?]
  | cons first rest inductionHypothesis =>
      rw [cutAt?]
      split
      next isMark => simp [eq_of_beq isMark]
      next notMark =>
        have differs : mark ≠ first := fun same => notMark (by simp [same])
        simp [inductionHypothesis, differs]

/-- A cut divides at a mark before which no other stands. -/
theorem cutAt?_eq_some_iff
    {α : Type}
    [BEq α]
    [LawfulBEq α]
    {mark : α}
    {whole before after : List α} :
    cutAt? mark whole = some (before, after) ↔
      whole = before ++ mark :: after ∧ mark ∉ before := by
  induction whole generalizing before with
  | nil => simp [cutAt?]
  | cons first rest inductionHypothesis =>
      rw [cutAt?]
      split
      next isMark =>
        have same := eq_of_beq isMark
        cases before with
        | nil => simp [same]
        | cons head tail => simp [same]; grind
      next notMark =>
        have differs : mark ≠ first := fun same => notMark (by simp [same])
        cases before with
        | nil => simp; grind
        | cons head tail =>
            simp only [Option.map_eq_some_iff, Prod.mk.injEq, Prod.exists]
            constructor
            · rintro ⟨front, back, found, same, rfl⟩
              obtain ⟨rfl, rfl⟩ := List.cons.inj same
              obtain ⟨divided, absent⟩ := inductionHypothesis.mp found
              exact ⟨by simp [divided], by simp [differs, absent]⟩
            · rintro ⟨divided, absent⟩
              obtain ⟨rfl, tailDivided⟩ := List.cons.inj divided
              exact ⟨tail, after,
                inductionHypothesis.mpr ⟨tailDivided, fun member => absent (by simp [member])⟩,
                rfl, rfl⟩

/-- The first part is what stands before any mark. -/
theorem cutOrWhole_fst
    {α : Type}
    [BEq α]
    [LawfulBEq α]
    (mark : α)
    (whole : List α) :
    (cutOrWhole mark whole).1 = whole.takeWhile (· != mark) := by
  have isTaken {before : List α} (absent : mark ∉ before) (after : List α) :
      (before ++ after).takeWhile (· != mark) = before ++ after.takeWhile (· != mark) :=
    List.takeWhile_append_of_pos fun _ member => bne_iff_ne.mpr fun isMark =>
      absent (isMark ▸ member)
  unfold cutOrWhole
  cases isCut : cutAt? mark whole with
  | none => simpa using (isTaken (cutAt?_eq_none_iff.mp isCut) []).symm
  | some parts =>
      obtain ⟨divided, absent⟩ := cutAt?_eq_some_iff.mp isCut
      rw [divided, isTaken absent, List.takeWhile_cons_of_neg (by simp), List.append_nil]
      rfl

end SecretsAdmin.Text
