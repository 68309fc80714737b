import Mathlib.Data.List.TakeWhile
import SecretsAdmin.Text.Blank

namespace SecretsAdmin.Text

/-!
# Trimmed texts

A text is trimmed if it neither begins nor ends with a blank. Removing blanks from both ends makes
a text trimmed, and leaves a trimmed text as it is.
-/

/-- Whether characters neither begin nor end with a blank. -/
structure IsTrimmed (characters : List Char) : Prop where
  head : ∀ first ∈ characters.head?, isBlank first = false
  last : ∀ last ∈ characters.getLast?, isBlank last = false

private theorem dropWhile_of_head
    {characters : List Char}
    (head : ∀ first ∈ characters.head?, isBlank first = false) :
    characters.dropWhile isBlank = characters := by
  cases characters with
  | nil => rfl
  | cons first rest => rw [List.dropWhile_cons, head first rfl]; rfl

private theorem head_dropWhile
    (characters : List Char)
    {first : Char}
    (isFirst : first ∈ (characters.dropWhile isBlank).head?) :
    isBlank first = false := by
  have notBlank := List.head?_dropWhile_not isBlank characters
  rw [Option.mem_def.mp isFirst] at notBlank
  exact notBlank

/-- A text without blanks at its ends loses nothing. -/
theorem IsTrimmed.trimBlanks_eq
    {characters : List Char}
    (trimmed : IsTrimmed characters) :
    trimBlanks characters = characters := by
  have fromBehind : ∀ first ∈ characters.reverse.head?, isBlank first = false := by
    rw [List.head?_reverse]
    exact trimmed.last
  rw [trimBlanks, dropWhile_of_head trimmed.head, dropWhile_of_head fromBehind,
    List.reverse_reverse]

/--
What is left when blanks are removed from both ends is trimmed. What is removed from the end leaves
a prefix, which begins like the whole.
-/
theorem isTrimmed_trimBlanks (characters : List Char) :
    IsTrimmed (trimBlanks characters) where
  head first isFirst := by
    obtain ⟨removed, whole⟩ :=
      List.reverse_prefix.mpr
        (List.dropWhile_suffix (l := (characters.dropWhile isBlank).reverse) isBlank)
    rw [List.reverse_reverse] at whole
    refine head_dropWhile characters ?_
    rw [← whole, List.head?_append]
    exact Option.mem_def.mpr (by rw [← trimBlanks, Option.mem_def.mp isFirst]; rfl)
  last last isLast := by
    rw [trimBlanks, List.getLast?_reverse] at isLast
    exact head_dropWhile _ isLast

theorem mem_of_mem_trimBlanks
    {characters : List Char}
    {character : Char}
    (member : character ∈ trimBlanks characters) :
    character ∈ characters := by
  rw [trimBlanks, List.mem_reverse] at member
  have inFront := (List.dropWhile_suffix isBlank).subset member
  exact (List.dropWhile_suffix isBlank).subset (List.mem_reverse.mp inFront)

/-- A blank at the front is removed. -/
theorem trimBlanks_cons
    {character : Char}
    (blank : isBlank character = true)
    (characters : List Char) :
    trimBlanks (character :: characters) = trimBlanks characters := by
  rw [trimBlanks, List.dropWhile_cons, if_pos blank, ← trimBlanks]

/-- Whether a text is another one without the blanks at its ends. -/
def Trims (whole trimmed : List Char) : Prop :=
  ∃ front back,
    whole = front ++ trimmed ++ back ∧
      (∀ character ∈ front ++ back, isBlank character = true) ∧
      IsTrimmed trimmed

theorem trims_trimBlanks (whole : List Char) : Trims whole (trimBlanks whole) := by
  let behind := (whole.dropWhile isBlank).reverse
  refine ⟨whole.takeWhile isBlank, (behind.takeWhile isBlank).reverse, ?_, ?_,
    isTrimmed_trimBlanks whole⟩
  · rw [trimBlanks, List.append_assoc, ← List.reverse_append, List.takeWhile_append_dropWhile,
      List.reverse_reverse, List.takeWhile_append_dropWhile]
  · intro character member
    rw [List.mem_append, List.mem_reverse] at member
    exact member.elim List.mem_takeWhile_imp List.mem_takeWhile_imp

/-- There is one way only to remove all blanks from both ends. -/
theorem trims_iff {whole trimmed : List Char} :
    Trims whole trimmed ↔ trimBlanks whole = trimmed := by
  refine ⟨?removed, fun isTrimmed => isTrimmed ▸ trims_trimBlanks whole⟩
  case removed =>
    rintro ⟨front, back, rfl, blank, trimmed⟩
    have frontBlank := (List.forall_mem_append.mp blank).1
    have backBlank := (List.forall_mem_append.mp blank).2
    rw [trimBlanks, List.append_assoc, List.dropWhile_append_of_pos frontBlank]
    rename_i characters
    cases characters with
    | nil =>
        rw [List.nil_append, List.dropWhile_eq_nil_iff.mpr backBlank]
        rfl
    | cons first rest =>
        have whole : (first :: rest ++ back).dropWhile isBlank = first :: rest ++ back :=
          dropWhile_of_head fun _ isFirst => trimmed.head _ isFirst
        have fromBehind : ∀ last ∈ (first :: rest).reverse.head?, isBlank last = false := by
          rw [List.head?_reverse]
          exact trimmed.last
        rw [whole, List.reverse_append,
          List.dropWhile_append_of_pos fun _ member => backBlank _ (List.mem_reverse.mp member),
          dropWhile_of_head fromBehind, List.reverse_reverse]

/-- Something is left exactly if not all is blank. -/
theorem trimBlanks_ne_nil_iff {whole : List Char} :
    trimBlanks whole ≠ [] ↔ ∃ character ∈ whole, isBlank character = false := by
  constructor
  · intro isLeft
    obtain ⟨first, rest, isTrimmed⟩ := List.exists_cons_of_ne_nil isLeft
    refine ⟨first, mem_of_mem_trimBlanks (isTrimmed ▸ List.mem_cons_self), ?_⟩
    exact (isTrimmed_trimBlanks whole).head first (isTrimmed ▸ rfl)
  · rintro ⟨character, member, notBlank⟩ nothing
    obtain ⟨front, back, isWhole, blank, -⟩ := trims_trimBlanks whole
    rw [nothing, List.append_nil] at isWhole
    rw [isWhole] at member
    rw [blank character member] at notBlank
    cases notBlank

end SecretsAdmin.Text
