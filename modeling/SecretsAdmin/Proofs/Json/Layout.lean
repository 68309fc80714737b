import Mathlib.Data.List.DropRight
import SecretsAdmin.Proofs.Json.Number

namespace SecretsAdmin.Json

/-!
# The bytes of JSON texts

How the bytes of a JSON text begin, which tells what it is, and what the bytes behind a value in
an array or object are.
-/

/-- Everything in a list has its counterpart in a related list. -/
theorem exists_of_forall₂
    {α β : Type*}
    {Relates : α → β → Prop}
    {lefts : List α}
    {rights : List β}
    (relate : List.Forall₂ Relates lefts rights)
    {left : α}
    (isLeft : left ∈ lefts) :
    ∃ right ∈ rights, Relates left right := by
  induction relate with
  | nil => cases isLeft
  | cons isFirst _ inductionHypothesis =>
      rcases List.mem_cons.mp isLeft with rfl | isOther
      · exact ⟨_, List.mem_cons_self, isFirst⟩
      · obtain ⟨right, isRight, relates⟩ := inductionHypothesis isOther
        exact ⟨right, List.mem_cons_of_mem _ isRight, relates⟩

/-! ## Blanks -/

/-- The four blanks are one byte each. -/
private theorem octet_of_blank :
    ∀ blank ∈ [' ', '\t', '\n', '\r'],
      ∃ octet, String.utf8EncodeChar blank = [octet] ∧ isBlankOctet octet = true := by
  intro blank isBlank
  simp only [List.mem_cons, List.not_mem_nil, or_false] at isBlank
  rcases isBlank with rfl | rfl | rfl | rfl <;> exact ⟨_, rfl, rfl⟩

theorem AreBlank.nil : AreBlank [] :=
  nofun

/-- Blanks are skipped. -/
theorem skipBlanks_octets
    {blanks : List Char}
    (areBlank : AreBlank blanks)
    (rest : Octets) :
    skipBlanks (octets blanks ++ rest) = skipBlanks rest := by
  induction blanks with
  | nil => rfl
  | cons first others inductionHypothesis =>
      obtain ⟨octet, encoded, isBlank⟩ := octet_of_blank first (areBlank first List.mem_cons_self)
      rw [octets_cons, encoded, List.append_assoc, List.singleton_append, skipBlanks,
        List.dropWhile_cons, if_pos isBlank]
      exact inductionHypothesis fun blank member => areBlank blank (List.mem_cons_of_mem _ member)

/-- Behind blanks there are no more of them. -/
theorem skipBlanks_skipBlanks (unread : Octets) :
    skipBlanks (skipBlanks unread) = skipBlanks unread :=
  List.dropWhile_idempotent isBlankOctet unread

/-! ## Beginnings -/

/-- Whether characters begin with a byte that is neither a blank nor a closing bracket. -/
def Begins (written : List Char) : Prop :=
  ∃ octet others,
    octets written = octet :: others ∧
      isBlankOctet octet = false ∧ octet ≠ 0x5D ∧ octet ≠ 0x7D

/-- A value does not begin with a blank. -/
theorem Begins.skipBlanks
    {written : List Char}
    (begins : Begins written)
    (rest : Octets) :
    Json.skipBlanks (octets written ++ rest) = octets written ++ rest := by
  obtain ⟨octet, others, encoded, notBlank, -⟩ := begins
  rw [encoded, List.cons_append, skipBlanks_cons notBlank]

/-- A string begins with a quote. -/
theorem SpellsText.begins
    {written : List Char}
    {text : String}
    (spells : SpellsText written text) :
    ∃ others, octets written = 0x22 :: others := by
  obtain ⟨inside, rfl, -⟩ := spells
  exact ⟨_, rfl⟩

/-- A member begins with the quote of its name. -/
theorem SpellsMember.begins
    {written : List Char}
    {member : Member}
    (spells : SpellsMember written member) :
    Begins written := by
  obtain ⟨name, before, after, isName, -, -, rfl⟩ := spells
  obtain ⟨others, encoded⟩ := isName.begins
  exact ⟨0x22, _, by rw [octets_append, encoded, List.cons_append], rfl, by decide, by decide⟩

/-- What the first byte of a JSON text tells about it; other bytes tell other things. -/
structure Shape (written : List Char) (octet : UInt8) : Prop where
  notBlank : isBlankOctet octet = false := by decide
  notClosing : octet ≠ 0x5D ∧ octet ≠ 0x7D := by decide
  isNull : octet = 0x6E → written = ['n', 'u', 'l', 'l'] := by
    exact fun same => absurd same (by decide)
  isTrue : octet = 0x74 → written = ['t', 'r', 'u', 'e'] := by
    exact fun same => absurd same (by decide)
  isFalse : octet = 0x66 → written = ['f', 'a', 'l', 's', 'e'] := by
    exact fun same => absurd same (by decide)
  isText : octet = 0x22 → ∃ text, SpellsText written text := by
    exact fun same => absurd same (by decide)
  isNumber : octet = 0x2D ∨ isDigit octet = true → IsNumber written := by
    exact fun same => absurd same (by decide)
  isArray : octet = 0x5B → ∃ items, IsArray written items := by
    exact fun same => absurd same (by decide)
  isObject : octet = 0x7B → ∃ members, IsObject written members := by
    exact fun same => absurd same (by decide)

/-- A number has none of the shapes that other bytes begin. -/
private theorem IsNumber.shape
    {written : List Char}
    {octet : UInt8}
    (isNumber : IsNumber written)
    (begins : octet = 0x2D ∨ isDigit octet = true) :
    Shape written octet := by
  have differs {other : UInt8} (notMinus : other ≠ 0x2D) (notDigit : isDigit other = false) :
      octet ≠ other := by
    rcases begins with rfl | digit
    · exact notMinus.symm
    · exact digit_ne digit notDigit
  refine
    { notBlank := ?_
      notClosing := ⟨differs (by decide) rfl, differs (by decide) rfl⟩
      isNull := fun same => absurd same (differs (by decide) rfl)
      isTrue := fun same => absurd same (differs (by decide) rfl)
      isFalse := fun same => absurd same (differs (by decide) rfl)
      isText := fun same => absurd same (differs (by decide) rfl)
      isNumber := fun _ => isNumber
      isArray := fun same => absurd same (differs (by decide) rfl)
      isObject := fun same => absurd same (differs (by decide) rfl) }
  rcases begins with rfl | digit
  · rfl
  · exact isBlankOctet_of_digit digit

/-- A JSON text begins with a byte that tells what it is. -/
theorem IsJson.shape
    {written : List Char}
    (isJson : IsJson written) :
    ∃ octet others, octets written = octet :: others ∧ Shape written octet := by
  cases isJson with
  | null => exact ⟨0x6E, _, rfl, { isNull := fun _ => rfl }⟩
  | true => exact ⟨0x74, _, rfl, { isTrue := fun _ => rfl }⟩
  | false => exact ⟨0x66, _, rfl, { isFalse := fun _ => rfl }⟩
  | number isNumber =>
      obtain ⟨octet, others, encoded, begins⟩ := isNumber.begins
      exact ⟨octet, others, encoded, isNumber.shape begins⟩
  | text spells =>
      obtain ⟨others, encoded⟩ := spells.begins
      exact ⟨0x22, others, encoded, { isText := fun _ => ⟨_, spells⟩ }⟩
  | array encloses areJson =>
      obtain ⟨inside, listed, rfl⟩ := encloses
      exact ⟨0x5B, _, rfl, { isArray := fun _ => ⟨_, ⟨inside, listed, rfl⟩, areJson⟩ }⟩
  | object encloses spells areJson =>
      obtain ⟨inside, listed, rfl⟩ := encloses
      exact ⟨0x7B, _, rfl,
        { isObject := fun _ => ⟨_, ⟨_, ⟨inside, listed, rfl⟩, spells⟩, areJson⟩ }⟩

theorem IsArray.isJson
    {written : List Char}
    {items : List (List Char)}
    (isArray : IsArray written items) :
    IsJson written :=
  .array isArray.1 isArray.2

theorem IsObject.isJson
    {written : List Char}
    {members : List Member}
    (isObject : IsObject written members) :
    IsJson written := by
  obtain ⟨⟨items, encloses, spells⟩, areJson⟩ := isObject
  exact .object encloses spells areJson

/-- A value begins with a byte that neither is a blank nor ends a list. -/
theorem IsJson.begins
    {written : List Char}
    (isJson : IsJson written) :
    Begins written := by
  obtain ⟨octet, others, encoded, shape⟩ := isJson.shape
  exact ⟨octet, others, encoded, shape.notBlank, shape.notClosing⟩

/-! ## Endings -/

/-- A value ends at a comma or a closing bracket, also with blanks between them. -/
private theorem ends_blanks
    {blanks : List Char}
    {octet : UInt8}
    (areBlank : AreBlank blanks)
    (ends : octet = 0x2C ∨ octet = 0x5D ∨ octet = 0x7D)
    (rest : Octets) :
    Ends (octets blanks ++ octet :: rest) := by
  cases blanks with
  | nil =>
      intro other isHead
      obtain rfl := Option.some.inj isHead
      exact .inr ends
  | cons first others =>
      obtain ⟨blank, encoded, isBlank⟩ := octet_of_blank first (areBlank first List.mem_cons_self)
      intro other isHead
      rw [octets_cons, encoded] at isHead
      obtain rfl := Option.some.inj isHead
      exact .inl isBlank

/-- Behind a value stands a blank, a comma or the closing bracket. -/
theorem AreBehind.ends
    {behind : List Char}
    {items : List (List Char)}
    (areBehind : AreBehind behind items)
    (closing : UInt8)
    (closes : closing = 0x5D ∨ closing = 0x7D)
    (rest : Octets) :
    Ends (octets behind ++ closing :: rest) := by
  cases areBehind with
  | nil areBlank => exact ends_blanks areBlank (.inr closes) rest
  | cons blankAfter =>
      rw [octets_append, octets_cons, List.append_assoc]
      exact ends_blanks blankAfter (.inl rfl) _

/-! ## Items -/

/-- Items between brackets begin with the first one, behind which the others stand. -/
theorem AreListed.exists_first
    {written item : List Char}
    {items : List (List Char)}
    (areListed : AreListed written (item :: items))
    (begins : Begins item) :
    ∃ behind,
      AreBehind behind items ∧
        ∀ rest, skipBlanks (octets written ++ rest) = octets item ++ (octets behind ++ rest) := by
  cases areListed with
  | @cons before _ behind _ blankBefore others =>
      refine ⟨behind, others, fun rest => ?_⟩
      rw [octets_append, octets_append, List.append_assoc, List.append_assoc,
        skipBlanks_octets blankBefore, begins.skipBlanks]

/-- Items behind another one begin with a comma, behind which they stand like the first ones. -/
theorem AreBehind.exists_comma
    {behind item : List Char}
    {items : List (List Char)}
    (areBehind : AreBehind behind (item :: items)) :
    ∃ written,
      AreListed written (item :: items) ∧
        ∀ rest, skipBlanks (octets behind ++ rest) = 0x2C :: (octets written ++ rest) := by
  cases areBehind with
  | @cons after before _ behind _ blankAfter blankBefore others =>
      refine ⟨before ++ (item ++ behind), .cons blankBefore others, fun rest => ?_⟩
      rw [octets_append, octets_cons, List.append_assoc, List.append_assoc,
        skipBlanks_octets blankAfter]
      rfl

end SecretsAdmin.Json
