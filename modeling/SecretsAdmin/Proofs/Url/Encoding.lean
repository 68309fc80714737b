import SecretsAdmin.Proofs.Text.Hex
import SecretsAdmin.Proofs.Text.Utf8
import SecretsAdmin.Url.Form

namespace SecretsAdmin.Url

/-!
# Reading what was encoded

Whatever a text holds, it is found again by reading the percent signs of its encoding, as long as
the encode set has the percent sign itself. The pairs of a form are found again in their order,
because nothing in a name or a value is taken for the mark behind it.
-/

/-! ## Percent signs -/

/--
A way of rewriting characters after which percent signs and digits are read as before. Texts are
compared in small letters, so it is not enough to know how they are read as they are.
-/
structure KeepsTriples (rewrite : Char → Char) : Prop where
  ascii : ∀ character, character.toNat < 0x80 → (rewrite character).toNat < 0x80
  sign : ∀ character, character.toNat < 0x80 → (rewrite character = '%' ↔ character = '%')
  digit : ∀ digit < 16, Hex.value? (rewrite (Hex.upperDigit digit)).toNat = some digit

theorem keepsTriples_id : KeepsTriples id where
  ascii _ isAscii := isAscii
  sign _ _ := Iff.rfl
  digit := Hex.value?_upperDigit

/-- What holds of the characters with small numbers holds of every character of ASCII. -/
theorem forall_ascii
    {holds : Char → Prop}
    (small : ∀ number < 0x80, holds (Char.ofNat number))
    (character : Char)
    (isAscii : character.toNat < 0x80) :
    holds character := by
  have isHeld := small character.toNat isAscii
  rwa [Char.ofNat_toNat] at isHeld

theorem keepsTriples_toLower : KeepsTriples Char.toLower where
  ascii := forall_ascii (by decide)
  sign := forall_ascii (by decide)
  digit := by decide

section Triples

variable {rewrite : Char → Char} {set : EncodeSet}

/-- A byte other than the percent sign stands for itself. -/
theorem percentDecodeOnto_of_ne
    {octet : UInt8}
    (noSign : octet ≠ 0x25)
    (found rest : Octets) :
    percentDecodeOnto found (octet :: rest) = percentDecodeOnto (octet :: found) rest := by
  rw [percentDecodeOnto]
  rintro first second others rfl
  contradiction

/-- A byte is written as a percent sign and the two digits of its number. -/
theorem exists_percentTriple
    (keeps : KeepsTriples rewrite)
    (octet : UInt8) :
    ∃ high low : UInt8,
      ((percentTriple octet).map rewrite).flatMap String.utf8EncodeChar = [0x25, high, low] ∧
        Hex.value? high.toNat = some (octet.toNat / 16) ∧
          Hex.value? low.toNat = some (octet.toNat % 16) := by
  have small := octet.toNat_lt
  have isAscii : ∀ digit < 16, (Hex.upperDigit digit).toNat < 0x80 := by decide
  have digit (number : Nat) (isDigit : number < 16) :
      ∃ octet : UInt8,
        String.utf8EncodeChar (rewrite (Hex.upperDigit number)) = [octet] ∧
          Hex.value? octet.toNat = some number := by
    have ascii := keeps.ascii _ (isAscii number isDigit)
    refine ⟨_, Utf8.utf8EncodeChar_of_ascii ascii, ?_⟩
    rw [Utf8.toNat_octet (by omega), keeps.digit number isDigit]
  obtain ⟨high, isHigh, highValue⟩ := digit (octet.toNat / 16) (by omega)
  obtain ⟨low, isLow, lowValue⟩ := digit (octet.toNat % 16) (by omega)
  have isSign : String.utf8EncodeChar (rewrite '%') = [0x25] := by
    rw [(keeps.sign '%' (by decide)).mpr rfl]
    rfl
  refine ⟨high, low, ?_, highValue, lowValue⟩
  simp [percentTriple, isSign, isHigh, isLow]

/-- A byte that was written with a percent sign is read as that byte. -/
theorem percentDecodeOnto_triple
    (keeps : KeepsTriples rewrite)
    (octet : UInt8)
    (found rest : Octets) :
    percentDecodeOnto found
        (((percentTriple octet).map rewrite).flatMap String.utf8EncodeChar ++ rest) =
      percentDecodeOnto (octet :: found) rest := by
  obtain ⟨high, low, isTriple, highValue, lowValue⟩ := exists_percentTriple keeps octet
  have whole : octet.toNat / 16 * 16 + octet.toNat % 16 = octet.toNat := by omega
  rw [isTriple]
  show percentDecodeOnto found (0x25 :: high :: low :: rest) = _
  rw [percentDecodeOnto, highValue, lowValue]
  dsimp only
  rw [whole, UInt8.ofNat_toNat]

/-- Bytes that were written with percent signs are read as those bytes. -/
theorem percentDecodeOnto_triples
    (keeps : KeepsTriples rewrite)
    (octets found rest : Octets) :
    percentDecodeOnto found
        (((octets.flatMap percentTriple).map rewrite).flatMap String.utf8EncodeChar ++ rest) =
      percentDecodeOnto (octets.reverse ++ found) rest := by
  induction octets generalizing found with
  | nil => rfl
  | cons first others inductionHypothesis =>
      rw [List.flatMap_cons, List.map_append, List.flatMap_append, List.append_assoc,
        percentDecodeOnto_triple keeps, inductionHypothesis]
      simp

/-- The character as which a character of an encoded text is read after it was rewritten. -/
def rewritten
    (set : EncodeSet)
    (rewrite : Char → Char)
    (character : Char) :
    Char :=
  if character.toNat < 0x80 && !set character then rewrite character else character

/-- An encoded character is read as its bytes, unless it is shown and was rewritten. -/
theorem percentDecodeOnto_percentCharacter
    (keeps : KeepsTriples rewrite)
    (signed : set '%' = true)
    (character : Char)
    (found rest : Octets) :
    percentDecodeOnto found
        (((percentCharacter set character).map rewrite).flatMap String.utf8EncodeChar ++ rest) =
      percentDecodeOnto
        ((String.utf8EncodeChar (rewritten set rewrite character)).reverse ++ found) rest := by
  unfold percentCharacter rewritten
  split
  next isShown =>
    rw [Bool.and_eq_true, decide_eq_true_eq, Bool.not_eq_true'] at isShown
    obtain ⟨isAscii, shown⟩ := isShown
    have ascii := keeps.ascii character isAscii
    have differs : rewrite character ≠ '%' := by
      rw [Ne, keeps.sign character isAscii]
      rintro rfl
      rw [signed] at shown
      cases shown
    have noSign : UInt8.ofNat (rewrite character).toNat ≠ 0x25 := by
      intro same
      have number := congrArg UInt8.toNat same
      rw [Utf8.toNat_octet (by omega)] at number
      exact differs (Char.toNat_inj.mp number)
    rw [List.map_singleton, List.flatMap_singleton, Utf8.utf8EncodeChar_of_ascii ascii]
    exact percentDecodeOnto_of_ne noSign found rest
  next => exact percentDecodeOnto_triples keeps _ found rest

/-- An encoded text is read as the characters for which it was written. -/
theorem percentDecode_map_percentEncode
    (keeps : KeepsTriples rewrite)
    (signed : set '%' = true)
    (characters : List Char) :
    percentDecode (((percentEncode set characters).map rewrite).flatMap String.utf8EncodeChar) =
      (characters.map (rewritten set rewrite)).flatMap String.utf8EncodeChar := by
  have onto (found : Octets) :
      percentDecodeOnto found
          (((percentEncode set characters).map rewrite).flatMap String.utf8EncodeChar) =
        ((characters.map (rewritten set rewrite)).flatMap String.utf8EncodeChar).reverse ++
          found := by
    induction characters generalizing found with
    | nil => rfl
    | cons first others inductionHypothesis =>
        rw [percentEncode, List.flatMap_cons, List.map_append, List.flatMap_append,
          percentDecodeOnto_percentCharacter keeps signed]
        show percentDecodeOnto _ (((percentEncode set others).map rewrite).flatMap _) = _
        rw [inductionHypothesis]
        simp
  rw [percentDecode, onto, List.append_nil, List.reverse_reverse]

/-- Reading the percent signs of an encoded text gives the bytes of the text. -/
theorem percentDecode_percentEncode
    (signed : set '%' = true)
    (characters : List Char) :
    percentDecode (Utf8.encode (String.ofList (percentEncode set characters))) =
      Utf8.encode (String.ofList characters) := by
  have same : rewritten set id = id := funext fun _ => ite_self _
  have read := percentDecode_map_percentEncode keepsTriples_id signed characters
  rwa [List.map_id, same, List.map_id, ← Utf8.encode_ofList, ← Utf8.encode_ofList] at read

end Triples

/-! ## Forms -/

namespace Form

/-- A byte of a form, where a plus sign stands for a space. -/
def spaced (octet : UInt8) : UInt8 :=
  if octet = 0x2B then 0x20 else octet

theorem decodePart_eq (part : Octets) :
    decodePart part = Utf8.decodeLossy (percentDecode (part.map spaced)) :=
  rfl

private theorem isAscii_of_isPlain
    {octet : UInt8}
    (plain : isPlain octet = true) :
    octet.toNat < 0x80 := by
  simp only [isPlain, Bool.or_eq_true, Bool.and_eq_true, decide_eq_true_eq, beq_iff_eq,
    UInt8.le_iff_toNat_le] at plain
  rcases plain with (((((digit | capital) | letter) | rfl) | rfl) | rfl) | rfl
  · exact Nat.lt_of_le_of_lt digit.2 (by decide)
  · exact Nat.lt_of_le_of_lt capital.2 (by decide)
  · exact Nat.lt_of_le_of_lt letter.2 (by decide)
  all_goals decide

/-- A byte is written as itself, as a plus sign or with a percent sign. -/
theorem encodeOctet_cases (octet : UInt8) :
    isPlain octet = true ∧
        (encodeOctet octet).flatMap String.utf8EncodeChar = [octet] ∨
      octet = 0x20 ∧ (encodeOctet octet).flatMap String.utf8EncodeChar = [0x2B] ∨
        encodeOctet octet = percentTriple octet := by
  unfold encodeOctet
  split
  next plain =>
    have isAscii := isAscii_of_isPlain plain
    have kept : ∀ number < 0x80, (Char.ofNat number).toNat = number := by decide
    have isNumber := kept octet.toNat isAscii
    refine .inl ⟨plain, ?_⟩
    rw [List.flatMap_singleton, Utf8.utf8EncodeChar_of_ascii (by omega), isNumber,
      UInt8.ofNat_toNat]
  next =>
    split
    next isSpace => exact .inr (.inl ⟨isSpace, rfl⟩)
    next => exact .inr (.inr rfl)

/-- The bytes of a triple are a percent sign and digits. -/
private theorem ne_of_mem_triple
    {octet other mark : UInt8}
    (member : other ∈ (percentTriple octet).flatMap String.utf8EncodeChar)
    (noSign : mark ≠ 0x25)
    (noDigit : Hex.value? mark.toNat = none) :
    other ≠ mark := by
  obtain ⟨high, low, isTriple, highValue, lowValue⟩ :=
    exists_percentTriple keepsTriples_id octet
  rw [List.map_id] at isTriple
  rw [isTriple] at member
  rintro rfl
  simp only [List.mem_cons, List.not_mem_nil, or_false] at member
  rcases member with rfl | rfl | rfl
  · contradiction
  · rw [noDigit] at highValue
    cases highValue
  · rw [noDigit] at lowValue
    cases lowValue

/-- A byte of a name or a value is read as that byte. -/
theorem percentDecodeOnto_encodeOctet
    (octet : UInt8)
    (found rest : Octets) :
    percentDecodeOnto found
        (((encodeOctet octet).flatMap String.utf8EncodeChar).map spaced ++ rest) =
      percentDecodeOnto (octet :: found) rest := by
  rcases encodeOctet_cases octet with ⟨plain, isWritten⟩ | ⟨rfl, isWritten⟩ | isTriple
  · have noPlus : octet ≠ 0x2B := by
      rintro rfl
      exact absurd plain (by decide)
    have noSign : octet ≠ 0x25 := by
      rintro rfl
      exact absurd plain (by decide)
    rw [isWritten, List.map_singleton, spaced, if_neg noPlus]
    exact percentDecodeOnto_of_ne noSign found rest
  · rw [isWritten]
    exact percentDecodeOnto_of_ne (by decide) found rest
  · have kept :
        ((percentTriple octet).flatMap String.utf8EncodeChar).map spaced =
          (percentTriple octet).flatMap String.utf8EncodeChar := by
      refine (List.map_congr_left fun other member => ?_).trans (List.map_id _)
      exact if_neg (ne_of_mem_triple member (by decide) (by decide))
    have read := percentDecodeOnto_triple keepsTriples_id octet found rest
    rw [List.map_id] at read
    rw [isTriple, kept, read]

/-- A name or a value is read as it was before it was written. -/
theorem decodePart_encodePart (part : String) :
    decodePart ((encodePart part).flatMap String.utf8EncodeChar) = part := by
  have onto (octets found : Octets) :
      percentDecodeOnto found
          (((octets.flatMap encodeOctet).flatMap String.utf8EncodeChar).map spaced) =
        octets.reverse ++ found := by
    induction octets generalizing found with
    | nil => rfl
    | cons first others inductionHypothesis =>
        rw [List.flatMap_cons, List.flatMap_append, List.map_append,
          percentDecodeOnto_encodeOctet, inductionHypothesis]
        simp
  rw [decodePart_eq, encodePart, percentDecode, onto, List.append_nil, List.reverse_reverse,
    Utf8.decodeLossy_encode]

/-- No ampersand and no equals sign stands in a written name or value. -/
theorem noMark_of_mem_encodePart
    {part : String}
    {octet : UInt8}
    (member : octet ∈ (encodePart part).flatMap String.utf8EncodeChar) :
    octet ≠ 0x26 ∧ octet ≠ 0x3D := by
  rw [encodePart, List.flatMap_assoc] at member
  obtain ⟨source, -, isWritten⟩ := List.mem_flatMap.mp member
  rcases encodeOctet_cases source with ⟨plain, isSource⟩ | ⟨rfl, isPlus⟩ | isTriple
  · rw [isSource, List.mem_singleton] at isWritten
    subst isWritten
    constructor <;> rintro rfl <;> exact absurd plain (by decide)
  · rw [isPlus, List.mem_singleton] at isWritten
    subst isWritten
    decide
  · rw [isTriple] at isWritten
    exact ⟨ne_of_mem_triple isWritten (by decide) (by decide),
      ne_of_mem_triple isWritten (by decide) (by decide)⟩

/-- The bytes of a pair are those of the name and of the value, around an equals sign. -/
private theorem octets_encodePair (pair : String × String) :
    (encodePair pair).flatMap String.utf8EncodeChar =
      (encodePart pair.1).flatMap String.utf8EncodeChar ++
        0x3D :: (encodePart pair.2).flatMap String.utf8EncodeChar := by
  rw [encodePair, List.flatMap_append, List.flatMap_cons]
  rfl

/-- A pair is divided at the first equals sign, which is not in the name. -/
theorem decodePair_encodePair (pair : String × String) :
    decodePair ((encodePair pair).flatMap String.utf8EncodeChar) = pair := by
  have isCut :=
    Text.cutAt?_eq_some_iff.mpr
      ⟨octets_encodePair pair, fun member => (noMark_of_mem_encodePart member).2 rfl⟩
  rw [decodePair, Text.cutOrWhole, isCut]
  dsimp only [Option.getD_some]
  rw [decodePart_encodePart, decodePart_encodePart]

private theorem flatMap_intercalate
    {α β : Type}
    (separator : List α)
    (parts : List (List α))
    (written : α → List β) :
    (separator.intercalate parts).flatMap written =
      (separator.flatMap written).intercalate (parts.map (List.flatMap written)) := by
  induction parts with
  | nil => rfl
  | cons first others inductionHypothesis =>
      cases others with
      | nil => simp
      | cons second others =>
          rw [List.intercalate_cons_cons, List.flatMap_append, List.flatMap_append,
            inductionHypothesis]
          simp only [List.map_cons]
          rw [List.intercalate_cons_cons]

/-- The pairs of a form are read as they were written, in their order. -/
theorem decode_encode (pairs : List (String × String)) :
    decode (Utf8.encode (encode pairs)) = pairs := by
  let written (pair : String × String) : Octets :=
    (encodePair pair).flatMap String.utf8EncodeChar
  have isForm : Utf8.encode (encode pairs) = [0x26].intercalate (pairs.map written) := by
    rw [encode, Utf8.encode_ofList, flatMap_intercalate, List.map_map]
    rfl
  have undivided (pair : String × String) : 0x26 ∉ written pair := by
    simp only [written, octets_encodePair, List.mem_append, List.mem_cons, not_or]
    exact ⟨fun member => (noMark_of_mem_encodePart member).1 rfl, by decide,
      fun member => (noMark_of_mem_encodePart member).1 rfl⟩
  have notEmpty (pair : String × String) : (written pair).isEmpty = false := by
    simp [written, octets_encodePair]
  rw [decode, isForm]
  cases pairs with
  | nil => rfl
  | cons first others =>
      rw [List.splitOn_intercalate, List.filter_eq_self.mpr, List.map_map]
      · exact (List.map_congr_left fun pair _ => decodePair_encodePair pair).trans
          (List.map_id _)
      · intro part member
        obtain ⟨pair, -, rfl⟩ := List.mem_map.mp member
        rw [notEmpty, Bool.not_false]
      · intro part member
        obtain ⟨pair, -, rfl⟩ := List.mem_map.mp member
        exact undivided pair
      · exact List.cons_ne_nil _ _

end Form

end SecretsAdmin.Url
