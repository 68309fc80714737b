import SecretsAdmin.Text.Utf8

namespace SecretsAdmin.Utf8

/-!
# Reading what was written in UTF-8

The bytes of a character are one piece wherever they stand, so the bytes of a text decode to the
text.
-/

private theorem toNat_lt (character : Char) :
    character.val.toNat < 0x110000 := by
  have valid := character.valid
  simp only [UInt32.isValidChar, Nat.isValidChar] at valid
  omega

private theorem not_surrogate (character : Char) :
    ¬(0xD800 ≤ character.val.toNat ∧ character.val.toNat ≤ 0xDFFF) := by
  have valid := character.valid
  simp only [UInt32.isValidChar, Nat.isValidChar] at valid
  omega

theorem toNat_octet
    {number : Nat}
    (small : number < 0x100) :
    (UInt8.ofNat number).toNat = number := by
  rw [UInt8.toNat_ofNat']
  exact Nat.mod_eq_of_lt small

/-- A character of ASCII is written as one byte. -/
theorem utf8EncodeChar_of_ascii
    {character : Char}
    (isAscii : character.toNat < 0x80) :
    String.utf8EncodeChar character = [UInt8.ofNat character.toNat] := by
  have small : character.val.toNat ≤ 0x7F := Nat.le_of_lt_succ isAscii
  unfold String.utf8EncodeChar
  rw [if_pos small]
  rfl

/-- A character outside ASCII is written with bytes that no character of ASCII has. -/
theorem le_of_mem_utf8EncodeChar
    {character : Char}
    {octet : UInt8}
    (outside : 0x80 ≤ character.toNat)
    (member : octet ∈ String.utf8EncodeChar character) :
    0x80 ≤ octet.toNat := by
  have outside : 0x80 ≤ character.val.toNat := outside
  unfold String.utf8EncodeChar at member
  dsimp only at member
  split at member
  next => omega
  next =>
    split at member
    next =>
      simp only [List.mem_cons, List.not_mem_nil, or_false] at member
      rcases member with rfl | rfl <;> rw [toNat_octet (by omega)] <;> omega
    next =>
      split at member
      next =>
        simp only [List.mem_cons, List.not_mem_nil, or_false] at member
        rcases member with rfl | rfl | rfl <;> rw [toNat_octet (by omega)] <;> omega
      next =>
        simp only [List.mem_cons, List.not_mem_nil, or_false] at member
        rcases member with rfl | rfl | rfl | rfl <;> rw [toNat_octet (by omega)] <;> omega

/-- A byte that may come next, and that is not the last one due, continues an encoding. -/
private theorem advance_more
    {found : List Piece}
    {width due lowest highest value number : Nat}
    (least : lowest ≤ number)
    (greatest : number ≤ highest)
    (small : number < 0x100) :
    Progress.advance ⟨found, some ⟨width, due + 2, lowest, highest, value⟩⟩ (UInt8.ofNat number) =
      ⟨found, some ⟨width + 1, due + 1, 0x80, 0xBF, value * 64 + (number - 0x80)⟩⟩ := by
  simp [Progress.advance, toNat_octet small, least, greatest]

/-- A byte that may come next, and that is the last one due, completes an encoding. -/
private theorem advance_last
    {found : List Piece}
    {width lowest highest value number : Nat}
    (least : lowest ≤ number)
    (greatest : number ≤ highest)
    (small : number < 0x100) :
    Progress.advance ⟨found, some ⟨width, 1, lowest, highest, value⟩⟩ (UInt8.ofNat number) =
      ⟨.scalar (Char.ofNat (value * 64 + (number - 0x80))) :: found, none⟩ := by
  simp [Progress.advance, toNat_octet small, least, greatest]

/-- Without an encoding under way, a byte begins one. -/
private theorem advance_none
    {found : List Piece}
    {number : Nat}
    (small : number < 0x100) :
    Progress.advance ⟨found, none⟩ (UInt8.ofNat number) = .start found number := by
  simp only [Progress.advance, toNat_octet small]

/-! The first byte of a character tells how many more there are. -/

theorem start_of_two
    {byte : Nat}
    (found : List Piece)
    (least : 0xC2 ≤ byte)
    (less : byte < 0xE0) :
    Progress.start found byte = ⟨found, some ⟨1, 1, 0x80, 0xBF, byte - 0xC0⟩⟩ := by
  rw [Progress.start, if_neg (by omega), if_neg (by omega), if_pos less]

theorem start_of_three
    {byte : Nat}
    (found : List Piece)
    (least : 0xE0 ≤ byte)
    (less : byte < 0xF0) :
    Progress.start found byte =
      ⟨found, some ⟨1, 2,
        if byte = 0xE0 then 0xA0 else 0x80,
        if byte = 0xED then 0x9F else 0xBF,
        byte - 0xE0⟩⟩ := by
  rw [Progress.start, if_neg (by omega), if_neg (by omega), if_neg (by omega), if_pos less]

theorem start_of_four
    {byte : Nat}
    (found : List Piece)
    (least : 0xF0 ≤ byte)
    (less : byte < 0xF5) :
    Progress.start found byte =
      ⟨found, some ⟨1, 3,
        if byte = 0xF0 then 0x90 else 0x80,
        if byte = 0xF4 then 0x8F else 0xBF,
        byte - 0xF0⟩⟩ := by
  rw [Progress.start, if_neg (by omega), if_neg (by omega), if_neg (by omega),
    if_neg (by omega), if_pos less]

/--
The bytes of a character complete one piece. There is one case for each length; the first byte
bounds the second one.
-/
theorem foldl_advance_char
    (character : Char)
    (found : List Piece) :
    (String.utf8EncodeChar character).foldl Progress.advance ⟨found, none⟩ =
      ⟨.scalar character :: found, none⟩ := by
  have small := toNat_lt character
  have isScalar := not_surrogate character
  have same : Char.ofNat character.val.toNat = character := Char.ofNat_toNat character
  unfold String.utf8EncodeChar
  dsimp only
  generalize character.val.toNat = value at *
  split
  next isAscii =>
    rw [List.foldl_cons, List.foldl_nil, advance_none (by omega), Progress.start,
      if_pos (by omega), same]
  next notAscii =>
    split
    next isShort =>
      have whole :
          (value / 64 % 32 + 0xC0 - 0xC0) * 64 + (value % 64 + 0x80 - 0x80) = value := by
        omega
      rw [List.foldl_cons, List.foldl_cons, List.foldl_nil, advance_none (by omega),
        start_of_two found (by omega) (by omega),
        advance_last (by omega) (by omega) (by omega), whole, same]
    next notShort =>
      split
      next isMiddle =>
        have whole :
            ((value / 4096 % 16 + 0xE0 - 0xE0) * 64 + (value / 64 % 64 + 0x80 - 0x80)) * 64 +
              (value % 64 + 0x80 - 0x80) = value := by
          omega
        rw [List.foldl_cons, List.foldl_cons, List.foldl_cons, List.foldl_nil,
          advance_none (by omega), start_of_three found (by omega) (by omega),
          advance_more (by split <;> omega) (by split <;> omega) (by omega),
          advance_last (by omega) (by omega) (by omega), whole, same]
      next isLong =>
        have whole :
            (((value / 262144 % 8 + 0xF0 - 0xF0) * 64 + (value / 4096 % 64 + 0x80 - 0x80)) * 64 +
              (value / 64 % 64 + 0x80 - 0x80)) * 64 + (value % 64 + 0x80 - 0x80) = value := by
          omega
        rw [List.foldl_cons, List.foldl_cons, List.foldl_cons, List.foldl_cons, List.foldl_nil,
          advance_none (by omega), start_of_four found (by omega) (by omega),
          advance_more (by split <;> omega) (by split <;> omega) (by omega),
          advance_more (by omega) (by omega) (by omega),
          advance_last (by omega) (by omega) (by omega), whole, same]

/-- The bytes of characters complete one piece for each. -/
theorem foldl_advance_chars
    (characters : List Char)
    (found : List Piece) :
    (characters.flatMap String.utf8EncodeChar).foldl Progress.advance ⟨found, none⟩ =
      ⟨(characters.map Piece.scalar).reverse ++ found, none⟩ := by
  induction characters generalizing found with
  | nil => rfl
  | cons first rest inductionHypothesis =>
      rw [List.flatMap_cons, List.foldl_append, foldl_advance_char, inductionHypothesis]
      simp

private theorem gather_scalars
    (characters gathered : List Char)
    (offset : Nat) :
    gather gathered offset (characters.map Piece.scalar) =
      .ok (characters.reverse ++ gathered) := by
  induction characters generalizing gathered offset with
  | nil => rfl
  | cons first rest inductionHypothesis =>
      rw [List.map_cons, gather, inductionHypothesis]
      simp

/-- The bytes of a text are divided into its characters. -/
theorem pieces_encode (text : String) :
    pieces (encode text) = text.toList.map Piece.scalar := by
  rw [pieces, encode, foldl_advance_chars]
  simp [Progress.finish]

/-- The bytes of a text decode to the text. -/
theorem decode_encode (text : String) :
    decode (encode text) = .ok text := by
  rw [decode, pieces_encode, gather_scalars]
  simp [Except.map]

theorem decode?_encode (text : String) :
    decode? (encode text) = some text := by
  rw [decode?, decode_encode]
  rfl

/-- Nothing in the bytes of a text needs a replacement. -/
theorem decodeLossy_encode (text : String) :
    decodeLossy (encode text) = text := by
  rw [decodeLossy, pieces_encode, List.map_map]
  exact (congrArg String.ofList (List.map_id _)).trans String.ofList_toList

/-- Texts with the same bytes are the same. -/
theorem encode_injective : Function.Injective encode := fun left right same => by
  rw [← decodeLossy_encode left, same, decodeLossy_encode]

theorem encode_ofList (characters : List Char) :
    encode (String.ofList characters) = characters.flatMap String.utf8EncodeChar := by
  rw [encode, String.toList_ofList]

end SecretsAdmin.Utf8
