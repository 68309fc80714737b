import SecretsAdmin.Json.Codec
import SecretsAdmin.Proofs.Json.Text

namespace SecretsAdmin.Json

/-!
# Reading numbers

The readers of numbers take all digits, since whatever follows a value in a document is no part
of a number. A whole number without fraction and exponent is read as its value, and printed
numbers are a case of this.
-/

/-- Whether a rest cannot go on with a value: it is empty, or begins with a comma or a bracket. -/
def Follows (rest : Octets) : Prop :=
  ∀ octet ∈ rest.head?, octet = 0x2C ∨ octet = 0x5D ∨ octet = 0x7D

/-- Whether a rest cannot go on with a value, or begins with a blank. -/
def Ends (rest : Octets) : Prop :=
  ∀ octet ∈ rest.head?,
    isBlankOctet octet = true ∨ octet = 0x2C ∨ octet = 0x5D ∨ octet = 0x7D

theorem Follows.ends
    {rest : Octets}
    (follows : Follows rest) :
    Ends rest :=
  fun octet isHead => .inr (follows octet isHead)

/-! ## Digits -/

/-- A digit is one byte, and the byte has the value of the digit. -/
theorem octet_of_digit
    {digit : Char}
    (isDigit : digit.isDigit = true) :
    ∃ octet,
      String.utf8EncodeChar digit = [octet] ∧
        Json.isDigit octet = true ∧
        octet.toNat = digit.toNat := by
  simp only [Char.isDigit, Bool.and_eq_true, decide_eq_true_eq] at isDigit
  have least : 0x30 ≤ digit.toNat := UInt32.le_iff_toNat_le.mp isDigit.1
  have greatest : digit.toNat ≤ 0x39 := UInt32.le_iff_toNat_le.mp isDigit.2
  have isOctet := Utf8.toNat_octet (by omega : digit.toNat < 0x100)
  refine ⟨UInt8.ofNat digit.toNat, Utf8.utf8EncodeChar_of_ascii (by omega), ?_, isOctet⟩
  simp only [Json.isDigit, Bool.and_eq_true, decide_eq_true_eq, UInt8.le_iff_toNat_le, isOctet]
  exact ⟨least, greatest⟩

/-- Whether a rest does not begin with a digit. -/
def EndsDigits (rest : Octets) : Prop :=
  ∀ octet ∈ rest.head?, isDigit octet = false

theorem Ends.endsDigits
    {rest : Octets}
    (ends : Ends rest) :
    EndsDigits rest := by
  intro octet isHead
  rcases ends octet isHead with isBlank | rfl | rfl | rfl
  · simp only [isBlankOctet, Bool.or_eq_true, beq_iff_eq] at isBlank
    rcases isBlank with ((rfl | rfl) | rfl) | rfl <;> rfl
  all_goals rfl

/-- Neither a fraction nor an exponent begins where a value ends. -/
theorem Ends.endsNumber
    {octet : UInt8}
    {others : Octets}
    (ends : Ends (octet :: others)) :
    octet ≠ 0x2E ∧ octet ≠ 0x65 ∧ octet ≠ 0x45 := by
  rcases ends octet rfl with isBlank | rfl | rfl | rfl
  · simp only [isBlankOctet, Bool.or_eq_true, beq_iff_eq] at isBlank
    rcases isBlank with ((rfl | rfl) | rfl) | rfl <;> decide
  all_goals decide

theorem dropWhile_digits
    {digits : List Char}
    {rest : Octets}
    (areDigits : ∀ digit ∈ digits, digit.isDigit = true)
    (ends : EndsDigits rest) :
    (octets digits ++ rest).dropWhile isDigit = rest := by
  induction digits with
  | nil =>
      cases rest with
      | nil => rfl
      | cons octet others =>
          rw [octets_nil, List.nil_append, List.dropWhile_cons, ends octet rfl]
          rfl
  | cons first others inductionHypothesis =>
      obtain ⟨octet, encoded, isDigit, -⟩ :=
        octet_of_digit (areDigits first List.mem_cons_self)
      rw [octets_cons, encoded, List.append_assoc, List.singleton_append, List.dropWhile_cons,
        if_pos isDigit]
      exact inductionHypothesis fun digit member => areDigits digit (List.mem_cons_of_mem _ member)

private theorem le_ofDigitChars
    (digits : List Char)
    (number : Nat) :
    number ≤ Nat.ofDigitChars 10 digits number := by
  rw [Nat.ofDigitChars_eq_ofDigitChars_zero]
  have positive : 0 < 10 ^ digits.length := Nat.pow_pos (by decide)
  have grows := Nat.le_mul_of_pos_left number positive
  omega

private theorem toDigits_eq_cons
    {number : Nat}
    (positive : 0 < number) :
    ∃ first rest, Nat.toDigits 10 number = first :: rest ∧ first ≠ '0' := by
  induction number using Nat.strongRecOn with
  | ind number inductionHypothesis =>
      by_cases small : number < 10
      · refine ⟨number.digitChar, [], Nat.toDigits_of_lt_base small, ?_⟩
        intro isZero
        have sameNumber := Nat.toNat_digitChar_sub_48_of_lt_ten small
        rw [isZero] at sameNumber
        exact absurd sameNumber.symm (by simp; omega)
      · obtain ⟨first, rest, digits, notZero⟩ :=
          inductionHypothesis (number / 10) (by omega) (by omega)
        refine ⟨first, rest ++ [(number % 10).digitChar], ?_, notZero⟩
        rw [Nat.toDigits_of_base_le (by decide) (by omega), digits, List.cons_append]

/-- The digits that are printed for a number are those of a whole number. -/
theorem isWhole_toDigits (number : Nat) :
    IsWhole (Nat.toDigits 10 number) := by
  refine ⟨⟨Nat.toDigits_ne_nil, fun digit member =>
    Nat.isDigit_of_mem_toDigits (by decide) (by decide) member⟩, fun isZero => ?_⟩
  rcases Nat.eq_zero_or_pos number with rfl | positive
  · rfl
  · obtain ⟨first, rest, digits, notZero⟩ := toDigits_eq_cons positive
    rw [digits, List.head?_cons] at isZero
    exact absurd (Option.some.inj isZero) notZero

/-- A whole number begins with a digit, which is no zero unless nothing else follows. -/
theorem IsWhole.cons
    {whole : List Char}
    (isWhole : IsWhole whole) :
    ∃ first octet others,
      whole = first :: others ∧ String.utf8EncodeChar first = [octet] ∧
        isDigit octet = true ∧ octet.toNat = first.toNat ∧
        (∀ digit ∈ others, digit.isDigit = true) ∧
        (octet = 0x30 → others = []) := by
  obtain ⟨⟨notEmpty, areDigits⟩, leading⟩ := isWhole
  obtain ⟨first, others, rfl⟩ := List.exists_cons_of_ne_nil notEmpty
  obtain ⟨octet, encoded, isDigit, value⟩ := octet_of_digit (areDigits first List.mem_cons_self)
  refine ⟨first, octet, others, rfl, encoded, isDigit, value,
    fun digit member => areDigits digit (List.mem_cons_of_mem _ member), ?_⟩
  rintro rfl
  obtain rfl : first = '0' := Char.toNat_inj.mp value.symm
  exact (List.cons.inj (leading rfl)).2

/-! ## Scanning -/

section Scan

variable {rest : Octets}

/-- Digits are gathered in a way that does not depend on what follows them. -/
private theorem scanWhole_digits
    {digits : List Char}
    (areDigits : ∀ digit ∈ digits, digit.isDigit = true)
    (significand dropped : Nat) :
    ∃ gathered others,
      (∀ rest, EndsDigits rest →
        scanWhole significand dropped (octets digits ++ rest) = (gathered, others, rest)) ∧
      (dropped = 0 → Nat.ofDigitChars 10 digits significand ≤ greatestSignificand →
        gathered = Nat.ofDigitChars 10 digits significand ∧ others = 0) := by
  induction digits generalizing significand dropped with
  | nil =>
      refine ⟨significand, dropped, fun rest ends => ?_, fun isZero _ => ⟨rfl, isZero⟩⟩
      cases rest with
      | nil => rfl
      | cons octet others => simp [scanWhole, ends octet rfl]
  | cons first others inductionHypothesis =>
      obtain ⟨octet, encoded, isDigit, value⟩ :=
        octet_of_digit (areDigits first List.mem_cons_self)
      have areOthers : ∀ digit ∈ others, digit.isDigit = true :=
        fun digit member => areDigits digit (List.mem_cons_of_mem _ member)
      have longer :
          significand * 10 + digitValue octet = 10 * significand + (first.toNat - '0'.toNat) := by
        rw [digitValue, value, Nat.mul_comm]
        rfl
      rw [Nat.ofDigitChars_cons, ← longer]
      by_cases isKept : dropped = 0 ∧ significand * 10 + digitValue octet ≤ greatestSignificand
      · obtain ⟨gathered, more, scanned, exact⟩ :=
          inductionHypothesis areOthers (significand * 10 + digitValue octet) 0
        refine ⟨gathered, more, fun rest ends => ?_, fun _ => exact rfl⟩
        rw [octets_cons, encoded, List.append_assoc, List.singleton_append, scanWhole,
          if_pos isDigit, if_pos isKept, scanned rest ends]
      · obtain ⟨gathered, more, scanned, -⟩ :=
          inductionHypothesis areOthers significand (dropped + 1)
        refine ⟨gathered, more, fun rest ends => ?_, fun isZero fits => ?_⟩
        · rw [octets_cons, encoded, List.append_assoc, List.singleton_append, scanWhole,
            if_pos isDigit, if_neg isKept, scanned rest ends]
        · exact absurd ⟨isZero, Nat.le_trans (le_ofDigitChars others _) fits⟩ isKept

/-- The scanner takes the digits of a whole number, exactly if they fit into the significand. -/
theorem scanNumber_whole
    {whole : List Char}
    (isWhole : IsWhole whole)
    (negative : Bool) :
    ∃ gathered others,
      (∀ rest, EndsDigits rest →
        scanNumber negative (octets whole ++ rest) =
          scanAfterWhole negative gathered others rest) ∧
      (Nat.ofDigitChars 10 whole 0 ≤ greatestSignificand →
        gathered = Nat.ofDigitChars 10 whole 0 ∧ others = 0) := by
  obtain ⟨first, octet, digits, rfl, encoded, isDigit, value, areDigits, leading⟩ := isWhole.cons
  have firstValue : digitValue octet = 10 * 0 + (first.toNat - '0'.toNat) := by
    rw [digitValue, value, Nat.mul_zero, Nat.zero_add]
    rfl
  by_cases isZero : octet = 0x30
  · obtain rfl := leading isZero
    refine ⟨0, 0, fun rest ends => ?_, fun _ => ⟨?_, rfl⟩⟩
    · rw [octets_cons, encoded, isZero]
      cases rest with
      | nil => rfl
      | cons next others =>
          show (if Json.isDigit next = true then _
            else scanAfterWhole negative 0 0 (next :: others)) = _
          rw [ends next rfl]
          rfl
    · rw [Nat.ofDigitChars_cons, ← firstValue, isZero]
      rfl
  · obtain ⟨gathered, others, scanned, exact⟩ :=
      scanWhole_digits areDigits (digitValue octet) 0
    refine ⟨gathered, others, fun rest ends => ?_, fun fits => ?_⟩
    · rw [octets_cons, encoded, List.append_assoc, List.singleton_append]
      unfold scanNumber
      dsimp only
      rw [if_neg isZero, if_pos isDigit, scanned rest ends]
    · rw [Nat.ofDigitChars_cons, ← firstValue] at fits ⊢
      exact exact rfl fits

/-- Behind the digits of a whole number that all count, the end of a value makes it whole. -/
theorem scanAfterWhole_ends
    (ends : Ends rest)
    (negative : Bool)
    (significand dropped : Nat) :
    scanAfterWhole negative significand dropped rest =
      if dropped ≠ 0 then
        finishReal negative significand dropped rest
      else if negative = false then
        .ok (.integer significand, rest)
      else if 1 ≤ significand ∧ significand ≤ 0x8000000000000000 then
        .ok (.integer (-significand), rest)
      else
        finishReal negative significand 0 rest := by
  unfold scanAfterWhole
  split
  next => exact absurd rfl ends.endsNumber.1
  next => exact absurd rfl ends.endsNumber.2.1
  next => exact absurd rfl ends.endsNumber.2.2
  next => rfl

end Scan

/-! ## Signed numbers of 64 bits -/

theorem skipBlanks_cons
    {octet : UInt8}
    (notBlank : isBlankOctet octet = false)
    (others : Octets) :
    skipBlanks (octet :: others) = octet :: others := by
  rw [skipBlanks, List.dropWhile_cons, notBlank]
  rfl

/-- A digit is neither a blank, nor a sign, nor a bracket, nor a quote, nor a letter. -/
theorem digit_ne
    {octet other : UInt8}
    (digit : isDigit octet = true)
    (notDigit : isDigit other = false) :
    octet ≠ other := by
  rintro rfl
  exact Bool.noConfusion (digit.symm.trans notDigit)

theorem isBlankOctet_of_digit
    {octet : UInt8}
    (digit : isDigit octet = true) :
    isBlankOctet octet = false := by
  simp only [isBlankOctet, Bool.or_eq_false_iff, beq_eq_false_iff_ne]
  exact ⟨⟨⟨digit_ne digit rfl, digit_ne digit rfl⟩, digit_ne digit rfl⟩, digit_ne digit rfl⟩

/-- A number begins with a sign or a digit. -/
theorem IsNumber.begins
    {written : List Char}
    (isNumber : IsNumber written) :
    ∃ octet others,
      octets written = octet :: others ∧ (octet = 0x2D ∨ isDigit octet = true) := by
  obtain ⟨sign, whole, fraction, exponent, isSign, isWhole, -, -, rfl⟩ := isNumber
  rcases List.mem_pair.mp isSign with rfl | rfl
  · obtain ⟨first, octet, digits, rfl, encoded, isDigit, -⟩ := isWhole.cons
    exact ⟨octet, _,
      by rw [List.nil_append, List.cons_append, octets_cons, encoded, List.singleton_append],
      .inr isDigit⟩
  · exact ⟨0x2D, _, rfl, .inl rfl⟩

/-- A number is read from its digits on, after a sign if it has one. -/
theorem readInteger_signed
    {whole : List Char}
    (sign : List Char)
    (isSign : sign ∈ [[], ['-']])
    (isWhole : IsWhole whole)
    (rest : Octets) :
    readInteger (octets (sign ++ whole) ++ rest) = (do
      let (number, unread) ← scanNumber (!sign.isEmpty) (octets whole ++ rest)
      checkInteger number unread) := by
  rcases List.mem_pair.mp isSign with rfl | rfl
  · obtain ⟨first, octet, digits, rfl, encoded, digit, -⟩ := isWhole.cons
    rw [List.nil_append, octets_cons, encoded, List.append_assoc, List.singleton_append,
      readInteger, skipBlanks_cons (isBlankOctet_of_digit digit)]
    split
    next isMinus => exact absurd (List.cons.inj isMinus).1 (digit_ne digit rfl)
    next octet others isSame =>
      obtain ⟨rfl, rfl⟩ := List.cons.inj isSame
      rw [if_pos digit]
      rfl
    next isEmpty => cases isEmpty
  · rfl

private theorem checkInteger_toInt
    (number : Int64)
    (rest : Octets) :
    checkInteger (.integer number.toInt) rest = .ok (number, rest) := by
  have least := number.le_toInt
  have less := number.toInt_lt
  have inRange : isInt64 number.toInt = true := by
    simp only [isInt64, Bool.and_eq_true, decide_eq_true_eq]
    omega
  rw [checkInteger, if_pos inRange, Int64.ofInt_toInt]

private theorem ofDigitChars_pos
    {whole : List Char}
    (isWhole : IsWhole whole)
    (notZero : whole ≠ ['0']) :
    1 ≤ Nat.ofDigitChars 10 whole 0 := by
  obtain ⟨first, octet, digits, rfl, encoded, digit, value, -⟩ := isWhole.cons
  have least : 0x30 ≤ first.toNat := by
    simp only [isDigit, Bool.and_eq_true, decide_eq_true_eq, UInt8.le_iff_toNat_le] at digit
    exact value ▸ digit.1
  have differs : first.toNat ≠ 0x30 := fun isZero => by
    obtain rfl : first = '0' := Char.toNat_inj.mp isZero
    exact notZero (isWhole.2 rfl)
  rw [Nat.ofDigitChars_cons]
  refine Nat.le_trans ?_ (le_ofDigitChars digits _)
  show 1 ≤ 10 * 0 + (first.toNat - 0x30)
  omega

/-- The reader of signed numbers reads the number that is written. -/
theorem SpellsInteger.read
    {written : List Char}
    {number : Int64}
    {rest : Octets}
    (spells : SpellsInteger written number)
    (ends : Ends rest) :
    readInteger (octets written ++ rest) = .ok (number, rest) := by
  have least := number.le_toInt
  have less := number.toInt_lt
  obtain ⟨whole, isWhole, ⟨rfl, isNumber⟩ | ⟨rfl, notZero, isNumber⟩⟩ := spells
  · obtain ⟨gathered, others, scanned, exact⟩ := scanNumber_whole isWhole false
    obtain ⟨rfl, rfl⟩ := exact (by rw [greatestSignificand]; omega)
    have read := readInteger_signed [] List.mem_cons_self isWhole rest
    rw [List.nil_append] at read
    rw [read, show (!List.isEmpty ([] : List Char)) = false from rfl,
      scanned rest ends.endsDigits, scanAfterWhole_ends ends, if_neg (by decide), if_pos rfl,
      ← isNumber]
    exact checkInteger_toInt number rest
  · obtain ⟨gathered, others, scanned, exact⟩ := scanNumber_whole isWhole true
    obtain ⟨rfl, rfl⟩ := exact (by rw [greatestSignificand]; omega)
    have positive := ofDigitChars_pos isWhole notZero
    have read :=
      readInteger_signed ['-'] (List.mem_cons_of_mem _ List.mem_cons_self) isWhole rest
    rw [show '-' :: whole = ['-'] ++ whole from rfl, read,
      show (!List.isEmpty ['-']) = true from rfl, scanned rest ends.endsDigits,
      scanAfterWhole_ends ends, if_neg (by decide), if_neg (by decide),
      if_pos ⟨positive, by omega⟩, ← isNumber]
    exact checkInteger_toInt number rest

/-! ## Printed numbers -/

/-- The text of a whole number: its digits, after a sign if it is negative. -/
theorem toString_int (number : Int) :
    (toString number).toList =
      if 0 ≤ number then
        Nat.toDigits 10 number.toNat
      else
        '-' :: Nat.toDigits 10 (-number).toNat := by
  rw [Int.toString_eq_repr, Int.repr_eq_if]
  split
  next => rw [Nat.toList_repr]
  next => rw [String.toList_append, Nat.toList_repr]; rfl

/-- A printed number begins with a byte that is neither blank nor the end of an array. -/
theorem encode_integer (number : Int) :
    ∃ octet others,
      Utf8.encode (Json.print (.integer number)) = octet :: others ∧
        isBlankOctet octet = false ∧
        octet ≠ 0x5D := by
  rw [print, Utf8.encode, toString_int]
  split
  next =>
    obtain ⟨first, octet, digits, whole, encoded, digit, -⟩ :=
      (isWhole_toDigits number.toNat).cons
    exact ⟨octet, _, by rw [whole, List.flatMap_cons, encoded, List.singleton_append],
      isBlankOctet_of_digit digit, digit_ne digit rfl⟩
  next => exact ⟨0x2D, _, rfl, rfl, by decide⟩

/-- What is printed for a number of 64 bits writes it. -/
theorem spellsInteger_print (number : Int64) :
    SpellsInteger (Json.print (.integer number.toInt)).toList number := by
  rw [print, toString_int]
  split
  next isNatural =>
    refine ⟨_, isWhole_toDigits _, .inl ⟨rfl, ?_⟩⟩
    rw [Nat.ofDigitChars_ten_toDigits, Int.toNat_of_nonneg isNatural]
  next isNegative =>
    refine ⟨_, isWhole_toDigits _, .inr ⟨rfl, fun isZero => ?_, ?_⟩⟩
    · have whole := Nat.ofDigitChars_ten_toDigits (n := (-number.toInt).toNat)
      rw [isZero] at whole
      have zero : Nat.ofDigitChars 10 ['0'] 0 = 0 := rfl
      omega
    · rw [Nat.ofDigitChars_ten_toDigits]
      omega

/-- The reader of signed numbers reads what is printed for one. -/
theorem readInteger_print
    {rest : Octets}
    (number : Int64)
    (follows : Follows rest) :
    readInteger (Utf8.encode (Json.print (.integer number.toInt)) ++ rest) =
      .ok (number, rest) :=
  (spellsInteger_print number).read follows.ends

end SecretsAdmin.Json
