import SecretsAdmin.Base64

namespace SecretsAdmin.Base64

/-!
# Reading base64

Three bytes are written as four characters, which are read as the same three bytes; what is left
at the end is padded, and the padding tells how much it is. No other text is read.
-/

/-! ## Characters and their numbers -/

theorem value?_symbol
    {value : Nat}
    (small : value < 64) :
    value? (symbol value) = some value ∧ symbol value ≠ '=' := by
  have each : ∀ value < 64, value? (symbol value) = some value ∧ symbol value ≠ '=' := by
    decide
  exact each value small

/-- A character that has a number is the one that is written for the number. -/
theorem symbol_of_value?
    {character : Char}
    {value : Nat}
    (isValue : value? character = some value) :
    value < 64 ∧ symbol value = character := by
  have ofCode {number : Nat} (isCode : number = character.toNat) :
      Char.ofNat number = character := by
    rw [isCode, Char.ofNat_toNat]
  unfold value? at isValue
  dsimp only at isValue
  split at isValue
  next =>
    cases isValue
    refine ⟨by omega, ?_⟩
    rw [symbol, if_pos (by omega), ofCode (by omega)]
  next =>
  split at isValue
  next =>
    cases isValue
    refine ⟨by omega, ?_⟩
    rw [symbol, if_neg (by omega), if_pos (by omega), ofCode (by omega)]
  next =>
  split at isValue
  next =>
    cases isValue
    refine ⟨by omega, ?_⟩
    rw [symbol, if_neg (by omega), if_neg (by omega), if_pos (by omega), ofCode (by omega)]
  next =>
  split at isValue
  next isPlus =>
    cases isValue
    exact ⟨by decide, isPlus.symm⟩
  next =>
  split at isValue
  next isSlash =>
    cases isValue
    exact ⟨by decide, isSlash.symm⟩
  next => cases isValue

/-! ## What is written -/

private theorem encodeOnto_append
    (written before : List Char)
    (octets : Octets) :
    encodeOnto (written ++ before) octets = encodeOnto written octets ++ before := by
  fun_induction encodeOnto written octets with
  | case1 | case2 | case3 => rfl
  | case4 written first second third rest bits inductionHypothesis =>
      rw [encodeOnto]
      exact inductionHypothesis

theorem toList_encode_nil : (encode []).toList = [] :=
  rfl

theorem toList_encode_one (first : UInt8) :
    (encode [first]).toList =
      [symbol (first.toNat * 16 / 64), symbol (first.toNat * 16 % 64), '=', '='] := by
  rw [encode, String.toList_ofList]
  rfl

theorem toList_encode_two (first second : UInt8) :
    (encode [first, second]).toList =
      let bits := (first.toNat * 256 + second.toNat) * 4
      [symbol (bits / 4096), symbol (bits / 64 % 64), symbol (bits % 64), '='] := by
  rw [encode, String.toList_ofList]
  rfl

/-- Three bytes are written as four characters, in front of those of the other bytes. -/
theorem toList_encode_more
    (first second third : UInt8)
    (rest : Octets) :
    (encode (first :: second :: third :: rest)).toList =
      let bits := (first.toNat * 256 + second.toNat) * 256 + third.toNat
      symbol (bits / 262144) :: symbol (bits / 4096 % 64) :: symbol (bits / 64 % 64) ::
        symbol (bits % 64) :: (encode rest).toList := by
  rw [encode, String.toList_ofList, encodeOnto, ← List.nil_append (symbol _ :: _),
    encodeOnto_append, List.reverse_append, encode, String.toList_ofList]
  rfl

/-! ## What was written is read -/

private theorem ofNat_eq
    {number : Nat}
    {octet : UInt8}
    (same : number = octet.toNat) :
    UInt8.ofNat number = octet := by
  rw [same, UInt8.ofNat_toNat]

/-- Four characters of the alphabet are read as three bytes, whatever follows them. -/
private theorem decodeOnto_four
    {first second third fourth : Nat}
    (isFirst : first < 64)
    (isSecond : second < 64)
    (isThird : third < 64)
    (isFourth : fourth < 64)
    (found : Octets)
    (rest : List Char) :
    decodeOnto found
        (symbol first :: symbol second :: symbol third :: symbol fourth :: rest) =
      decodeOnto
        (UInt8.ofNat ((((first * 64 + second) * 64 + third) * 64 + fourth) % 256) ::
          UInt8.ofNat ((((first * 64 + second) * 64 + third) * 64 + fourth) / 256 % 256) ::
          UInt8.ofNat ((((first * 64 + second) * 64 + third) * 64 + fourth) / 65536) :: found)
        rest := by
  have noPadding := (value?_symbol isFourth).2
  rw [decodeOnto, (value?_symbol isFirst).1, (value?_symbol isSecond).1,
    (value?_symbol isThird).1, (value?_symbol isFourth).1]
  · exact fun _ isPadding _ => noPadding isPadding
  · exact fun isPadding _ => noPadding isPadding

/--
Bytes are read from the characters that were written for them, three by three. One or two bytes at
the end are padded, and the bits to spare are zero.
-/
private theorem decodeOnto_encode :
    (octets found : Octets) →
      decodeOnto found (encode octets).toList = some (octets.reverse ++ found)
  | [], found => rfl
  | [first], found => by
      have small := first.toNat_lt
      have isFirst : (first.toNat * 16 / 64 * 64 + first.toNat * 16 % 64) / 16 = first.toNat := by
        omega
      rw [toList_encode_one, decodeOnto, (value?_symbol (by omega)).1,
        (value?_symbol (by omega)).1]
      simp only [bind, Option.bind]
      rw [if_pos (by omega), ofNat_eq isFirst]
      rfl
  | [first, second], found => by
      have firstSmall := first.toNat_lt
      have secondSmall := second.toNat_lt
      rw [toList_encode_two]
      generalize isBits : (first.toNat * 256 + second.toNat) * 4 = bits
      have whole : (bits / 4096 * 64 + bits / 64 % 64) * 64 + bits % 64 = bits := by omega
      have isFirst : bits / 1024 = first.toNat := by omega
      have isSecond : bits / 4 % 256 = second.toNat := by omega
      dsimp only
      rw [decodeOnto, (value?_symbol (by omega)).1, (value?_symbol (by omega)).1,
        (value?_symbol (by omega)).1]
      · simp only [bind, Option.bind]
        rw [whole, if_pos (by omega), ofNat_eq isFirst, ofNat_eq isSecond]
        rfl
      · exact (value?_symbol (by omega)).2
  | first :: second :: third :: rest, found => by
      have firstSmall := first.toNat_lt
      have secondSmall := second.toNat_lt
      have thirdSmall := third.toNat_lt
      rw [toList_encode_more]
      generalize isBits : (first.toNat * 256 + second.toNat) * 256 + third.toNat = bits
      have whole :
          ((bits / 262144 * 64 + bits / 4096 % 64) * 64 + bits / 64 % 64) * 64 + bits % 64 =
            bits := by
        omega
      have isFirst : bits / 65536 = first.toNat := by omega
      have isSecond : bits / 256 % 256 = second.toNat := by omega
      have isThird : bits % 256 = third.toNat := by omega
      dsimp only
      rw [decodeOnto_four (by omega) (by omega) (by omega) (by omega), whole, ofNat_eq isFirst,
        ofNat_eq isSecond, ofNat_eq isThird, decodeOnto_encode rest]
      simp

/-- Bytes are read from the text that was written for them. -/
theorem decode?_encode (octets : Octets) :
    decode? (encode octets) = some octets := by
  rw [decode?, decodeOnto_encode]
  simp

/-! ## Nothing else is read -/

private theorem toNat_ofNat
    {number : Nat}
    (small : number < 256) :
    (UInt8.ofNat number).toNat = number := by
  rw [UInt8.toNat_ofNat']
  exact Nat.mod_eq_of_lt small

/--
Characters that are read as bytes are those that are written for these bytes. No bits to spare are
lost, so the characters are told by the bytes.
-/
private theorem exists_encode_of_decodeOnto
    {found result : Octets}
    {characters : List Char}
    (isRead : decodeOnto found characters = some result) :
    ∃ octets : Octets,
      characters = (encode octets).toList ∧ result = octets.reverse ++ found := by
  fun_induction decodeOnto found characters with
  | case1 found =>
      cases isRead
      exact ⟨[], rfl, rfl⟩
  | case2 found first second =>
      obtain ⟨firstValue, isFirst, others⟩ := Option.bind_eq_some_iff.mp isRead
      obtain ⟨secondValue, isSecond, gathered⟩ := Option.bind_eq_some_iff.mp others
      obtain ⟨firstSmall, rfl⟩ := symbol_of_value? isFirst
      obtain ⟨secondSmall, rfl⟩ := symbol_of_value? isSecond
      dsimp only at gathered
      split at gathered
      next noSpare =>
        cases gathered
        refine ⟨[UInt8.ofNat ((firstValue * 64 + secondValue) / 16)], ?_, rfl⟩
        have whole :
            (firstValue * 64 + secondValue) / 16 * 16 = firstValue * 64 + secondValue := by
          omega
        have firstDigit : (firstValue * 64 + secondValue) / 64 = firstValue := by omega
        have secondDigit : (firstValue * 64 + secondValue) % 64 = secondValue := by omega
        rw [toList_encode_one, toNat_ofNat (by omega), whole, firstDigit, secondDigit]
      next => cases gathered
  | case3 found first second third =>
      obtain ⟨firstValue, isFirst, others⟩ := Option.bind_eq_some_iff.mp isRead
      obtain ⟨secondValue, isSecond, others⟩ := Option.bind_eq_some_iff.mp others
      obtain ⟨thirdValue, isThird, gathered⟩ := Option.bind_eq_some_iff.mp others
      obtain ⟨firstSmall, rfl⟩ := symbol_of_value? isFirst
      obtain ⟨secondSmall, rfl⟩ := symbol_of_value? isSecond
      obtain ⟨thirdSmall, rfl⟩ := symbol_of_value? isThird
      dsimp only at gathered
      generalize isBits : (firstValue * 64 + secondValue) * 64 + thirdValue = bits at gathered
      split at gathered
      next noSpare =>
        cases gathered
        refine ⟨[UInt8.ofNat (bits / 1024), UInt8.ofNat (bits / 4 % 256)], ?_, rfl⟩
        have whole : (bits / 1024 * 256 + bits / 4 % 256) * 4 = bits := by omega
        have firstDigit : bits / 4096 = firstValue := by omega
        have secondDigit : bits / 64 % 64 = secondValue := by omega
        have thirdDigit : bits % 64 = thirdValue := by omega
        rw [toList_encode_two, toNat_ofNat (by omega), toNat_ofNat (by omega), whole]
        dsimp only
        rw [firstDigit, secondDigit, thirdDigit]
      next => cases gathered
  | case4 found first second third fourth rest _ _ firstValue secondValue thirdValue fourthValue
      isFourth isThird isSecond isFirst bits inductionHypothesis =>
      obtain ⟨octets, isRest, rfl⟩ := inductionHypothesis isRead
      obtain ⟨firstSmall, rfl⟩ := symbol_of_value? isFirst
      obtain ⟨secondSmall, rfl⟩ := symbol_of_value? isSecond
      obtain ⟨thirdSmall, rfl⟩ := symbol_of_value? isThird
      obtain ⟨fourthSmall, rfl⟩ := symbol_of_value? isFourth
      have isBits : ((firstValue * 64 + secondValue) * 64 + thirdValue) * 64 + fourthValue = bits :=
        rfl
      clear_value bits
      refine ⟨UInt8.ofNat (bits / 65536) :: UInt8.ofNat (bits / 256 % 256) ::
        UInt8.ofNat (bits % 256) :: octets, ?_, by simp⟩
      have whole : (bits / 65536 * 256 + bits / 256 % 256) * 256 + bits % 256 = bits := by omega
      have firstDigit : bits / 262144 = firstValue := by omega
      have secondDigit : bits / 4096 % 64 = secondValue := by omega
      have thirdDigit : bits / 64 % 64 = thirdValue := by omega
      have fourthDigit : bits % 64 = fourthValue := by omega
      rw [toList_encode_more, toNat_ofNat (by omega), toNat_ofNat (by omega),
        toNat_ofNat (by omega), whole, isRest]
      dsimp only
      rw [firstDigit, secondDigit, thirdDigit, fourthDigit]
  | case5 => cases isRead
  | case6 => cases isRead

/-- A text is read as bytes exactly if it is the one that is written for them. -/
theorem decode?_eq_some_iff
    {text : String}
    {octets : Octets} :
    decode? text = some octets ↔ text = encode octets := by
  constructor
  · intro isDecoded
    obtain ⟨reversed, isRead, rfl⟩ := Option.map_eq_some_iff.mp isDecoded
    obtain ⟨octets, isWritten, rfl⟩ := exists_encode_of_decodeOnto isRead
    rw [List.append_nil, List.reverse_reverse]
    exact String.toList_inj.mp isWritten
  · rintro rfl
    exact decode?_encode octets

end SecretsAdmin.Base64
