import Mathlib.Algebra.Group.Nat.Defs
import Mathlib.Data.List.Basic
import SecretsAdmin.Proofs.Base64

namespace SecretsAdmin.Base64

/-!
# The rule of base64

The bits of bytes are cut into sixes, each of which is a character of the alphabet. Zeros complete
the last six, and equals signs the last four characters. The rule is stated on bits and knows
nothing of groups of bytes. By it there is one text for any bytes, the one that is written.
-/

/-- The characters in the order of their numbers. -/
def alphabet : List Char :=
  "ABCDEFGHIJKLMNOPQRSTUVWXYZabcdefghijklmnopqrstuvwxyz0123456789+/".toList

/-- The last bits of a number, the highest first. -/
def bits : (width : Nat) → Nat → List Bool
  | 0, _ => []
  | width + 1, number => bits width (number / 2) ++ [number % 2 == 1]

/-- The bits of bytes. -/
def octetBits (octets : Octets) : List Bool :=
  octets.flatMap fun octet => bits 8 octet.toNat

/-- The bits of characters, which are those of their numbers. -/
def digitBits (digits : List Char) : List Bool :=
  digits.flatMap fun digit => bits 6 (alphabet.idxOf digit)

/-- Whether a text is the padded text of bytes. -/
def StandsFor (text : List Char) (octets : Octets) : Prop :=
  ∃ digits spare padding,
    text = digits ++ List.replicate padding '=' ∧
      (∀ digit ∈ digits, digit ∈ alphabet) ∧
      digitBits digits = octetBits octets ++ List.replicate spare false ∧
      spare < 6 ∧
      padding < 4 ∧
      4 ∣ text.length

/-- What keeps a text from standing for any bytes. -/
inductive IsDefective : List Char → Prop where
  | empty :
      IsDefective []
  | unpadded
      {text : List Char}
      (incomplete : ¬4 ∣ text.length) :
      IsDefective text
  | foreign
      {text : List Char}
      {character : Char}
      (member : character ∈ text)
      (notDigit : character ∉ alphabet)
      (notPadding : character ≠ '=') :
      IsDefective text
  /-- Every equals sign stands for two bits that the last digit does not need. -/
  | trailing
      {front : List Char}
      {digit : Char}
      {padding : Nat}
      (notPadding : digit ≠ '=')
      (notZero : alphabet.idxOf digit % 4 ^ padding ≠ 0) :
      IsDefective (front ++ digit :: List.replicate padding '=')

/-! ## Bits -/

@[simp] theorem length_bits
    (width number : Nat) :
    (bits width number).length = width := by
  induction width generalizing number with
  | zero => rfl
  | succ width inductionHypothesis => simp [bits, inductionHypothesis]

/-- Bits behind others are those of a number with the others in front. -/
theorem bits_append
    (width : Nat)
    {extra low : Nat}
    (small : low < 2 ^ extra)
    (high : Nat) :
    bits width high ++ bits extra low = bits (width + extra) (high * 2 ^ extra + low) := by
  induction extra generalizing low with
  | zero =>
      obtain rfl : low = 0 := by omega
      simp [bits]
  | succ extra inductionHypothesis =>
      rw [Nat.pow_succ] at small
      have isHalf : (high * 2 ^ (extra + 1) + low) / 2 = high * 2 ^ extra + low / 2 := by
        rw [Nat.pow_succ, ← Nat.mul_assoc]
        omega
      have isLast : (high * 2 ^ (extra + 1) + low) % 2 = low % 2 := by
        rw [Nat.pow_succ, ← Nat.mul_assoc]
        omega
      rw [← Nat.add_assoc, bits, bits, isHalf, isLast, ← inductionHypothesis (by omega),
        List.append_assoc]

/-- Bits of many numbers are those of one number, of which they are the digits. -/
theorem flatMap_bits
    (width : Nat)
    {numbers : List Nat}
    (small : ∀ number ∈ numbers, number < 2 ^ width) :
    numbers.flatMap (bits width) =
      bits (width * numbers.length)
        (numbers.foldl (fun whole number => whole * 2 ^ width + number) 0) := by
  have behind (before high : Nat) :
      bits before high ++ numbers.flatMap (bits width) =
        bits (before + width * numbers.length)
          (numbers.foldl (fun whole number => whole * 2 ^ width + number) high) := by
    induction numbers generalizing before high with
    | nil => simp
    | cons number numbers inductionHypothesis =>
        rw [List.forall_mem_cons] at small
        rw [List.flatMap_cons, ← List.append_assoc, bits_append before small.1,
          inductionHypothesis small.2, List.foldl_cons, List.length_cons, Nat.mul_add_one,
          Nat.add_assoc, Nat.add_comm width]
  simpa [bits] using behind 0 0

/-- The bits of zero are not set. -/
theorem bits_zero (width : Nat) :
    bits width 0 = List.replicate width false := by
  induction width with
  | zero => rfl
  | succ width inductionHypothesis =>
      rw [bits, Nat.zero_div, inductionHypothesis, List.replicate_succ']
      rfl

/-- Numbers that fit are told apart by their bits. -/
theorem bits_injective
    {width first second : Nat}
    (firstSmall : first < 2 ^ width)
    (secondSmall : second < 2 ^ width)
    (same : bits width first = bits width second) :
    first = second := by
  induction width generalizing first second with
  | zero => omega
  | succ width inductionHypothesis =>
      rw [Nat.pow_succ] at firstSmall secondSmall
      obtain ⟨sameHalf, sameLast⟩ := List.append_inj same (by simp)
      have half := inductionHypothesis (by omega) (by omega) sameHalf
      have last : (first % 2 == 1) = (second % 2 == 1) := List.cons.inj sameLast |>.1
      rw [Bool.eq_iff_iff, beq_iff_eq, beq_iff_eq] at last
      omega

/-! ## Digits -/

/-- The value of a digit fits into six bits. -/
theorem idxOf_lt
    {digit : Char}
    (member : digit ∈ alphabet) :
    alphabet.idxOf digit < 64 :=
  List.idxOf_lt_length_iff.mpr member

/-- What is written for a number is the character at its place in the alphabet. -/
theorem symbol_eq
    {value : Nat}
    (small : value < 64) :
    symbol value ∈ alphabet ∧ alphabet.idxOf (symbol value) = value := by
  have each : ∀ value < 64, symbol value ∈ alphabet ∧ alphabet.idxOf (symbol value) = value := by
    decide +kernel
  exact each value small

@[simp] theorem length_octetBits (octets : Octets) :
    (octetBits octets).length = 8 * octets.length := by
  simp [octetBits, Nat.mul_comm]

@[simp] theorem length_digitBits (digits : List Char) :
    (digitBits digits).length = 6 * digits.length := by
  simp [digitBits, Nat.mul_comm]

/-- Digits have the bits of the numbers that they stand for. -/
theorem digitBits_symbols
    {numbers : List Nat}
    (small : ∀ number ∈ numbers, number < 64) :
    digitBits (numbers.map symbol) = numbers.flatMap (bits 6) := by
  rw [digitBits, List.flatMap_map]
  exact List.flatMap_congr fun number member => by rw [(symbol_eq (small number member)).2]

/-- Numbers below 64 are written as digits. -/
theorem areDigits_symbols
    {numbers : List Nat}
    (small : ∀ number ∈ numbers, number < 64) :
    ∀ digit ∈ numbers.map symbol, digit ∈ alphabet := by
  intro digit member
  obtain ⟨number, isThere, rfl⟩ := List.mem_map.mp member
  exact (symbol_eq (small number isThere)).1

/-- Digits are told apart by their bits. -/
theorem digitBits_injective
    {digits others : List Char}
    (areDigits : ∀ digit ∈ digits, digit ∈ alphabet)
    (areOthers : ∀ digit ∈ others, digit ∈ alphabet)
    (same : digitBits digits = digitBits others) :
    digits = others := by
  have sameLength : digits.length = others.length := by
    have lengths := congrArg List.length same
    rw [length_digitBits, length_digitBits] at lengths
    omega
  induction digits generalizing others with
  | nil => exact (List.length_eq_zero_iff.mp sameLength.symm).symm
  | cons digit digits inductionHypothesis =>
      cases others with
      | nil => cases sameLength
      | cons other others =>
          rw [List.forall_mem_cons] at areDigits areOthers
          obtain ⟨sameFirst, sameRest⟩ := List.append_inj same (by simp)
          have sameNumber :=
            bits_injective (idxOf_lt areDigits.1) (idxOf_lt areOthers.1) sameFirst
          rw [(List.idxOf_inj areDigits.1).mp sameNumber,
            inductionHypothesis areDigits.2 areOthers.2 sameRest (Nat.succ.inj sameLength)]

/-! ## The text of bytes -/

/--
The characters of numbers have the bits of bytes, with zeros behind them, if as digits the numbers
are what the bytes are, multiplied by a power of two.
-/
theorem digitBits_eq
    {numbers : List Nat}
    {octets : Octets}
    {spare : Nat}
    (small : ∀ number ∈ numbers, number < 64)
    (length : 6 * numbers.length = 8 * octets.length + spare)
    (same :
      numbers.foldl (fun whole number => whole * 2 ^ 6 + number) 0 =
        (octets.map UInt8.toNat).foldl (fun whole number => whole * 2 ^ 8 + number) 0 *
          2 ^ spare) :
    digitBits (numbers.map symbol) = octetBits octets ++ List.replicate spare false := by
  have octetsSmall : ∀ number ∈ octets.map UInt8.toNat, number < 2 ^ 8 := by
    intro number member
    obtain ⟨octet, -, rfl⟩ := List.mem_map.mp member
    exact octet.toNat_lt
  have ofOctets : octetBits octets = (octets.map UInt8.toNat).flatMap (bits 8) := by
    rw [List.flatMap_map, octetBits]
  rw [digitBits_symbols small, flatMap_bits 6 small, same, ofOctets, flatMap_bits 8 octetsSmall,
    ← bits_zero, bits_append _ (Nat.two_pow_pos spare), Nat.add_zero, length, List.length_map]

/--
What is written for bytes stands for them by the rule. One or two bytes at the end get zeros behind
them that complete six bits.
-/
theorem standsFor_encode :
    (octets : Octets) → StandsFor (encode octets).toList octets
  | [] => ⟨[], 0, 0, rfl, nofun, rfl, by decide, by decide, by simp [toList_encode_nil]⟩
  | [first] => by
      have small := first.toNat_lt
      let numbers := [first.toNat * 16 / 64, first.toNat * 16 % 64]
      have numbersSmall : ∀ number ∈ numbers, number < 64 := by simp [numbers]; omega
      refine ⟨numbers.map symbol, 4, 2, toList_encode_one first, areDigits_symbols numbersSmall,
        digitBits_eq numbersSmall rfl ?_, by decide, by decide, by simp [toList_encode_one]⟩
      simp [numbers]
      omega
  | [first, second] => by
      have firstSmall := first.toNat_lt
      have secondSmall := second.toNat_lt
      let whole := (first.toNat * 256 + second.toNat) * 4
      let numbers := [whole / 4096, whole / 64 % 64, whole % 64]
      have numbersSmall : ∀ number ∈ numbers, number < 64 := by simp [numbers, whole]; omega
      refine ⟨numbers.map symbol, 2, 1, toList_encode_two first second,
        areDigits_symbols numbersSmall, digitBits_eq numbersSmall rfl ?_, by decide, by decide,
        by simp [toList_encode_two]⟩
      simp [numbers, whole]
      omega
  | first :: second :: third :: rest => by
      have firstSmall := first.toNat_lt
      have secondSmall := second.toNat_lt
      have thirdSmall := third.toNat_lt
      obtain ⟨digits, spare, padding, isText, areDigits, isBits, few, short, complete⟩ :=
        standsFor_encode rest
      let whole := (first.toNat * 256 + second.toNat) * 256 + third.toNat
      let numbers := [whole / 262144, whole / 4096 % 64, whole / 64 % 64, whole % 64]
      have numbersSmall : ∀ number ∈ numbers, number < 64 := by simp [numbers, whole]; omega
      have isFront :
          digitBits (numbers.map symbol) =
            octetBits [first, second, third] ++ List.replicate 0 false := by
        refine digitBits_eq numbersSmall rfl ?_
        simp [numbers, whole]
        omega
      refine ⟨numbers.map symbol ++ digits, spare, padding, ?_, ?_, ?_, few, short, ?_⟩
      · rw [toList_encode_more, isText]
        rfl
      · exact List.forall_mem_append.mpr ⟨areDigits_symbols numbersSmall, areDigits⟩
      · rw [digitBits, List.flatMap_append, ← digitBits, ← digitBits, isFront, isBits]
        simp [octetBits]
      · rw [toList_encode_more]
        exact (Nat.dvd_add_left (Nat.dvd_refl 4)).mpr complete

/-- At most one text stands for bytes. -/
theorem StandsFor.unique
    {text other : List Char}
    {octets : Octets}
    (stands : StandsFor text octets)
    (alsoStands : StandsFor other octets) :
    text = other := by
  obtain ⟨digits, spare, padding, rfl, areDigits, isBits, few, short, complete⟩ := stands
  obtain ⟨others, otherSpare, otherPadding, rfl, areOthers, areBits, otherFew, otherShort,
    otherComplete⟩ := alsoStands
  have length := congrArg List.length isBits
  have otherLength := congrArg List.length areBits
  simp only [length_digitBits, List.length_append, length_octetBits, List.length_replicate] at *
  obtain rfl : spare = otherSpare := by omega
  obtain rfl : digits = others := digitBits_injective areDigits areOthers (isBits.trans areBits.symm)
  obtain rfl : padding = otherPadding := by omega
  rfl

/-- The text that stands for bytes by the rule is the one that is written. -/
theorem standsFor_iff
    {text : String}
    {octets : Octets} :
    StandsFor text.toList octets ↔ text = encode octets := by
  constructor
  · intro stands
    exact String.toList_inj.mp (stands.unique (standsFor_encode octets))
  · rintro rfl
    exact standsFor_encode octets

/-- A text stands for one sequence of bytes at most. -/
theorem StandsFor.octets_eq
    {text : List Char}
    {octets other : Octets}
    (stands : StandsFor text octets)
    (alsoStands : StandsFor text other) :
    octets = other := by
  rw [← String.toList_ofList (l := text), standsFor_iff] at stands alsoStands
  have read := decode?_encode octets
  rw [← stands, alsoStands, decode?_encode] at read
  exact (Option.some.inj read).symm

/-! ## Texts that stand for nothing -/

theorem padding_not_mem : '=' ∉ alphabet := by
  decide +kernel

/-- Where the padding begins is told by the last character that is none. -/
private theorem replicate_append_inj
    {count other : Nat}
    {front back : List Char}
    (frontEnds : front.head? ≠ some '=')
    (backEnds : back.head? ≠ some '=')
    (same : List.replicate count '=' ++ front = List.replicate other '=' ++ back) :
    count = other ∧ front = back := by
  induction count generalizing other with
  | zero =>
      cases other with
      | zero => exact ⟨rfl, same⟩
      | succ other =>
          rw [List.replicate_zero, List.nil_append] at same
          rw [same] at frontEnds
          exact absurd rfl frontEnds
  | succ count inductionHypothesis =>
      cases other with
      | zero =>
          rw [List.replicate_zero, List.nil_append] at same
          rw [← same] at backEnds
          exact absurd rfl backEnds
      | succ other =>
          obtain ⟨rfl, sameBack⟩ := inductionHypothesis (List.cons.inj same).2
          exact ⟨rfl, sameBack⟩

/-- As many bits of the last digit as its padding stands for are zero. -/
theorem StandsFor.trailing
    {front : List Char}
    {digit : Char}
    {padding : Nat}
    {octets : Octets}
    (notPadding : digit ≠ '=')
    (stands : StandsFor (front ++ digit :: List.replicate padding '=') octets) :
    alphabet.idxOf digit % 4 ^ padding = 0 := by
  obtain ⟨digits, spare, count, isText, areDigits, isBits, few, short, complete⟩ := stands
  have sameReverse := congrArg List.reverse isText
  simp only [List.reverse_append, List.reverse_cons, List.reverse_replicate,
    List.append_assoc, List.singleton_append] at sameReverse
  have ends : digits.reverse.head? ≠ some '=' := by
    intro isLast
    exact padding_not_mem (areDigits '=' (List.mem_reverse.mp (List.mem_of_head? isLast)))
  obtain ⟨rfl, isReverse⟩ := replicate_append_inj (by simpa using notPadding) ends sameReverse
  obtain rfl : digits = front ++ [digit] := by
    rw [← List.reverse_inj, ← isReverse]
    simp
  have length := congrArg List.length isBits
  have isSpare : spare = 2 * padding := by
    simp only [length_digitBits, List.length_append, length_octetBits, List.length_replicate,
      List.length_cons, List.length_nil] at length complete
    omega
  subst isSpare
  have power : 4 ^ padding = 2 ^ (2 * padding) := (Nat.pow_mul 2 2 padding).symm
  have small : alphabet.idxOf digit % 2 ^ (2 * padding) < 2 ^ (2 * padding) :=
    Nat.mod_lt _ (Nat.two_pow_pos _)
  have divided :=
    bits_append (6 - 2 * padding) small (alphabet.idxOf digit / 2 ^ (2 * padding))
  rw [Nat.sub_add_cancel (by omega), Nat.div_add_mod'] at divided
  rw [digitBits, List.flatMap_append, List.flatMap_singleton, ← divided,
    ← List.append_assoc, ← bits_zero] at isBits
  have lastBits := (List.append_inj' isBits (by simp)).2
  rw [power]
  exact bits_injective small (Nat.two_pow_pos _) lastBits

/-- A defective text does not stand for any byte; only the empty one stands for anything. -/
theorem IsDefective.not_standsFor
    {text : List Char}
    {octets : Octets}
    (defective : IsDefective text)
    (notEmpty : octets ≠ []) :
    ¬StandsFor text octets := by
  intro stands
  cases defective with
  | empty =>
      obtain ⟨digits, spare, padding, isText, -, isBits, -⟩ := stands
      obtain ⟨rfl, -⟩ := List.append_eq_nil_iff.mp isText.symm
      have length := congrArg List.length isBits
      have some := List.length_pos_iff.mpr notEmpty
      simp only [length_digitBits, List.length_append, length_octetBits, List.length_nil] at length
      omega
  | unpadded incomplete =>
      obtain ⟨digits, spare, padding, -, -, -, -, -, complete⟩ := stands
      exact incomplete complete
  | foreign member notDigit notPadding =>
      obtain ⟨digits, spare, padding, rfl, areDigits, -⟩ := stands
      rcases List.mem_append.mp member with isDigit | isPadding
      · exact notDigit (areDigits _ isDigit)
      · exact notPadding (List.eq_of_mem_replicate isPadding)
  | trailing notPadding notZero => exact notZero (stands.trailing notPadding)

end SecretsAdmin.Base64
