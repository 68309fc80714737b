import SecretsAdmin.Json.Printer
import SecretsAdmin.Json.Scan
import SecretsAdmin.Proofs.Json.Grammar
import SecretsAdmin.Proofs.Text.Hex
import SecretsAdmin.Proofs.Text.Utf8

namespace SecretsAdmin

/-!
# Reading strings

The bytes of a string are those of its characters, except that some are escaped. The scanner
takes every escape back, so it gathers the bytes of the text itself. Printed strings are a case
of this.
-/

/-- A hexadecimal digit is one byte, which stands for its number. -/
theorem Json.IsHexDigit.octet
    {digit : Char}
    {number : Nat}
    (isDigit : Json.IsHexDigit digit number) :
    ∃ octet,
      String.utf8EncodeChar digit = [octet] ∧ Hex.value? octet.toNat = some number := by
  have isValue : Hex.value? digit.toNat = some number := by
    obtain ⟨small, rfl | rfl⟩ := isDigit
    · exact Hex.value?_lowerDigit number small
    · exact Hex.value?_upperDigit number small
  have isAscii := Hex.lt_of_value? isValue
  refine ⟨UInt8.ofNat digit.toNat, Utf8.utf8EncodeChar_of_ascii isAscii, ?_⟩
  rw [Utf8.toNat_octet (by omega), isValue]

namespace Json

/-- The bytes of characters. -/
def octets (written : List Char) : Octets :=
  written.flatMap String.utf8EncodeChar

@[simp] theorem octets_nil : octets [] = [] := rfl

@[simp] theorem octets_cons
    (character : Char)
    (written : List Char) :
    octets (character :: written) = String.utf8EncodeChar character ++ octets written := rfl

@[simp] theorem octets_append (front back : List Char) :
    octets (front ++ back) = octets front ++ octets back :=
  List.flatMap_append

variable {source gathered rest : Octets}

private theorem scan_plain
    {octet : UInt8}
    (notQuote : octet ≠ 0x22)
    (notBackslash : octet ≠ 0x5C)
    (notControl : ¬octet < 0x20) :
    scanTextFrom source .plain gathered (octet :: rest) =
      scanTextFrom source .plain (octet :: gathered) rest := by
  rw [scanTextFrom, if_neg notQuote, if_neg notBackslash, if_neg notControl]

private theorem scan_outside
    {octets : Octets}
    (outside : ∀ octet ∈ octets, 0x80 ≤ octet.toNat) :
    scanTextFrom source .plain gathered (octets ++ rest) =
      scanTextFrom source .plain (octets.reverse ++ gathered) rest := by
  induction octets generalizing gathered with
  | nil => rfl
  | cons octet others inductionHypothesis =>
      have isOutside := outside octet List.mem_cons_self
      have notQuote : octet ≠ 0x22 := by
        rintro rfl
        exact absurd isOutside (by decide)
      have notBackslash : octet ≠ 0x5C := by
        rintro rfl
        exact absurd isOutside (by decide)
      have notControl : ¬octet < 0x20 := by
        rw [UInt8.lt_iff_toNat_lt]
        exact fun isControl => absurd isControl (by simp; omega)
      rw [List.cons_append, scan_plain notQuote notBackslash notControl,
        inductionHypothesis fun other member => outside other (List.mem_cons_of_mem _ member)]
      simp

/-- A character that needs no escape is gathered as it is. -/
private theorem scan_character
    {character : Char}
    (notControl : 0x20 ≤ character.toNat)
    (notQuote : character ≠ '"')
    (notBackslash : character ≠ '\\') :
    scanTextFrom source .plain gathered (String.utf8EncodeChar character ++ rest) =
      scanTextFrom source .plain
        ((String.utf8EncodeChar character).reverse ++ gathered) rest := by
  by_cases isAscii : character.toNat < 0x80
  · have isOctet := Utf8.toNat_octet (by omega : character.toNat < 0x100)
    have differs {other : UInt8} (notOther : character.toNat ≠ other.toNat) :
        UInt8.ofNat character.toNat ≠ other := by
      rintro rfl
      exact notOther isOctet.symm
    rw [Utf8.utf8EncodeChar_of_ascii isAscii]
    refine scan_plain (differs fun isQuote => notQuote (Char.toNat_inj.mp isQuote))
      (differs fun isBackslash => notBackslash (Char.toNat_inj.mp isBackslash)) ?_
    rw [UInt8.lt_iff_toNat_lt, isOctet]
    exact Nat.not_lt.mpr notControl
  · exact scan_outside fun octet member => Utf8.le_of_mem_utf8EncodeChar (by omega) member

/-! ## Escapes -/

/-- A short escape is gathered as the character that it stands for. -/
private theorem scan_shortEscape
    {letter character : Char}
    (isEscape : (letter, character) ∈ shortEscapes) :
    scanTextFrom source .plain gathered (octets ['\\', letter] ++ rest) =
      scanTextFrom source .plain
        ((String.utf8EncodeChar character).reverse ++ gathered) rest := by
  simp only [shortEscapes, List.mem_cons, Prod.mk.injEq, List.not_mem_nil, or_false] at isEscape
  rcases isEscape with ⟨rfl, rfl⟩ | ⟨rfl, rfl⟩ | ⟨rfl, rfl⟩ | ⟨rfl, rfl⟩ | ⟨rfl, rfl⟩ |
    ⟨rfl, rfl⟩ | ⟨rfl, rfl⟩ | ⟨rfl, rfl⟩ <;> rfl

private theorem scan_digit
    {digit : Char}
    {due value number : Nat}
    {high : Option Nat}
    (isDigit : IsHexDigit digit number) :
    scanTextFrom source (.digits (due + 2) (some value) high) gathered
        (String.utf8EncodeChar digit ++ rest) =
      scanTextFrom source (.digits (due + 1) (some (value * 16 + number)) high) gathered rest := by
  obtain ⟨octet, isOctet, isValue⟩ := isDigit.octet
  rw [isOctet, List.singleton_append, scanTextFrom]
  simp [digitsStep, isValue]

private theorem scan_lastDigit
    {digit : Char}
    {value number : Nat}
    {high : Option Nat}
    {state : TextState}
    {found : Octets}
    (isDigit : IsHexDigit digit number)
    (closes : closeEscape (value * 16 + number) high = .ok (state, found)) :
    scanTextFrom source (.digits 1 (some value) high) gathered
        (String.utf8EncodeChar digit ++ rest) =
      scanTextFrom source state (found.reverse ++ gathered) rest := by
  obtain ⟨octet, isOctet, isValue⟩ := isDigit.octet
  rw [isOctet, List.singleton_append, scanTextFrom]
  simp [digitsStep, isValue, closes]

/-- Four digits lead to where their number leads. -/
private theorem scan_unit
    {digits : List Char}
    {number : Nat}
    {high : Option Nat}
    {state : TextState}
    {found : Octets}
    (isUnit : IsUnit digits number)
    (closes : closeEscape number high = .ok (state, found)) :
    scanTextFrom source (.digits 4 (some 0) high) gathered (octets digits ++ rest) =
      scanTextFrom source state (found.reverse ++ gathered) rest := by
  obtain ⟨first, second, third, fourth, areDigits, rfl⟩ := isUnit
  rcases areDigits with _ | ⟨isFirst, _ | ⟨isSecond, _ | ⟨isThird, _ | ⟨isFourth, _ | _⟩⟩⟩⟩
  simp only [octets_cons, octets_nil, List.append_nil, List.append_assoc]
  rw [scan_digit isFirst, scan_digit isSecond, scan_digit isThird, Nat.zero_mul, Nat.zero_add first,
    scan_lastDigit isFourth closes]

private theorem scan_opened (high : List Char) :
    scanTextFrom source .plain gathered (octets ('\\' :: 'u' :: high) ++ rest) =
      scanTextFrom source (.digits 4 (some 0) none) gathered (octets high ++ rest) :=
  rfl

/-- A number outside the surrogates stands for the character that has it. -/
private theorem closeEscape_character (character : Char) :
    closeEscape character.toNat none =
      .ok (.plain, String.utf8EncodeChar character) := by
  have valid := character.valid
  simp only [UInt32.isValidChar, Nat.isValidChar] at valid
  have isNumber : character.val.toNat = character.toNat := rfl
  have notLow : isLowSurrogate character.toNat = false := by
    simp only [isLowSurrogate, Bool.and_eq_false_iff, decide_eq_false_iff_not]
    omega
  have notHigh : isHighSurrogate character.toNat = false := by
    simp only [isHighSurrogate, Bool.and_eq_false_iff, decide_eq_false_iff_not]
    omega
  simp [closeEscape, notLow, notHigh]

/-- The first half of a pair leads on to the second half. -/
private theorem closeEscape_high
    {number : Nat}
    (small : number < 0x400) :
    closeEscape (0xD800 + number) none = .ok (.pairBackslash (0xD800 + number), []) := by
  have notLow : isLowSurrogate (0xD800 + number) = false := by
    simp only [isLowSurrogate, Bool.and_eq_false_iff, decide_eq_false_iff_not]
    omega
  have isHigh : isHighSurrogate (0xD800 + number) = true := by
    simp only [isHighSurrogate, Bool.and_eq_true, decide_eq_true_eq]
    omega
  simp [closeEscape, notLow, isHigh]

/-- The second half of a pair completes the character. -/
private theorem closeEscape_low
    {character : Char}
    (isBeyond : 0x10000 ≤ character.toNat) :
    closeEscape (0xDC00 + (character.toNat - 0x10000) % 0x400)
        (some (0xD800 + (character.toNat - 0x10000) / 0x400)) =
      .ok (.plain, String.utf8EncodeChar character) := by
  have isLow : isLowSurrogate (0xDC00 + (character.toNat - 0x10000) % 0x400) = true := by
    simp only [isLowSurrogate, Bool.and_eq_true, decide_eq_true_eq]
    omega
  have whole :
      (0xD800 + (character.toNat - 0x10000) / 0x400 - 0xD800) * 0x400 +
        (0xDC00 + (character.toNat - 0x10000) % 0x400 - 0xDC00) + 0x10000 =
          character.toNat := by
    omega
  simp only [closeEscape, isLow, if_true, whole, Char.ofNat_toNat]

/-- The scanner gathers the bytes of the text for which characters stand. -/
private theorem scan_standsFor
    {written text : List Char}
    (standsFor : StandsFor written text) :
    scanTextFrom source .plain gathered (octets written ++ rest) =
      scanTextFrom source .plain ((octets text).reverse ++ gathered) rest := by
  induction standsFor generalizing gathered with
  | nil => rfl
  | plain notControl notQuote notBackslash _ inductionHypothesis =>
      rw [octets_cons, List.append_assoc, scan_character notControl notQuote notBackslash,
        inductionHypothesis]
      simp
  | @short letter _ written _ isEscape _ inductionHypothesis =>
      rw [show octets ('\\' :: letter :: written) = octets ['\\', letter] ++ octets written by simp,
        List.append_assoc, scan_shortEscape isEscape, inductionHypothesis]
      simp
  | unit isUnit _ inductionHypothesis =>
      rw [scan_opened, octets_append, List.append_assoc,
        scan_unit isUnit (closeEscape_character _), inductionHypothesis]
      simp
  | @pair high low character written _ isBeyond isHigh isLow _ inductionHypothesis =>
      have valid := character.valid
      simp only [UInt32.isValidChar, Nat.isValidChar] at valid
      have isNumber : character.val.toNat = character.toNat := rfl
      have halfway (gathered : Octets) (number : Nat) :
          scanTextFrom source (.pairBackslash number) gathered
              (octets ('\\' :: 'u' :: (low ++ written)) ++ rest) =
            scanTextFrom source (.digits 4 (some 0) (some number)) gathered
              (octets (low ++ written) ++ rest) := rfl
      rw [scan_opened, octets_append, List.append_assoc,
        scan_unit isHigh (closeEscape_high (by omega)), halfway, octets_append, List.append_assoc,
        scan_unit isLow (closeEscape_low isBeyond), inductionHypothesis]
      simp

/-- A string begins with a quote, behind which the scanner finds its text. -/
theorem SpellsText.scanText
    {written : List Char}
    {text : String}
    (spells : SpellsText written text)
    (rest : Octets) :
    ∃ inside,
      octets written ++ rest = 0x22 :: inside ∧ Json.scanText inside = .ok (text, rest) := by
  obtain ⟨inside, rfl, standsFor⟩ := spells
  refine ⟨octets inside ++ 0x22 :: rest, ?_, ?_⟩
  · rw [octets_cons, octets_append, List.append_assoc, List.append_assoc]
    rfl
  · have decoded : Utf8.decode (octets text.toList) = .ok text := Utf8.decode_encode text
    rw [Json.scanText, scan_standsFor standsFor, scanTextFrom, if_pos rfl, finishText,
      List.append_nil, List.reverse_reverse, decoded]

/-! ## Printed strings -/

/-- The last four digits of a small number write it. -/
private theorem isUnit_fixed
    {number : Nat}
    (small : number < 0x10000) :
    IsUnit (Hex.fixed 4 number) number := by
  have isDigit (value : Nat) : IsHexDigit (Hex.lowerDigit (value % 16)) (value % 16) :=
    ⟨Nat.mod_lt _ (by decide), .inl rfl⟩
  refine ⟨number / 16 / 16 / 16 % 16, number / 16 / 16 % 16, number / 16 % 16, number % 16, ?_,
    by omega⟩
  exact .cons (isDigit _) (.cons (isDigit _) (.cons (isDigit _) (.cons (isDigit _) .nil)))

/-- What is printed for a character stands for it. -/
private theorem standsFor_escapedCharacter
    {written text : List Char}
    (character : Char)
    (others : StandsFor written text) :
    StandsFor (escapedCharacter character ++ written) (character :: text) := by
  unfold escapedCharacter
  split
  case h_8 notQuote notBackslash _ _ _ _ _ =>
    split
    next isControl => exact .unit (isUnit_fixed (by omega)) others
    next notControl => exact .plain (Nat.not_lt.mp notControl) notQuote notBackslash others
  all_goals exact .short (by decide) others

private theorem standsFor_printed (text : List Char) :
    StandsFor (text.flatMap escapedCharacter) text := by
  induction text with
  | nil => exact .nil
  | cons first others inductionHypothesis =>
      exact standsFor_escapedCharacter first inductionHypothesis

/-- A printed string is a string. -/
theorem spellsText_printText (text : String) :
    SpellsText (printText text).toList text := by
  refine ⟨text.toList.flatMap escapedCharacter, ?_, standsFor_printed text.toList⟩
  rw [printText, String.toList_append, String.toList_append]
  simp only [String.toList_ofList]
  rfl

/-- A printed string begins with a quote, behind which the scanner finds its text. -/
theorem scanText_printText
    (text : String)
    (rest : Octets) :
    ∃ printed,
      Utf8.encode (printText text) ++ rest = 0x22 :: printed ∧
        scanText printed = .ok (text, rest) :=
  (spellsText_printText text).scanText rest

end Json

end SecretsAdmin
