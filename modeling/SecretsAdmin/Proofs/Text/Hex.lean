import Mathlib.Algebra.Group.Nat.Defs
import SecretsAdmin.Text.Hex
import SecretsAdmin.Text.Utf8

namespace SecretsAdmin.Hex

/-!
# Reading hexadecimal digits

Digits of either case are read as the numbers for which they were written, so numbers that are
written with the same digits are the same. Numbers that are written with the same width come in the
order of their texts.
-/

theorem value?_lowerDigit :
    ∀ digit < 16, value? (lowerDigit digit).toNat = some digit := by
  decide

theorem value?_upperDigit :
    ∀ digit < 16, value? (upperDigit digit).toNat = some digit := by
  decide

/-- Digits are characters of ASCII. -/
theorem lt_of_value?
    {code value : Nat}
    (isValue : value? code = some value) :
    code < 0x80 := by
  unfold value? at isValue
  split at isValue
  next isDecimal => omega
  next =>
    split at isValue
    next isUpper => omega
    next =>
      split at isValue
      next isLower => omega
      next => cases isValue

/-! ## Numbers of a fixed width -/

/-- The number that digits of either case stand for, if there are no other characters. -/
def number? (digits : List Char) : Option Nat :=
  digits.foldlM (fun number digit => (value? digit.toNat).map (16 * number + ·)) 0

/-- One more digit stands behind sixteen times the number before it. -/
theorem number?_concat
    {digits : List Char}
    {digit : Char}
    {number value : Nat}
    (isNumber : number? digits = some number)
    (isValue : value? digit.toNat = some value) :
    number? (digits ++ [digit]) = some (16 * number + value) := by
  unfold number? at isNumber ⊢
  rw [List.foldlM_append, isNumber, Option.bind_eq_bind, Option.bind_some, List.foldlM_cons,
    isValue]
  rfl

/-- A number that fits into a width is read from its digits. -/
theorem number?_fixed
    {width number : Nat}
    (fits : number < 16 ^ width) :
    number? (fixed width number) = some number := by
  induction width generalizing number with
  | zero =>
      rw [Nat.pow_zero, Nat.lt_one_iff] at fits
      rw [fits]
      rfl
  | succ width inductionHypothesis =>
      have front : number? (fixed width (number / 16)) = some (number / 16) :=
        inductionHypothesis (by omega)
      have last := value?_lowerDigit (number % 16) (Nat.mod_lt _ (by decide))
      rw [fixed, number?_concat front last, Nat.div_add_mod]

/-- Numbers that fit into a width have digits of their own. -/
theorem fixed_injective
    {width left right : Nat}
    (isLeft : left < 16 ^ width)
    (isRight : right < 16 ^ width)
    (same : fixed width left = fixed width right) :
    left = right := by
  have isNumber := number?_fixed isLeft
  rw [same, number?_fixed isRight] at isNumber
  exact (Option.some.inj isNumber).symm

/-- Whether a character is a digit in lower case. -/
def IsLowerDigit (digit : Char) : Prop :=
  '0' ≤ digit ∧ digit ≤ '9' ∨ 'a' ≤ digit ∧ digit ≤ 'f'

instance (digit : Char) : Decidable (IsLowerDigit digit) :=
  inferInstanceAs (Decidable (_ ∨ _))

theorem isLowerDigit_lowerDigit :
    ∀ digit < 16, IsLowerDigit (lowerDigit digit) := by
  decide

theorem isLowerDigit_of_mem_fixed
    {width number : Nat}
    {digit : Char}
    (member : digit ∈ fixed width number) :
    IsLowerDigit digit := by
  induction width generalizing number with
  | zero => cases member
  | succ width inductionHypothesis =>
      rcases List.mem_append.mp member with inFront | isLast
      · exact inductionHypothesis inFront
      · rw [List.mem_singleton.mp isLast]
        exact isLowerDigit_lowerDigit _ (Nat.mod_lt _ (by decide))

/-! ## The order of texts -/

/-- Digits in lower case are written with one byte each, in the order of their values. -/
theorem utf8EncodeChar_lowerDigit_lt :
    ∀ right < 16, ∀ left < right,
      String.utf8EncodeChar (lowerDigit left) < String.utf8EncodeChar (lowerDigit right) := by
  decide

theorem length_utf8EncodeChar_lowerDigit :
    ∀ digit < 16, (String.utf8EncodeChar (lowerDigit digit)).length = 1 := by
  decide

/-- The bytes of the last digit come behind those of the others. -/
theorem encode_fixed_succ (width number : Nat) :
    Utf8.encode (String.ofList (fixed (width + 1) number)) =
      Utf8.encode (String.ofList (fixed width (number / 16))) ++
        String.utf8EncodeChar (lowerDigit (number % 16)) := by
  simp [Utf8.encode, fixed]

theorem length_encode_fixed (width number : Nat) :
    (Utf8.encode (String.ofList (fixed width number))).length = width := by
  induction width generalizing number with
  | zero => rfl
  | succ width inductionHypothesis =>
      rw [encode_fixed_succ, List.length_append, inductionHypothesis,
        length_utf8EncodeChar_lowerDigit _ (Nat.mod_lt _ (by decide))]

/-- In lists of one length the first difference decides, whatever stands behind them. -/
private theorem append_lt_append
    {α : Type}
    [LT α]
    {left right : List α}
    (less : left < right)
    (sameLength : left.length = right.length)
    (leftRest rightRest : List α) :
    left ++ leftRest < right ++ rightRest := by
  change List.Lex (· < ·) left right at less
  induction less with
  | nil => cases sameLength
  | rel isLess => exact .rel isLess
  | cons _ inductionHypothesis =>
      exact .cons (inductionHypothesis (Nat.succ.inj sameLength))

/--
A smaller number has the smaller text: the digits before the last one differ, or only the last ones
do.
-/
theorem encode_fixed_lt
    {width left right : Nat}
    (less : left < right)
    (fits : right < 16 ^ width) :
    Utf8.encode (String.ofList (fixed width left)) <
      Utf8.encode (String.ofList (fixed width right)) := by
  induction width generalizing left right with
  | zero =>
      rw [Nat.pow_zero] at fits
      omega
  | succ width inductionHypothesis =>
      rw [encode_fixed_succ, encode_fixed_succ]
      by_cases sameFront : left / 16 = right / 16
      · have lessLast : left % 16 < right % 16 := by omega
        rw [sameFront]
        exact List.append_left_lt
          (utf8EncodeChar_lowerDigit_lt _ (Nat.mod_lt _ (by decide)) _ lessLast)
      · have lessFront : left / 16 < right / 16 := by omega
        have sameLength :=
          (length_encode_fixed width (left / 16)).trans (length_encode_fixed width (right / 16)).symm
        exact append_lt_append (inductionHypothesis lessFront (by omega)) sameLength _ _

/-- Texts of one width come in the order of their numbers. -/
theorem encode_fixed_lt_iff
    {width left right : Nat}
    (isLeft : left < 16 ^ width)
    (isRight : right < 16 ^ width) :
    Utf8.encode (String.ofList (fixed width left)) <
        Utf8.encode (String.ofList (fixed width right)) ↔
      left < right := by
  constructor
  · intro less
    rcases Nat.lt_trichotomy left right with isLess | rfl | isGreater
    · exact isLess
    · exact absurd less (List.lt_irrefl _)
    · exact absurd less (List.lt_asymm (encode_fixed_lt isGreater isLeft))
  · intro less
    exact encode_fixed_lt less isRight

end SecretsAdmin.Hex
