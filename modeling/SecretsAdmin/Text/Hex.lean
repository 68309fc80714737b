namespace SecretsAdmin.Hex

/-!
# Hexadecimal digits

Digits are written in lower case, or in upper case where a percent sign goes before them, and
read in either case.
-/

/-- The lower-case digit of a number below sixteen. -/
def lowerDigit (value : Nat) : Char :=
  if value < 10 then Char.ofNat (0x30 + value) else Char.ofNat (0x57 + value)

/-- The upper-case digit of a number below sixteen. -/
def upperDigit (value : Nat) : Char :=
  if value < 10 then Char.ofNat (0x30 + value) else Char.ofNat (0x37 + value)

/-- The number that a digit of either case stands for. -/
def value? (code : Nat) : Option Nat :=
  if 0x30 ≤ code ∧ code ≤ 0x39 then
    some (code - 0x30)
  else if 0x41 ≤ code ∧ code ≤ 0x46 then
    some (code - 0x37)
  else if 0x61 ≤ code ∧ code ≤ 0x66 then
    some (code - 0x57)
  else
    none

/-- The last digits of a number, as many as the width says, in lower case. -/
def fixed : (width : Nat) → (number : Nat) → List Char
  | 0, _ => []
  | width + 1, number => fixed width (number / 16) ++ [lowerDigit (number % 16)]

/-- The digits of a number without leading zeros, in lower case. -/
def plain (number : Nat) : String :=
  String.ofList (Nat.toDigits 16 number)

@[simp] theorem length_fixed (width number : Nat) :
    (fixed width number).length = width := by
  induction width generalizing number with
  | zero => rfl
  | succ width inductionHypothesis => simp [fixed, inductionHypothesis]

end SecretsAdmin.Hex
