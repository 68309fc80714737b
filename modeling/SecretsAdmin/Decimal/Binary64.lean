namespace SecretsAdmin

/-!
# Binary floating-point numbers

A finite double is a sign, a whole mantissa below `2 ^ 53` and a power of two. Every operation
here rounds an exact fraction once, to the nearest double, and a half to the even neighbour.
-/

/-- A finite double: `mantissa * 2 ^ exponent` with a sign. -/
structure Binary64 where
  negative : Bool
  mantissa : Nat
  exponent : Int
  deriving DecidableEq, Repr, Inhabited

namespace Binary64

/-- The least mantissa that has all 53 bits. -/
def leastNormal : Nat := 0x10000000000000

/-- The exponent of the smallest positive double. -/
def leastExponent : Int := -1074

/-- The exponent of the greatest double. -/
def greatestExponent : Int := 971

/-- Zero with a sign. -/
def zero (negative : Bool) : Binary64 where
  negative := negative
  mantissa := 0
  exponent := leastExponent

/-- Whether the number is zero of either sign. -/
def isZero (number : Binary64) : Bool :=
  number.mantissa == 0

/-- The number with its sign set. -/
def withSign (negative : Bool) (number : Binary64) : Binary64 :=
  { number with negative }

/-- A quotient rounded to the nearest whole number, a half to the even one. -/
def roundDiv (numerator denominator : Nat) : Nat :=
  let quotient := numerator / denominator
  let twice := 2 * (numerator % denominator)
  if twice < denominator then quotient
  else if denominator < twice then quotient + 1
  else quotient + quotient % 2

/-- A fraction divided by a power of two. -/
def unscale
    (numerator denominator : Nat)
    (exponent : Int) :
    Nat × Nat :=
  if exponent < 0 then
    (numerator * Nat.pow 2 exponent.natAbs, denominator)
  else
    (numerator, denominator * Nat.pow 2 exponent.natAbs)

/-- The exponent under which a positive fraction has a mantissa of 53 bits, if there is one. -/
def exponentOf (numerator denominator : Nat) : Int :=
  let guess : Int := (numerator.log2 : Int) - denominator.log2 - 52
  let (scaledNumerator, scaledDenominator) := unscale numerator denominator guess
  let exact :=
    if scaledNumerator / scaledDenominator < leastNormal then guess - 1 else guess
  max exact leastExponent

/-- The double nearest to a fraction, unless the fraction is too large. -/
def nearest? (numerator denominator : Nat) : Option Binary64 :=
  if numerator = 0 then
    some (zero false)
  else
    let exponent := exponentOf numerator denominator
    let (scaledNumerator, scaledDenominator) := unscale numerator denominator exponent
    let mantissa := roundDiv scaledNumerator scaledDenominator
    let (mantissa, exponent) :=
      if mantissa = 2 * leastNormal then (leastNormal, exponent + 1) else (mantissa, exponent)
    if greatestExponent < exponent then
      none
    else
      some ⟨false, mantissa, exponent⟩

/-- The size of a double as an exact fraction. -/
def fraction (number : Binary64) : Nat × Nat :=
  if number.exponent < 0 then
    (number.mantissa, Nat.pow 2 number.exponent.natAbs)
  else
    (number.mantissa * Nat.pow 2 number.exponent.natAbs, 1)

/-- The rounded product of the sizes of two doubles, unless it is too large. -/
def times? (left right : Binary64) : Option Binary64 :=
  let (leftNumerator, leftDenominator) := left.fraction
  let (rightNumerator, rightDenominator) := right.fraction
  nearest? (leftNumerator * rightNumerator) (leftDenominator * rightDenominator)

/-- The rounded quotient of the sizes of two doubles, unless it is too large. -/
def over? (left right : Binary64) : Option Binary64 :=
  let (leftNumerator, leftDenominator) := left.fraction
  let (rightNumerator, rightDenominator) := right.fraction
  nearest? (leftNumerator * rightDenominator) (leftDenominator * rightNumerator)

/-- The double nearest to a power of ten, for powers up to 308. -/
def powerOfTen (power : Nat) : Binary64 :=
  (nearest? (Nat.pow 10 power) 1).getD (zero false)

/--
A size scaled by a power of ten: one rounded multiplication or division where the power itself
is a double, and rounded divisions by `10 ^ 308` before it where the power is too small. The
result is nothing when it is too large for a double.
-/
def scale? : (steps : Nat) → (number : Binary64) → (power : Int) → Option Binary64
  | steps, number, power =>
      if power.natAbs ≤ 308 then
        if 0 ≤ power then
          number.times? (powerOfTen power.natAbs)
        else
          number.over? (powerOfTen power.natAbs)
      else if number.isZero then
        some number
      else if 0 ≤ power then
        none
      else
        match steps with
        | 0 => some (zero false)
        | steps + 1 =>
            match number.over? (powerOfTen 308) with
            | none => none
            | some smaller => scale? steps smaller (power + 308)

/--
The double that a decimal reading yields: the nearest double to the digits, scaled by the power
of ten. Three divisions by `10 ^ 308` take every double to zero.
-/
def ofDecimal?
    (negative : Bool)
    (digits : Nat)
    (power : Int) :
    Option Binary64 := do
  let size ← nearest? digits 1
  let scaled ← scale? 4 size power
  return scaled.withSign negative

end Binary64

end SecretsAdmin
