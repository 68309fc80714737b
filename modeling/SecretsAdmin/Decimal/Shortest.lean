import SecretsAdmin.Decimal.Binary64

namespace SecretsAdmin.Decimal

/-!
# Shortest decimals

The fewest digits that read back as a given double, and among those the nearest to it. A decimal
reads back when it lies in the interval of fractions that round to the double; the ends belong to
the interval exactly when the mantissa is even.
-/

/-- A positive decimal: `digits * 10 ^ power`. -/
structure Scientific where
  digits : Nat
  power : Int
  deriving DecidableEq, Repr

/-- The fractions that round to a positive double, in quarters of its last place. -/
structure Interval where
  /-- The lower end. -/
  lower : Nat
  /-- The double itself. -/
  centre : Nat
  /-- The upper end. -/
  upper : Nat
  /-- Whether the ends round to the double too. -/
  closed : Bool
  /-- The power of two that one unit stands for. -/
  exponent : Int
  deriving DecidableEq, Repr

/-- The interval of a positive double. -/
def Interval.of (number : Binary64) : Interval :=
  let atPower := number.mantissa = Binary64.leastNormal ∧ Binary64.leastExponent < number.exponent
  { lower := 4 * number.mantissa - (if atPower then 1 else 2)
    centre := 4 * number.mantissa
    upper := 4 * number.mantissa + 2
    closed := number.mantissa % 2 = 0
    exponent := number.exponent - 2 }

/-- The factors that put units of an interval and of a decimal grid on one scale. -/
def scales (exponent power : Int) : Nat × Nat :=
  (Nat.pow 2 exponent.toNat * Nat.pow 10 (-power).toNat,
    Nat.pow 10 power.toNat * Nat.pow 2 (-exponent).toNat)

/-- Whether a point of a decimal grid lies in an interval. -/
def Interval.holds
    (interval : Interval)
    (power : Int)
    (digits : Nat) :
    Bool :=
  let (unit, step) := scales interval.exponent power
  let point := digits * step
  if interval.closed then
    interval.lower * unit ≤ point && point ≤ interval.upper * unit
  else
    interval.lower * unit < point && point < interval.upper * unit

/-- The neighbour of the double on a decimal grid that reads back, the nearer one of two. -/
def Interval.pointOn?
    (interval : Interval)
    (power : Int) :
    Option Scientific :=
  let (unit, step) := scales interval.exponent power
  let below := interval.centre * unit / step
  let above := below + 1
  match interval.holds power below, interval.holds power above with
  | false, false => none
  | true, false => some ⟨below, power⟩
  | false, true => some ⟨above, power⟩
  | true, true =>
      some ⟨Binary64.roundDiv (interval.centre * unit) step, power⟩

/-- The greatest power of ten that is at most a positive fraction. -/
def orderOf (numerator denominator : Nat) : Int :=
  let reaches (power : Int) : Bool :=
    denominator * Nat.pow 10 power.toNat ≤ numerator * Nat.pow 10 (-power).toNat
  let guess : Int :=
    (((numerator.log2 : Int) - denominator.log2) * 30103).fdiv 100000
  if reaches (guess + 1) then guess + 1
  else if reaches guess then guess
  else guess - 1

/-- Drop the zeros at the end of the digits. -/
def Scientific.trim : (fuel : Nat) → Scientific → Scientific
  | 0, decimal => decimal
  | fuel + 1, decimal =>
      if decimal.digits % 10 = 0 ∧ decimal.digits ≠ 0 then
        trim fuel ⟨decimal.digits / 10, decimal.power + 1⟩
      else
        decimal

/-- The shortest decimal that reads back as a positive double. -/
def shortest (number : Binary64) : Scientific :=
  let (numerator, denominator) := number.fraction
  let order := orderOf numerator denominator
  let interval := Interval.of number
  let found :=
    (List.range 17).findSome? fun (extra : Nat) =>
      interval.pointOn? (order - extra)
  (found.getD ⟨0, 0⟩).trim 20

end SecretsAdmin.Decimal
