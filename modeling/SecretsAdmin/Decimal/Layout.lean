import SecretsAdmin.Decimal.Shortest

namespace SecretsAdmin.Decimal

/-!
# Number layout

How the shortest decimal of a double is written: positional for sizes from `10 ^ -5` to below
`10 ^ 16` and always with a fraction, else with a signed exponent.
-/

/-- The choices that fix how a decimal is written. -/
structure Layout where
  /-- The least power of ten of a leading digit that is written positionally. -/
  leastOrder : Int
  /-- The greatest power of ten of a leading digit that is written positionally. -/
  greatestOrder : Int
  /-- What ends a positional number without fraction. -/
  wholeEnding : String
  /-- What introduces an exponent that is not negative. -/
  raised : String
  /-- What introduces a negative exponent. -/
  lowered : String
  /-- The digits of zero. -/
  zero : String

/-- Numbers have a fraction or an exponent with its sign, so they differ from whole numbers. -/
def numberLayout : Layout where
  leastOrder := -5
  greatestOrder := 15
  wholeEnding := ".0"
  raised := "e+"
  lowered := "e-"
  zero := "0.0"

/-- The same text a number of times. -/
def zeros (count : Nat) : String :=
  String.ofList (List.replicate count '0')

/-- Write a positive decimal. -/
def Layout.write
    (layout : Layout)
    (decimal : Scientific) :
    String :=
  let digits := (toString decimal.digits).toList
  let order : Int := decimal.power + digits.length - 1
  if layout.leastOrder ≤ order ∧ order ≤ layout.greatestOrder then
    if 0 ≤ decimal.power then
      String.ofList digits ++ zeros decimal.power.toNat ++ layout.wholeEnding
    else if 0 ≤ order then
      let whole := order.toNat + 1
      String.ofList (digits.take whole) ++ "." ++ String.ofList (digits.drop whole)
    else
      "0." ++ zeros (-order - 1).toNat ++ String.ofList digits
  else
    let leading := String.ofList (digits.take 1)
    let fraction :=
      if digits.length ≤ 1 then "" else "." ++ String.ofList (digits.drop 1)
    let exponent :=
      if order < 0 then
        layout.lowered ++ toString order.natAbs
      else
        layout.raised ++ toString order.natAbs
    leading ++ fraction ++ exponent

/-- Write a double with the fewest digits that read back as it. -/
def Layout.writeDouble
    (layout : Layout)
    (number : Binary64) :
    String :=
  let sign := if number.negative then "-" else ""
  let size := if number.isZero then layout.zero else layout.write (shortest number)
  sign ++ size

end SecretsAdmin.Decimal

namespace SecretsAdmin

/-- The text of a double as it stands in JSON and in messages. -/
def Binary64.text (number : Binary64) : String :=
  Decimal.numberLayout.writeDouble number

end SecretsAdmin
