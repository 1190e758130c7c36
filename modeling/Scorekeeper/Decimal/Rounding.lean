set_option autoImplicit false

namespace Scorekeeper.Decimal

def roundHalfEven (numerator denominator : Nat) : Nat :=
  let quotient := numerator / denominator
  let twice := 2 * (numerator % denominator)
  if twice < denominator ∨ (twice = denominator ∧ quotient % 2 = 0) then quotient else quotient + 1

def digitCount (n : Nat) : Nat :=
  (Nat.toDigits 10 n).length

def scaleTen (numerator denominator : Nat) (power : Int) : Nat × Nat :=
  (numerator * Nat.pow 10 power.toNat, denominator * Nat.pow 10 (-power).toNat)

/-- The exponent of the power of ten that a positive quotient reaches but not its next. -/
def decimalExponent (numerator denominator : Nat) : Int :=
  let guess : Int := digitCount numerator - digitCount denominator
  let (scaled, unit) := scaleTen numerator denominator (-guess)
  -- The counts of digits tell the exponent up to one.
  if unit ≤ scaled then guess else guess - 1

/-- A positive quotient rounded to `count` decimal digits, with the exponent of the last digit. -/
def significant (count numerator denominator : Nat) : Nat × Int :=
  let last := decimalExponent numerator denominator - (count - 1)
  let (scaled, unit) := scaleTen numerator denominator (-last)
  (roundHalfEven scaled unit, last)

end Scorekeeper.Decimal
