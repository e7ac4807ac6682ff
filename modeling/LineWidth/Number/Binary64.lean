/-! # Double-precision numbers as exact values

A finite double is a sign, a significand and a power of two, so every operation here is arithmetic
on natural numbers: rounding a ratio to the nearest double, ties to the even significand, is the
only way to make one. The invariants of `roundRatio` are those of the format: significands below
`2 ^ 53`, exponents from `-1074` on, and a leading bit wherever the exponent allows it.
-/

namespace LineWidth

/-- A double: not a number, an infinity, or `± significand * 2 ^ exponent`. -/
inductive Binary64 where
  | nan
  | infinity (negative : Bool)
  | finite (negative : Bool) (significand : Nat) (exponent : Int)
deriving DecidableEq, Repr

namespace Binary64

/-- The least exponent. -/
def minExponent : Int := -1074

/-- The greatest exponent. -/
def maxExponent : Int := 971

/-- The quotient rounded to the nearest natural number, a half to the even one. -/
def roundDiv (numerator denominator : Nat) : Nat :=
  let quotient := numerator / denominator
  let twice := 2 * (numerator % denominator)
  if denominator < twice ∨ (twice = denominator ∧ quotient % 2 = 1) then quotient + 1 else quotient

/-- The ratio `numerator / (denominator * 2 ^ exponent)` as a ratio of natural numbers. -/
def scale (numerator denominator : Nat) (exponent : Int) : Nat × Nat :=
  if 0 ≤ exponent then (numerator, denominator * Nat.pow 2 exponent.toNat)
  else (numerator * Nat.pow 2 (-exponent).toNat, denominator)

/-- The exponent that gives the quotient 53 bits, but never less than the least one. -/
def exponentFor (numerator denominator : Nat) : Int :=
  let guess : Int := (numerator.log2 : Int) - denominator.log2 - 53
  let (n, d) := scale numerator denominator guess
  max minExponent (if Nat.pow 2 53 ≤ n / d then guess + 1 else guess)

/-- The double nearest to `± numerator / denominator`, a tie going to the even significand. -/
def roundRatio (negative : Bool) (numerator denominator : Nat) : Binary64 :=
  if numerator = 0 then .finite negative 0 minExponent
  else
    let exponent := exponentFor numerator denominator
    let (n, d) := scale numerator denominator exponent
    let significand := roundDiv n d
    let (significand, exponent) :=
      if significand = Nat.pow 2 53 then (Nat.pow 2 52, exponent + 1) else (significand, exponent)
    if maxExponent < exponent then .infinity negative else .finite negative significand exponent

/-- The double nearest to `± digits * 10 ^ exponent`. Magnitudes far outside the range of doubles
are settled by their number of digits. -/
def ofDecimal (negative : Bool) (digits : Nat) (exponent : Int) : Binary64 :=
  let places : Int := (toString digits).length
  if digits = 0 ∨ places + exponent < -330 then .finite negative 0 minExponent
  else if 310 < places + exponent then .infinity negative
  else if 0 ≤ exponent then roundRatio negative (digits * Nat.pow 10 exponent.toNat) 1
  else roundRatio negative digits (Nat.pow 10 (-exponent).toNat)

/-- The magnitude of a finite double as a ratio. -/
def ratio (significand : Nat) (exponent : Int) : Nat × Nat := scale significand 1 (-exponent)

/-- The product with a natural number, rounded. -/
def mulNat (x : Binary64) (factor : Nat) : Binary64 :=
  match x with
  | .finite negative significand exponent =>
    let (n, d) := ratio significand exponent
    roundRatio negative (n * factor) d
  | other => other

/-- Neither an infinity nor not a number. -/
def isFinite : Binary64 → Bool
  | .finite .. => true
  | _ => false

/-- The integer that a finite double is, if it is one. -/
def toInt? : Binary64 → Option Int
  | .finite negative significand exponent =>
    let (n, d) := ratio significand exponent
    if n % d = 0 then some (if negative then -(n / d : Nat) else (n / d : Nat)) else none
  | _ => none

/-- Numeric equality: zeros of either sign are equal, and not a number equals nothing. -/
def equals : Binary64 → Binary64 → Bool
  | .finite s m e, .finite s' m' e' => (m == 0 && m' == 0) || (s == s' && m == m' && e == e')
  | .infinity s, .infinity s' => s == s'
  | _, _ => false

end Binary64

end LineWidth
