import LineWidth.Number.Binary64

/-! # The shortest decimal that reads back

A double is written with the fewest digits that no other double is nearer to; of several such
decimals the nearest to the exact value is taken, and a tie goes to the even last digit.
-/

namespace LineWidth.Binary64

/-- A positive decimal `0.d₁d₂… * 10 ^ point`, its digits written as one natural number. -/
structure Decimal where
  digits : Nat
  count : Nat
  point : Int
deriving DecidableEq, Repr

/-- The reals that round to a double, as quarters of its last place: `(low, high)` around `4 * m`.
The gap below a power of two is half as wide. -/
def quarters (significand : Nat) (exponent : Int) : Nat × Nat :=
  let low := if significand = Nat.pow 2 52 ∧ minExponent < exponent then 1 else 2
  (4 * significand - low, 4 * significand + 2)

/-- The ratio `a / b` multiplied by `10 ^ places`. -/
def scaleTen (numerator denominator : Nat) (places : Int) : Nat × Nat :=
  if 0 ≤ places then (numerator * Nat.pow 10 places.toNat, denominator)
  else (numerator, denominator * Nat.pow 10 (-places).toNat)

/-- The least power of ten above the ratio, searched upwards from `point`. -/
def pointFrom (numerator denominator : Nat) : (fuel : Nat) → (point : Int) → Int
  | 0, point => point
  | fuel + 1, point =>
    let (n, d) := scaleTen numerator denominator (-point)
    if n < d then point else pointFrom numerator denominator fuel (point + 1)

/-- The power of ten just above a positive ratio. The start is at most three below the answer. -/
def pointOf (numerator denominator : Nat) : Int :=
  let bits : Int := (numerator.log2 : Int) - denominator.log2
  pointFrom numerator denominator 4 ((bits - 1) * 30103 / 100000)

/-- Whether `candidate * 10 ^ (point - count)` rounds to the double. -/
def readsBack (significand : Nat) (exponent : Int) (candidate : Nat) (places : Int) :
    Bool :=
  let (low, high) := quarters significand exponent
  let (unitN, unitD) := ratio 1 (exponent - 2)
  let (n, d) := scaleTen candidate 1 (-places)
  let lowSide := low * unitN * d
  let highSide := high * unitN * d
  let value := n * unitD
  if significand % 2 = 0 then lowSide ≤ value && value ≤ highSide
  else lowSide < value && value < highSide

/-- The decimal of `count` digits that reads back and is nearest, if there is one. -/
def decimalOf? (significand : Nat) (exponent point : Int) (count : Nat) : Option Decimal :=
  let (n, d) := ratio significand exponent
  let places : Int := count - point
  let (n, d) := scaleTen n d places
  let nearest := roundDiv n d
  let other := if nearest * d ≤ n then nearest + 1 else nearest - 1
  if readsBack significand exponent nearest places then some ⟨nearest, count, point⟩
  else if readsBack significand exponent other places then some ⟨other, count, point⟩
  else none

/-- The shortest decimal of a positive finite double: seventeen digits always suffice. -/
def shortest (significand : Nat) (exponent : Int) : Decimal :=
  let (n, d) := ratio significand exponent
  let point := pointOf n d
  match ((List.range 17).findSome? fun i => decimalOf? significand exponent point (i + 1)) with
  | some decimal =>
    if decimal.digits = Nat.pow 10 decimal.count then ⟨1, 1, point + 1⟩ else decimal
  | none => ⟨0, 1, 1⟩

/-- How numbers are written: positional with `.0` kept for powers of ten from `10 ^ -4` to below
`10 ^ 16`, otherwise with a signed exponent of at least two digits. -/
def writeDecimal (decimal : Decimal) : String :=
  let digits := toString decimal.digits
  let point := decimal.point
  if -4 < point ∧ point ≤ 16 then
    if point ≤ 0 then "0." ++ String.ofList (List.replicate (-point).toNat '0') ++ digits
    else if decimal.count ≤ point.toNat then
      digits ++ String.ofList (List.replicate (point.toNat - decimal.count) '0') ++ ".0"
    else
      let (whole, fraction) := digits.toList.splitAt point.toNat
      String.ofList whole ++ "." ++ String.ofList fraction
  else
    let power := point - 1
    let size := toString power.natAbs
    let size := if size.length < 2 then "0" ++ size else size
    let mantissa := match digits.toList with
      | first :: second :: rest => String.ofList (first :: '.' :: second :: rest)
      | short => String.ofList short
    mantissa ++ "e" ++ (if power < 0 then "-" else "+") ++ size

/-- The text of a double. -/
def text : Binary64 → String
  | .nan => "nan"
  | .infinity negative => if negative then "-inf" else "inf"
  | .finite negative significand exponent =>
    (if negative then "-" else "") ++
      (if significand = 0 then "0.0" else writeDecimal (shortest significand exponent))

end LineWidth.Binary64
