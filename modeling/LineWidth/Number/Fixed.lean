import LineWidth.Number.Binary64

/-! # One decimal place -/

namespace LineWidth.Binary64

/-- The exact value with one decimal place, a tie going to the even digit. Percentages are finite
and not negative, so a sign never shows. -/
def onePlace (x : Binary64) : String :=
  match x with
  | .finite _ significand exponent =>
    let (n, d) := ratio significand exponent
    let tenths := roundDiv (n * 10) d
    toString (tenths / 10) ++ "." ++ toString (tenths % 10)
  | .infinity _ => "inf"
  | .nan => "nan"

/-- The percentage that `count` is of `total`: the quotient is rounded to a double before it is
multiplied by a hundred, and the product is rounded again. -/
def percentage (count total : Nat) : Binary64 := (roundRatio false count total).mulNat 100

end LineWidth.Binary64
