import LineWidth.Number.Binary64

/-! # Whole doubles with a given precision

A whole double is written with a number of decimal places, with an exponent, or in the one of these
forms that suits its size. Digits are rounded from the exact value, a tie going to the even digit.
-/

namespace LineWidth

/-- The whole number that is the double nearest to a natural number; numbers beyond the greatest
double have none. -/
def Binary64.nearestNat? (number : Nat) : Option Nat :=
  match roundRatio false number 1 with
  | .finite _ significand exponent =>
    let (n, d) := ratio significand exponent
    some (n / d)
  | _ => none

/-- At most `count` leading digits of a number, rounded, and the number of digits before the point.
-/
def significant (count number : Nat) : List Char × Nat :=
  let digits := Nat.toDigits 10 number
  if digits.length ≤ count then (digits, digits.length)
  else
    let rounded := Binary64.roundDiv number (Nat.pow 10 (digits.length - count))
    if rounded = Nat.pow 10 count then
      ('1' :: List.replicate (count - 1) '0', digits.length + 1)
    else (Nat.toDigits 10 rounded, digits.length)

/-- Digits filled up with zeros on the right. -/
def withZeros (count : Nat) (digits : List Char) : List Char :=
  digits ++ List.replicate (count - digits.length) '0'

/-- Digits without the zeros at their end, but never without all digits. -/
def withoutZeros : List Char → List Char
  | [] => []
  | first :: rest => first :: (rest.reverse.dropWhile (· == '0')).reverse

/-- Digits with a point, which is left out if nothing follows it. -/
def withPoint (keepPoint : Bool) (whole fraction : List Char) : List Char :=
  if fraction.isEmpty && !keepPoint then whole else whole ++ '.' :: fraction

/-- Digits with one of them before the point, and the exponent that belongs to them. -/
def withExponent (keepPoint : Bool) (digits : List Char) (point : Nat) : List Char :=
  let power := Nat.toDigits 10 (point - 1)
  withPoint keepPoint (digits.take 1) (digits.drop 1) ++
    ['e', '+'] ++ List.replicate (2 - power.length) '0' ++ power

/-- A whole number with an exponent. -/
def exponentText (keepPoint : Bool) (places number : Nat) : List Char :=
  let (digits, point) := significant (places + 1) number
  withExponent keepPoint (withZeros (places + 1) digits) point

/-- A whole number with decimal places. -/
def fixedText (keepPoint : Bool) (places number : Nat) : List Char :=
  withPoint keepPoint (Nat.toDigits 10 number) (List.replicate places '0')

/-- A whole number with a number of digits, and with an exponent if there are more before the point.
The other form keeps the point and the zeros at the end. -/
def generalText (alternate : Bool) (precision number : Nat) : List Char :=
  let count := max precision 1
  let (digits, point) := significant count number
  let digits := if alternate then withZeros count digits else withoutZeros digits
  if count < point then withExponent alternate digits point
  else
    let digits := withZeros point digits
    withPoint alternate (digits.take point) (digits.drop point)

end LineWidth
