/-! # White space and stripping

White space here is the wide notion used around words and numbers: the ASCII space and line
controls, the four information separators, and the spaces of Unicode. The blanks that separate
tokens are a narrower set and belong to the lexer.
-/

namespace LineWidth.Text

/-- The code points of white space. -/
def isSpacePoint (n : Nat) : Bool :=
  (0x09 ≤ n && n ≤ 0x0D) || (0x1C ≤ n && n ≤ 0x20) || n == 0x85 || n == 0xA0 || n == 0x1680 ||
    (0x2000 ≤ n && n ≤ 0x200A) || n == 0x2028 || n == 0x2029 || n == 0x202F || n == 0x205F ||
    n == 0x3000

/-- White space in the wide sense. -/
def isSpace (c : Char) : Bool := isSpacePoint c.toNat

/-- Drop the members of a class from both ends. -/
def stripWhile {α : Type} (drop : α → Bool) (items : List α) : List α :=
  ((items.dropWhile drop).reverse.dropWhile drop).reverse

/-- Drop white space from both ends. -/
def strip (text : List Char) : List Char := stripWhile isSpace text

/-- Drop white space from both ends of a sequence of code points. -/
def stripPoints (points : List Nat) : List Nat := stripWhile isSpacePoint points

/-- Lower-case the ASCII letters. The words compared with the result are of ASCII letters only, none
of them `k`, and no dotted capital I can complete one, so the letters of other scripts decide
nothing. -/
def lower (text : List Char) : List Char := text.map Char.toLower

end LineWidth.Text
