import LineWidth.Text.Printable

/-! # Quoted text

Messages show a text between quotes with its unprintable characters escaped. The quote is the single
one unless the text holds a single and no double quote. Code points, not characters, are quoted, so
that an unpaired surrogate can be shown; byte strings follow the same rules with their own escapes.
-/

namespace LineWidth.Text

/-- A lower-case hexadecimal digit. -/
def hexDigit (n : Nat) : Char := if n < 10 then Char.ofNat (0x30 + n) else Char.ofNat (0x57 + n)

/-- The last `places` hexadecimal digits of a number, most significant first. -/
def hexDigits : (places : Nat) → (n : Nat) → List Char
  | 0, _ => []
  | places + 1, n => hexDigit (n / 16 ^ places % 16) :: hexDigits places n

/-- The quote that a text with these code points is shown in. -/
def quoteFor (points : List Nat) : Nat :=
  if points.contains 0x27 && !points.contains 0x22 then 0x22 else 0x27

/-- One code point inside quoted text. -/
def quotePoint (quote point : Nat) : List Char :=
  if point = quote ∨ point = 0x5C then ['\\', Char.ofNat point]
  else if point = 0x09 then ['\\', 't']
  else if point = 0x0A then ['\\', 'n']
  else if point = 0x0D then ['\\', 'r']
  else if isPrintable point then [Char.ofNat point]
  else if point < 0x100 then '\\' :: 'x' :: hexDigits 2 point
  else if point < 0x10000 then '\\' :: 'u' :: hexDigits 4 point
  else '\\' :: 'U' :: hexDigits 8 point

/-- A sequence of code points between quotes. -/
def quotePoints (points : List Nat) : List Char :=
  let quote := quoteFor points
  Char.ofNat quote :: (points.flatMap (quotePoint quote) ++ [Char.ofNat quote])

/-- A text between quotes. -/
def quoted (text : List Char) : String := String.ofList (quotePoints (text.map Char.toNat))

/-- One code point as the text of a message shows it: only an unpaired surrogate is escaped. -/
def showPoint (point : Nat) : List Char :=
  if point.isValidChar then [Char.ofNat point] else '\\' :: 'u' :: hexDigits 4 point

/-- A sequence of code points as the text of a message shows it. -/
def shown (points : List Nat) : String := String.ofList (points.flatMap showPoint)

/-- One byte inside a quoted byte string: beyond ASCII every byte is escaped. -/
def quoteByte (quote byte : Nat) : List Char :=
  if byte = quote ∨ byte = 0x5C then ['\\', Char.ofNat byte]
  else if byte = 0x09 then ['\\', 't']
  else if byte = 0x0A then ['\\', 'n']
  else if byte = 0x0D then ['\\', 'r']
  else if 0x20 ≤ byte ∧ byte < 0x7F then [Char.ofNat byte]
  else '\\' :: 'x' :: hexDigits 2 byte

/-- A byte string between quotes, marked by a leading `b`. -/
def quotedBytes (bytes : List UInt8) : String :=
  let points := bytes.map UInt8.toNat
  let quote := quoteFor points
  let inside := points.flatMap (quoteByte quote)
  String.ofList ('b' :: Char.ofNat quote :: (inside ++ [Char.ofNat quote]))

end LineWidth.Text
