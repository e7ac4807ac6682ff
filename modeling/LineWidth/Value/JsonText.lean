import LineWidth.Number.Shortest
import LineWidth.Text.Integer
import LineWidth.Text.Quoted
import LineWidth.Value.Basic

/-! # Writing JSON

Primitive values are written with two blanks of indentation to a level, one item to a line, and in
ASCII: a character outside it is written as an escape, or as two when it needs a pair.
-/

namespace LineWidth.Json

/-- One character inside a string. -/
def escapeChar (c : Char) : List Char :=
  let n := c.toNat
  if c = '"' then ['\\', '"']
  else if c = '\\' then ['\\', '\\']
  else if n = 0x0A then ['\\', 'n']
  else if n = 0x0D then ['\\', 'r']
  else if n = 0x09 then ['\\', 't']
  else if n = 0x0C then ['\\', 'f']
  else if n = 0x08 then ['\\', 'b']
  else if 0x20 ≤ n ∧ n ≤ 0x7E then [c]
  else if n < 0x10000 then '\\' :: 'u' :: Text.hexDigits 4 n
  else
    '\\' :: 'u' :: Text.hexDigits 4 (0xD800 + (n - 0x10000) / 0x400) ++
      '\\' :: 'u' :: Text.hexDigits 4 (0xDC00 + (n - 0x10000) % 0x400)

/-- A string with its quotes. -/
def stringText (chars : List Char) : String :=
  String.ofList ('"' :: (chars.flatMap escapeChar ++ ['"']))

/-- A line break and the indentation of a level. -/
def newline (level : Nat) : String := "\n" ++ String.ofList (List.replicate (2 * level) ' ')

/-- Items between brackets, one to a line. -/
def block (opening closing : String) (level : Nat) (items : List String) : String :=
  if items.isEmpty then opening ++ closing
  else
    opening ++ newline (level + 1) ++ String.intercalate ("," ++ newline (level + 1)) items ++
      newline level ++ closing

/-- A value without items; what is not primitive is written as nothing. -/
def scalarText : Value → String
  | .bool truth => if truth then "true" else "false"
  | .int number => toString number
  | .float number => number.text
  | .text chars => stringText chars
  | _ => "null"

/-- A key, which is written as a string whatever it is. -/
def keyText : Value → String
  | .text chars => stringText chars
  | key => stringText (scalarText key).toList

mutual

/-- A value at some level of indentation. -/
def textAt (level : Nat) : Value → String
  | .list items => block "[" "]" level (itemTexts (level + 1) items)
  | .dict entries => block "\x7b" "\x7d" level (entryTexts (level + 1) entries)
  | value => scalarText value

/-- The items of a list. -/
def itemTexts (level : Nat) : List Value → List String
  | [] => []
  | item :: rest => textAt level item :: itemTexts level rest

/-- The entries of a mapping. -/
def entryTexts (level : Nat) : List (Value × Value) → List String
  | [] => []
  | (key, value) :: rest => (keyText key ++ ": " ++ textAt level value) :: entryTexts level rest

end

/-- The document of a value. -/
def text (value : Value) : String := textAt 0 value

mutual

/-- Whether every integer in a value can be written. -/
def canWrite : Value → Bool
  | .int number => Text.canWrite number
  | .list items => canWriteAll items
  | .dict entries => canWriteEntries entries
  | _ => true

/-- Whether every integer in every item can be written. -/
def canWriteAll : List Value → Bool
  | [] => true
  | item :: rest => canWrite item && canWriteAll rest

/-- Whether every integer in every entry can be written. -/
def canWriteEntries : List (Value × Value) → Bool
  | [] => true
  | (key, value) :: rest => canWrite key && canWrite value && canWriteEntries rest

end

end LineWidth.Json
