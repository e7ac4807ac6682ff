/-! # Rendered width

Columns count from 1. With a positive tab width a tab advances to the next tab stop, that is to the
next column that is 1 modulo the width; every other character, and a tab at width 0, takes one
column.
-/

namespace LineWidth

/-- The column after a character that stands at `column`. -/
def advance (tabWidth column : Nat) (c : Char) : Nat :=
  if c = '\t' ∧ 0 < tabWidth then column + (tabWidth - (column - 1) % tabWidth) else column + 1

/-- The columns that a text takes when it starts at `column`. Only a text with tabs, at a positive
tab width, has to be rendered. -/
def renderedWidth (tabWidth column : Nat) (text : List Char) : Nat :=
  if tabWidth = 0 ∨ '\t' ∉ text then text.length
  else text.foldl (advance tabWidth) column - column

end LineWidth
