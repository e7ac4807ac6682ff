import LineWidth.Token.Lexer

/-! # Tab widths of any sign

A lexer refuses a negative tab width when it is made, but its width can be set anew without that
check. A tab then goes back to a stop, and a token whose text would end before it starts cannot be
made: the run ends there, with the mode after the line that the token is on.
-/

namespace LineWidth

/-- The column after a character that stands at `column`, for a tab width of any sign. -/
def signedAdvance (tabWidth column : Int) (c : Char) : Int :=
  if c = '\t' ∧ tabWidth ≠ 0 then column + (tabWidth - (column - 1).fmod tabWidth) else column + 1

/-- The columns that a text takes when it starts at `column`, for a tab width of any sign. -/
def signedWidth (tabWidth : Int) (column : Nat) (text : List Char) : Int :=
  text.foldl (signedAdvance tabWidth) column - column

/-- Place parts one after the other, from a column on, behind tokens already placed (last first).
Tokens end at a part that cannot be placed. -/
def placeSigned (tabWidth : Int) (number column : Nat) (placed : List Token) :
    List Part → List Token × Option TokenFault
  | [] => (placed.reverse, none)
  | part :: rest =>
    let length := signedWidth tabWidth column part.text
    if length < 0 then (placed.reverse, some .lengthNegative)
    else
      let token : Token := ⟨part.kind, part.content, number, column, length.toNat⟩
      placeSigned tabWidth number (column + length.toNat) (token :: placed) rest

/-- Add the tokens of lines that are numbered from `number` on, or the first `count` of them. -/
def lexSigned (tabWidth : Int) (number : Nat) (mode : Mode) (count : Option Nat)
    (tokens : Array Token) : List Line → Except TokenFault (Array Token) × Mode
  | [] => (.ok tokens, mode)
  | line :: rest =>
    if count = some 0 then (.ok tokens, mode)
    else
      let (parts, mode) := line.parts mode
      let (found, fault) := placeSigned tabWidth number 1 [] parts
      let wanted := count.elim found found.take
      let enough := count.any (· ≤ found.length)
      match fault with
      | some fault => if enough then (.ok (tokens ++ wanted), mode) else (.error fault, mode)
      | none =>
        lexSigned tabWidth (number + 1) mode (count.map (· - found.length)) (tokens ++ wanted) rest

/-- The tokens of the source, or the first `count` of them, with a tab width of any sign in place of
the lexer's own, and the lexer after them. -/
def Lexer.runSigned (lexer : Lexer) (tabWidth : Int) (count : Option Nat) :
    Except TokenFault (Array Token) × Lexer :=
  if 0 ≤ tabWidth then
    let lexer := { lexer with tabWidth := tabWidth.toNat }
    let (tokens, lexer) := count.elim lexer.run lexer.runSome
    (.ok tokens, lexer)
  else
    let (tokens, mode) := lexSigned tabWidth 1 lexer.mode count #[] (Line.ofText lexer.source)
    (tokens, { lexer with mode })

end LineWidth
