import LineWidth.Source.Width
import LineWidth.Token.Scan

/-! # The lexer

The lexer turns a source into tokens line by line. Between lines it carries the mode and nothing
else. A lexer value keeps the mode of its last run, so that a text may be fed in chunks; a run may
also be cut short after a number of tokens, and then the lines after the last token it gave are not
looked at.
-/

namespace LineWidth

/-- Place parts one after the other, from a column on, behind tokens already placed (last first). -/
def placeOnto (tabWidth number : Nat) (column : Nat) (placed : List Token) : List Part → List Token
  | [] => placed.reverse
  | part :: rest =>
    let length := renderedWidth tabWidth column part.text
    let token : Token := ⟨part.kind, part.content, number, column, length⟩
    placeOnto tabWidth number (column + length) (token :: placed) rest

/-- The tokens of line `number`, which starts in `mode`, and the mode after it. -/
def Line.tokens (tabWidth number : Nat) (mode : Mode) (line : Line) : List Token × Mode :=
  let (parts, mode) := line.parts mode
  (placeOnto tabWidth number 1 [] parts, mode)

/-- Add the tokens of lines that are numbered from `number` on. -/
def lexOnto (tabWidth number : Nat) (mode : Mode) (tokens : Array Token) :
    List Line → Array Token × Mode
  | [] => (tokens, mode)
  | line :: rest =>
    let (found, mode) := line.tokens tabWidth number mode
    lexOnto tabWidth (number + 1) mode (tokens ++ found) rest

/-- Add the first `count` tokens of lines that are numbered from `number` on. A line is looked at
only when a token of it is wanted. -/
def lexSomeOnto (tabWidth number : Nat) (mode : Mode) (count : Nat) (tokens : Array Token) :
    List Line → Array Token × Mode
  | [] => (tokens, mode)
  | line :: rest =>
    if count = 0 then (tokens, mode)
    else
      let (found, mode) := line.tokens tabWidth number mode
      lexSomeOnto tabWidth (number + 1) mode (count - found.length) (tokens ++ found.take count)
        rest

/-- A source, the tab width to render it with, and the mode it is read from. -/
structure Lexer where
  source : List Char
  tabWidth : Nat
  mode : Mode := .code
deriving DecidableEq, Repr

/-- Tab widths are not negative. -/
inductive LexerFault where
  | negativeTabWidth
deriving DecidableEq, Repr

/-- The wording of a lexer fault. -/
def LexerFault.message : LexerFault → String
  | .negativeTabWidth => "tab_width must be non-negative"

namespace Lexer

/-- A lexer at the start of a source. -/
def checked (source : List Char) (tabWidth : Int) : Except LexerFault Lexer :=
  if tabWidth < 0 then .error .negativeTabWidth else .ok ⟨source, tabWidth.toNat, .code⟩

/-- All tokens of the source, and the lexer after them. -/
def run (lexer : Lexer) : Array Token × Lexer :=
  let (tokens, mode) := lexOnto lexer.tabWidth 1 lexer.mode #[] (Line.ofText lexer.source)
  (tokens, { lexer with mode })

/-- The first `count` tokens of the source, and the lexer after them. -/
def runSome (lexer : Lexer) (count : Nat) : Array Token × Lexer :=
  let (tokens, mode) :=
    lexSomeOnto lexer.tabWidth 1 lexer.mode count #[] (Line.ofText lexer.source)
  (tokens, { lexer with mode })

end Lexer

end LineWidth
