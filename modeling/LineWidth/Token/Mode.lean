/-! # Lexical modes

Comments and strings may run over several lines. The mode says what a line starts inside of, and it
is all that one line passes on to the next.
-/

namespace LineWidth

/-- The two quotes that open and close a string. -/
inductive Quote where
  | single
  | double
deriving DecidableEq, Repr

/-- The character of a quote. -/
def Quote.char : Quote → Char
  | .single => '\''
  | .double => '"'

/-- The quote that a character is. -/
def Quote.ofChar? (c : Char) : Option Quote :=
  if c = '\'' then some .single else if c = '"' then some .double else none

/-- What the text at a position lies inside of. -/
inductive Mode where
  | code
  | block
  | doc
  | quoted (quote : Quote)
deriving DecidableEq, Repr

/-- Whether the mode is inside a string. -/
def Mode.isQuoted : Mode → Bool
  | .quoted _ => true
  | _ => false

end LineWidth
