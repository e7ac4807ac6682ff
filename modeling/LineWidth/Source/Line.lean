/-! # Physical lines

A source is cut at `\r\n`, `\r` and `\n`; only the last line may lack an end. The cut is a right
fold: each character is put in front of the lines of what follows it, so the lines of a source are
determined one character at a time and no text is lost.
-/

namespace LineWidth

/-- The three ways a line can end. -/
inductive LineEnd where
  | lf
  | cr
  | crlf
deriving DecidableEq, Repr

/-- The characters of a line end. -/
def LineEnd.chars : LineEnd → List Char
  | .lf => ['\n']
  | .cr => ['\r']
  | .crlf => ['\r', '\n']

/-- The first line end of a source, and `\n` for a source without one. -/
def LineEnd.detect : List Char → LineEnd
  | [] => .lf
  | c :: rest =>
    if c = '\n' then .lf
    else if c = '\r' then if rest.head? = some '\n' then .crlf else .cr
    else LineEnd.detect rest

/-- A line: its text without the end, and the end. -/
structure Line where
  body : List Char
  ending : Option LineEnd
deriving DecidableEq, Repr

namespace Line

/-- The characters that end the line, if any. -/
def endChars (line : Line) : List Char := line.ending.elim [] LineEnd.chars

/-- Put one character in front of a text that is already cut into lines. -/
def push (c : Char) (lines : List Line) : List Line :=
  if c = '\n' then ⟨[], some .lf⟩ :: lines
  else if c = '\r' then
    match lines with
    | ⟨[], some .lf⟩ :: rest => ⟨[], some .crlf⟩ :: rest
    | lines => ⟨[], some .cr⟩ :: lines
  else
    match lines with
    | [] => [⟨[c], none⟩]
    | line :: rest => ⟨c :: line.body, line.ending⟩ :: rest

/-- The physical lines of a source. -/
def ofText (source : List Char) : List Line := source.foldr push []

end Line

end LineWidth
