import LineWidth.Source.Line
import LineWidth.Text.Digit
import LineWidth.Text.Space
import LineWidth.Text.Word
import LineWidth.Token.Basic
import LineWidth.Token.Mode

/-! # Splitting a line into classified parts

One step takes one part off the front of a line: it classifies the part, says how many characters
beyond the first belong to it, and gives the mode that holds after it. A line is split by repeating
the step, so its parts always concatenate to its text. The end of the line then goes to the last
part, if that part owns its line end, or to a whitespace part of its own.
-/

namespace LineWidth

/-- The blanks that separate tokens. -/
def isBlank (c : Char) : Bool := c == ' ' || c == '\t' || c == '\x0c' || c == '\x0b'

/-- The code points from U+0080 to U+FFFF, which names may contain whatever they are. -/
def isWide (c : Char) : Bool := 0x80 ≤ c.toNat && c.toNat ≤ 0xFFFF

/-- A character that may start a name. -/
def isNameStart (c : Char) : Bool := c.isAlpha || c == '_' || isWide c

/-- A character that may continue a name. -/
def isNamePart (c : Char) : Bool := isWide c || Text.isWord c

/-- A character that may continue a number. -/
def isNumberPart (c : Char) : Bool := c == '.' || Text.isWord c

/-- The number of characters before the first `*/`. -/
def closeOffset (offset : Nat) : List Char → Option Nat
  | [] => none
  | c :: rest =>
    if c = '*' ∧ rest.head? = some '/' then some offset else closeOffset (offset + 1) rest

/-- The number of characters up to and with the first `quote` that no backslash escapes; a backslash
escapes the one character after it. -/
def quoteEnd (quote : Char) (offset : Nat) : List Char → Option Nat
  | [] => none
  | ['\\'] => none
  | '\\' :: _ :: rest => quoteEnd quote (offset + 2) rest
  | c :: rest => if c = quote then some (offset + 1) else quoteEnd quote (offset + 1) rest

/-- What turns a line comment into a control directive. -/
def directiveMarks : List (List Char) := ["phpcs:".toList, "linegauge:".toList]

/-- A line comment is a directive when a mark follows its slashes, hashes and white space. -/
def lineCommentKind (text : List Char) : TokenKind :=
  let remainder := (text.dropWhile fun c => c == '/' || c == '#').dropWhile Text.isSpace
  if directiveMarks.any (·.isPrefixOf (Text.lower remainder)) then .directive else .comment

/-- Whether `<` is followed by the rest of an open tag, in either case of its letters. -/
def isOpenTagTail (rest : List Char) : Bool := Text.lower (rest.take 4) == "?php".toList

/-- One part: its kind, the number of its characters after the first, and the mode after it. -/
structure Step where
  kind : TokenKind
  more : Nat
  mode : Mode
deriving DecidableEq, Repr

/-- A name is the keyword `use`, in any case of its letters, or an identifier. -/
def nameKind (name : List Char) : TokenKind :=
  if Text.lower name == "use".toList then .use else .identifier

/-- A step inside a string, or just after its opening quote. -/
def Step.string (quote : Quote) (rest : List Char) (ended : Option Nat) : Step :=
  match ended with
  | some size => ⟨.constantString, size, .code⟩
  | none => ⟨.constantString, rest.length, .quoted quote⟩

/-- A step in code. -/
def Step.code (c : Char) (rest : List Char) : Step :=
  if c = '<' ∧ isOpenTagTail rest then ⟨.openTag, 4, .code⟩
  else if isBlank c then ⟨.whitespace, (rest.takeWhile isBlank).length, .code⟩
  else if c = '/' ∧ "**".toList.isPrefixOf rest ∧ ¬ "**/".toList.isPrefixOf rest then
    ⟨.docOpen, 2, .doc⟩
  else if c = '/' ∧ rest.head? = some '*' then
    match closeOffset 0 (rest.drop 1) with
    | some offset => ⟨.comment, offset + 3, .code⟩
    | none => ⟨.comment, rest.length, .block⟩
  else if (c = '/' ∧ rest.head? = some '/') ∨ (c = '#' ∧ rest.head? ≠ some '[') then
    ⟨lineCommentKind (c :: rest), rest.length, .code⟩
  else match Quote.ofChar? c with
    | some quote => Step.string quote rest (quoteEnd c 0 rest)
    | none =>
      if c = '$' ∧ rest.head?.any isNameStart then
        ⟨.variable, (rest.takeWhile isNamePart).length, .code⟩
      else if Text.isDecimal c then ⟨.number, (rest.takeWhile isNumberPart).length, .code⟩
      else if isNameStart c then
        let tail := rest.takeWhile isNamePart
        ⟨nameKind (c :: tail), tail.length, .code⟩
      else if c = '\\' then ⟨.namespaceSeparator, 0, .code⟩
      else ⟨.punctuation, 0, .code⟩

/-- A step in a block comment. -/
def Step.block (c : Char) (rest : List Char) : Step :=
  if isBlank c then ⟨.whitespace, (rest.takeWhile isBlank).length, .block⟩
  else match closeOffset 0 (c :: rest) with
    | some offset => ⟨.comment, offset + 1, .code⟩
    | none => ⟨.comment, rest.length, .block⟩

/-- A step in a doc comment. A star that only blanks precede on its line is a part of its own. -/
def Step.doc (fresh : Bool) (c : Char) (rest : List Char) : Step :=
  if isBlank c then ⟨.whitespace, (rest.takeWhile isBlank).length, .doc⟩
  else if c = '*' ∧ rest.head? = some '/' then ⟨.docClose, 1, .code⟩
  else if c = '*' ∧ fresh then ⟨.docStar, 0, .doc⟩
  else ⟨.docText, (closeOffset 0 rest).getD rest.length, .doc⟩

/-- The next step of a line from the character `c` on; `fresh` says that only blanks precede it. -/
def Step.next (mode : Mode) (fresh : Bool) (c : Char) (rest : List Char) : Step :=
  match mode with
  | .code => Step.code c rest
  | .block => Step.block c rest
  | .doc => Step.doc fresh c rest
  | .quoted quote => Step.string quote rest ((quoteEnd quote.char 0 (c :: rest)).map (· - 1))

/-- A classified part of a line, with the line end if it owns one. -/
structure Part where
  kind : TokenKind
  text : List Char
  ending : Option LineEnd
deriving DecidableEq, Repr

/-- All characters of a part. -/
def Part.content (part : Part) : List Char := part.text ++ part.ending.elim [] LineEnd.chars

/-- Split a body, adding its parts in front of those already found, last part first. -/
def splitOnto (mode : Mode) (fresh : Bool) (found : List Part) (body : List Char) :
    List Part × Mode :=
  match body with
  | [] => (found, mode)
  | c :: rest =>
    let step := Step.next mode fresh c rest
    let part : Part := ⟨step.kind, c :: rest.take step.more, none⟩
    splitOnto step.mode (fresh && step.kind == .whitespace) (part :: found) (rest.drop step.more)
termination_by body.length

/-- Whether a part owns the line end after it, `mode` being the mode at the end of the line. -/
def Part.ownsEnd (mode : Mode) (part : Part) : Bool :=
  match part.kind with
  | .openTag | .comment | .directive | .docText | .whitespace => true
  | .constantString => mode.isQuoted
  | _ => false

/-- Give the end of a line to its parts, which come last part first. -/
def endParts (mode : Mode) (ending : LineEnd) : List Part → List Part
  | [] => [⟨.whitespace, [], some ending⟩]
  | last :: earlier =>
    if last.ownsEnd mode then { last with ending := some ending } :: earlier
    else ⟨.whitespace, [], some ending⟩ :: last :: earlier

/-- The parts of a line that starts in `mode`, and the mode that the next line starts in. -/
def Line.parts (mode : Mode) (line : Line) : List Part × Mode :=
  let (found, mode) := splitOnto mode true [] line.body
  match line.ending with
  | none => (found.reverse, mode)
  | some ending => ((endParts mode ending found).reverse, mode)

end LineWidth
