import LineWidth.Report.Record
import LineWidth.Settings.Basic
import LineWidth.Token.Stream

/-! # The line length rule

A line is measured by the end column of its last token. Exempt are, in this order: blank lines,
directives that stand alone on their line, import lines, and comments that may be as long as they
like. The first three leave no record; an exempt comment is still observed.

Lines are found in the stream itself: a token in column 1 starts a line, so the token before it ends
one. A pointer names a line by the index just after its last token.
-/

namespace LineWidth

/-- The pointers of all lines: the indices of column-1 tokens but the first token, and the size. -/
def TokenStream.lineStarts (stream : TokenStream) : List Nat :=
  if stream.size = 0 then []
  else
    ((List.range stream.size).filter fun index =>
      0 < index && stream.tokens[index]?.any (·.column == 1)) ++ [stream.size]

/-- Slashes, hashes, tabs and spaces: what may stand in front of the words of a comment. -/
def isCommentMark (c : Char) : Bool := c == '/' || c == '#' || c == '\t' || c == ' '

/-- The number of characters up to and with the last space. -/
def lastSpaceEnd (content : List Char) : Nat :=
  content.length - (content.reverse.takeWhile (· != ' ')).length

/-- Whether the last word of a comment, on a line of its own at the comment's text indent, would
still be too long. -/
def Token.isUnbreakable (token : Token) (lineLimit : Nat) : Bool :=
  let marks := (token.content.takeWhile isCommentMark).length
  let indent : Int := token.column - 1 + marks
  let lastWord : Int := token.length - lastSpaceEnd token.content
  lineLimit < lastWord + indent

/-- Whether a line is exempt as a comment, `last` being its last token. -/
def Settings.exemptsComment (settings : Settings) (last : Token) : Bool :=
  last.kind.isCommentText &&
    (settings.ignoreComments ||
      (settings.lineLimit < last.endColumn && last.isUnbreakable settings.lineLimit))

/-- The verdict on a line of some length, anchored to a token with its index. -/
def Settings.verdict? (settings : Settings) (anchor : Token) (index : Int) (length : Nat) :
    Option Diagnostic :=
  if settings.hardLimitEnabled && settings.absoluteLineLimit < length then
    some (.maxExceeded index anchor.line anchor.column settings.absoluteLineLimit length)
  else if settings.lineLimit < length then
    some (.tooLong index anchor.line anchor.column settings.lineLimit length)
  else none

namespace TokenStream

/-- Whether only whitespace precedes a directive on its line. `low` bounds the search. -/
def directiveStandsAlone (stream : TokenStream) (last : Token) (anchor : Int) (low : Nat) : Bool :=
  match stream.searchBack (·.kind != .whitespace) (anchor - 1) low with
  | none => true
  | some index => stream.tokens[index]?.any (·.line != last.line)

/-- Whether the nearest token of a kind before the anchor is on the measured line. -/
def hasOnLine (stream : TokenStream) (kind : TokenKind) (last : Token) (anchor : Int) (low : Nat) :
    Bool :=
  (stream.searchBack (·.kind == kind) (anchor - 1) low).any fun index =>
    stream.tokens[index]?.any (·.line == last.line)

/-- An import line has the keyword `use` and a namespace separator before its anchor. -/
def isImportLine (stream : TokenStream) (last : Token) (anchor : Int) (low : Nat) : Bool :=
  stream.hasOnLine .use last anchor low && stream.hasOnLine .namespaceSeparator last anchor low

/-- The index of the token that a line's records are anchored to: the last one, or the one before a
bare line end. -/
def anchorIndex (stream : TokenStream) (pointer : Int) (last : Token) : Int :=
  if last.column ≠ 1 ∧ last.content = stream.lineEnd then pointer - 2 else pointer - 1

/-- The records of the line whose last token stands just before `pointer`: at most an observation
and then a diagnostic. -/
def checkLine (stream : TokenStream) (settings : Settings) (pointer : Int) :
    Except StreamFault (List Record) := do
  let last ← stream.get (pointer - 1)
  let length := last.endColumn
  let index := stream.anchorIndex pointer last
  let low := (index - length).toNat
  if last.column = 1 ∧ last.length = 0 then
    return []
  else if last.kind = .directive ∧ stream.directiveStandsAlone last index low then
    return []
  else if settings.ignoreUseLines ∧ stream.isImportLine last index low then
    return []
  else
    let anchor ← stream.get index
    let observation : Record :=
      .observation { anchor := index, line := anchor.line, value := (Bucket.ofLength length).label }
    if settings.exemptsComment last then
      return [observation]
    else
      return observation :: ((settings.verdict? anchor index length).map Record.diagnostic).toList

/-- The records of all lines, in order. -/
def analyze (stream : TokenStream) (settings : Settings) : Except StreamFault (List Record) := do
  let perLine ← stream.lineStarts.mapM fun (pointer : Nat) => stream.checkLine settings pointer
  return perLine.flatten

end TokenStream

end LineWidth
