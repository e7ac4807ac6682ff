import LineWidth.Text.Quoted

/-! # Tokens

A token is one classified piece of a physical line together with its place: the line, the column
where it starts and the columns it takes. Its content includes the line end where the token owns
one, but its length does not.
-/

namespace LineWidth

/-- What a piece of source text is. -/
inductive TokenKind where
  | openTag
  | whitespace
  | comment
  | directive
  | docOpen
  | docStar
  | docText
  | docClose
  | use
  | namespaceSeparator
  | identifier
  | variable
  | number
  | constantString
  | punctuation
deriving DecidableEq, Repr

namespace TokenKind

/-- Every kind. -/
def all : List TokenKind :=
  [.openTag, .whitespace, .comment, .directive, .docOpen, .docStar, .docText, .docClose, .use,
    .namespaceSeparator, .identifier, .variable, .number, .constantString, .punctuation]

/-- The label of a kind in reports. -/
def label : TokenKind → String
  | .openTag => "open_tag"
  | .whitespace => "whitespace"
  | .comment => "comment"
  | .directive => "annotation"
  | .docOpen => "doc_comment_open"
  | .docStar => "doc_comment_star"
  | .docText => "doc_comment_string"
  | .docClose => "doc_comment_close"
  | .use => "use"
  | .namespaceSeparator => "ns_separator"
  | .identifier => "identifier"
  | .variable => "variable"
  | .number => "number"
  | .constantString => "constant_string"
  | .punctuation => "punctuation"

/-- The name of a kind, in capitals. -/
def name (kind : TokenKind) : String := String.ofList (kind.label.toList.map Char.toUpper)

/-- The kind with a label. -/
def ofLabel? (label : String) : Option TokenKind := all.find? (·.label == label)

/-- Comments whose text may be too long to wrap. -/
def isCommentText : TokenKind → Bool
  | .comment | .docText => true
  | _ => false

end TokenKind

/-- A classified piece of a line. -/
structure Token where
  kind : TokenKind
  content : List Char
  line : Nat
  column : Nat
  length : Nat
deriving DecidableEq, Repr

/-- Why numbers are no place for a token. -/
inductive TokenFault where
  | lineNotPositive
  | columnNotPositive
  | lengthNegative
deriving DecidableEq, Repr

/-- The wording of a token fault. -/
def TokenFault.message : TokenFault → String
  | .lineNotPositive => "line must be >= 1"
  | .columnNotPositive => "column must be >= 1"
  | .lengthNegative => "length must be non-negative"

namespace Token

/-- A token at a place given by integers; lines and columns count from 1. -/
def checked (kind : TokenKind) (content : List Char) (line column length : Int) :
    Except TokenFault Token :=
  if line < 1 then .error .lineNotPositive
  else if column < 1 then .error .columnNotPositive
  else if length < 0 then .error .lengthNegative
  else .ok ⟨kind, content, line.toNat, column.toNat, length.toNat⟩

/-- The last column that the token takes; the column before it when it takes none. -/
def endColumn (token : Token) : Nat := token.column + token.length - 1

/-- A one-line description. -/
def describe (token : Token) : String :=
  "Token(" ++ token.kind.name ++ ", " ++ Text.quoted token.content ++ ", L" ++
    toString token.line ++ ":" ++ toString token.column ++ ")"

end Token

end LineWidth
