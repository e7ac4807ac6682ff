import LineWidth.Text.Integer
import LineWidth.Token.Lexer

/-! # Token streams

A stream is the tokens of one source together with the source's line end. Positions are checked: an
index outside the stream is refused and never counts from the end. The backward search looks at the
tokens between two positions, nearest first.
-/

namespace LineWidth

/-- The tokens of a source and the line end the source uses, which is not empty. -/
structure TokenStream where
  tokens : Array Token
  lineEnd : List Char
deriving DecidableEq, Repr

/-- What can be wrong with a stream or with a position in it. -/
inductive StreamFault where
  | emptyLineEnd
  | indexOutOfRange (index : Int) (size : Nat)
  | negativeBound (start bound : Int)
deriving DecidableEq, Repr

/-- Slices move by a step. -/
inductive SliceFault where
  | zeroStep
deriving DecidableEq, Repr

/-- The wording of a slice fault. -/
def SliceFault.message : SliceFault → String
  | .zeroStep => "slice step cannot be zero"

namespace TokenStream

/-- A stream of given tokens. -/
def checked (tokens : Array Token) (lineEnd : List Char) : Except StreamFault TokenStream :=
  if lineEnd.isEmpty then .error .emptyLineEnd else .ok ⟨tokens, lineEnd⟩

/-- The stream of a source. -/
def ofSource (source : List Char) (tabWidth : Nat) : TokenStream :=
  ⟨(Lexer.run ⟨source, tabWidth, .code⟩).1, (LineEnd.detect source).chars⟩

/-- The number of tokens. -/
def size (stream : TokenStream) : Nat := stream.tokens.size

/-- The token at an index, if the index is in range. -/
def get? (stream : TokenStream) (index : Int) : Option Token :=
  if index < 0 then none else stream.tokens[index.toNat]?

/-- The token at an index. -/
def get (stream : TokenStream) (index : Int) : Except StreamFault Token :=
  match stream.get? index with
  | some token => .ok token
  | none => .error (.indexOutOfRange index stream.size)

/-- A one-line description. -/
def describe (stream : TokenStream) : String :=
  "TokenStream(" ++ toString stream.size ++ " tokens, eol=" ++ Text.quoted stream.lineEnd ++ ")"

/-- The descriptions of all tokens, unless a line or column has too many digits to be written. -/
def descriptions? (stream : TokenStream) : Option (List String) :=
  let tokens := stream.tokens.toList
  if tokens.all fun token => Text.canWrite token.line && Text.canWrite token.column then
    some (tokens.map Token.describe)
  else none

/-- The greatest index from `low` to below `high` whose token is wanted. -/
def searchBelow (stream : TokenStream) (wanted : Token → Bool) (low : Nat) : Nat → Option Nat
  | 0 => none
  | high + 1 =>
    if high < low then none
    else if stream.tokens[high]?.any wanted then some high
    else stream.searchBelow wanted low high

/-- The greatest index from `low` to `start` whose token is wanted. -/
def searchBack (stream : TokenStream) (wanted : Token → Bool) (start : Int) (low : Nat) :
    Option Nat :=
  stream.searchBelow wanted low (min (start + 1) stream.size).toNat

/-- The nearest token at or before `start`, and not before `bound`, whose kind is one of `kinds`, or
with `exclude` is none of them. -/
def findPrevious (stream : TokenStream) (kinds : List TokenKind) (start bound : Int)
    (exclude : Bool) : Except StreamFault (Option Nat) :=
  if bound < 0 then .error (.negativeBound start bound)
  else .ok (stream.searchBack (fun token => kinds.contains token.kind != exclude) start bound.toNat)

/-- Every `step`-th index from `start` on, before `stop` (after it when the step is negative). -/
def indicesFrom (step : Int) (stop : Int) : (fuel : Nat) → (start : Int) → List Int
  | 0, _ => []
  | fuel + 1, start =>
    if (0 < step ∧ start < stop) ∨ (step < 0 ∧ stop < start) then
      start :: indicesFrom step stop fuel (start + step)
    else []

/-- A bound of a slice: counted from the end when negative, then moved into the given limits. -/
def sliceBound (size low high : Int) (bound : Int) : Int :=
  max low (min high (if bound < 0 then bound + size else bound))

/-- The tokens of a slice. Missing bounds reach to the ends. -/
def slice (stream : TokenStream) (start stop step : Option Int) :
    Except SliceFault (List Token) :=
  let size : Int := stream.size
  let step := step.getD 1
  if step = 0 then .error .zeroStep
  else
    let (low, high) := if 0 < step then ((0 : Int), size) else (-1, size - 1)
    let first := start.elim (if 0 < step then low else high) (sliceBound size low high)
    let last := stop.elim (if 0 < step then high else low) (sliceBound size low high)
    .ok ((indicesFrom step last stream.size first).filterMap stream.get?)

end TokenStream

end LineWidth
