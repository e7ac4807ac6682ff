import LineWidth.Failure.Code
import LineWidth.FileTree.Path
import LineWidth.Number.Binary64
import LineWidth.Report.Basic
import LineWidth.Value.Moment

/-! # Values

Settings arrive as values of many types, and reports leave as values of a few. A mapping keeps the
order in which its keys first came; a later entry under an equal key replaces the value and nothing
else. Keys are equal across types where they name the same thing: a truth value equals the number it
stands for, a whole double its integer, and a member of an enumeration its own value.
-/

namespace LineWidth

/-- A member of one of the program's enumerations. -/
inductive Member where
  | severity (severity : Severity)
  | diagnosticCode (code : DiagnosticCode)
  | tokenKind (kind : TokenKind)
  | failureCode (code : FailureCode)
  | failureSeverity (severity : FailureSeverity)
deriving DecidableEq, Repr

/-- The text that a member stands for, if it stands for one. -/
def Member.text? : Member → Option String
  | .severity s => some s.label
  | .diagnosticCode code => some code.label
  | .tokenKind kind => some kind.label
  | .failureSeverity s => some s.label
  | .failureCode _ => none

/-- The number that a member stands for, if it stands for one. -/
def Member.number? : Member → Option Nat
  | .failureCode code => some code.number
  | _ => none

/-- A type that occurs as a value itself, by its full name. Enumerations are told apart. -/
structure NamedType where
  name : String
  isEnumeration : Bool := false
deriving DecidableEq, Repr

/-- A value of any type that a mapping or a report may hold. A text with an unpaired surrogate,
which an escape can spell and no `String` can hold, is kept by its code points. Settings come with
the failure codes that were given for some of their numbers. -/
inductive Value where
  | null
  | bool (truth : Bool)
  | int (number : Int)
  | float (number : Binary64)
  | text (chars : List Char)
  | unpaired (points : List Nat)
  | bytes (bytes : List UInt8)
  | path (path : Path)
  | moment (moment : Moment)
  | member (member : Member)
  | type (type : NamedType)
  | list (items : List Value)
  | tuple (items : List Value)
  | dict (entries : List (Value × Value))
  | token (token : Token)
  | record (record : Record)
  | report (report : Report)
  | settings (settings : Settings) (codes : List (Setting × FailureCode))
  | action (action : Action)
deriving Inhabited, Repr

namespace Value

/-- A value that is a string. -/
def ofString (text : String) : Value := .text text.toList

/-- A value that is a string or nothing. -/
def ofString? (text : Option String) : Value := text.elim .null ofString

/-- A text by its code points. -/
def ofPoints (points : List Nat) : Value :=
  if points.all fun point => point.isValidChar then .text (points.map Char.ofNat)
  else .unpaired points

/-- The number that a value counts as: whole doubles are integers. -/
inductive Numeral where
  | whole (number : Int)
  | other (number : Binary64)
deriving DecidableEq, Repr

/-- The number that a value counts as, if it counts as one. -/
def numeral? : Value → Option Numeral
  | .bool truth => some (.whole (if truth then 1 else 0))
  | .int number => some (.whole number)
  | .float number => some (number.toInt?.elim (.other number) .whole)
  | .member m => m.number?.map (.whole ·)
  | _ => none

/-- The integer that a value is; neither a truth value nor a double is one. -/
def integer? : Value → Option Int
  | .int number => some number
  | .member m => m.number?.map Int.ofNat
  | _ => none

/-- The text that a value counts as, if it counts as one. -/
def chars? : Value → Option (List Char)
  | .text chars => some chars
  | .member m => m.text?.map String.toList
  | _ => none

/-- The code points of the text that a value counts as, if it counts as one. -/
def points? : Value → Option (List Nat)
  | .unpaired points => some points
  | value => value.chars?.map fun chars => chars.map Char.toNat

/-- Numeric equality of numerals. -/
def Numeral.equals : Numeral → Numeral → Bool
  | .whole m, .whole n => m == n
  | .other x, .other y => x.equals y
  | _, _ => false

mutual

/-- Equality of keys. -/
def keyEquals (first second : Value) : Bool :=
  match first, second with
  | .null, .null => true
  | .unpaired x, .unpaired y => x == y
  | .bytes x, .bytes y => x == y
  | .path x, .path y => x == y
  | .moment x, .moment y => x.same y
  | .type x, .type y => x == y
  | .tuple xs, .tuple ys => keysEqual xs ys
  | .token x, .token y => x == y
  | .record x, .record y => x == y
  | .settings x _, .settings y _ => x == y
  | first, second =>
    match first.numeral?, second.numeral? with
    | some m, some n => m.equals n
    | _, _ =>
      match first.chars?, second.chars? with
      | some s, some t => s == t
      | _, _ => false

/-- Equality of keys, item by item. -/
def keysEqual (first second : List Value) : Bool :=
  match first, second with
  | [], [] => true
  | x :: xs, y :: ys => keyEquals x y && keysEqual xs ys
  | _, _ => false

end

mutual

/-- Whether a value can be a key: what can still change cannot. -/
def canBeKey : Value → Bool
  | .list _ | .dict _ | .report _ | .action _ => false
  | .tuple items => canBeKeys items
  | _ => true

/-- Whether every item can be a key. -/
def canBeKeys : List Value → Bool
  | [] => true
  | item :: rest => item.canBeKey && canBeKeys rest

end

/-- Set the value under a key: an equal key keeps its place and its spelling. -/
def insert (key value : Value) : List (Value × Value) → List (Value × Value)
  | [] => [(key, value)]
  | (known, old) :: rest =>
    if known.keyEquals key then (known, value) :: rest else (known, old) :: insert key value rest

/-- The entries of a mapping that is built entry by entry. -/
def entriesOf (entries : List (Value × Value)) : List (Value × Value) :=
  entries.foldl (fun known entry => insert entry.1 entry.2 known) []

/-- The value under a key. -/
def lookup? (key : Value) (entries : List (Value × Value)) : Option Value :=
  (entries.find? fun entry => entry.1.keyEquals key).map (·.2)

end Value

end LineWidth
