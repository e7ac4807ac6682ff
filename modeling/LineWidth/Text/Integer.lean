import LineWidth.Text.Digit
import LineWidth.Text.Quoted
import LineWidth.Text.Space

/-! # Integers as texts

An integer is read from an optional sign and decimal digits of any script, where one underscore may
stand between two digits. Texts with too many digits are refused before their value is computed,
whatever follows the digits, and integers with too many digits are not written either.
-/

namespace LineWidth.Text

/-- The most digits an integer text may have. -/
def digitLimit : Nat := 4300

/-- The least number with too many digits. -/
@[irreducible] def writeBound : Nat := Nat.pow 10 digitLimit

/-- Whether an integer has few enough digits to be written. -/
def canWrite (number : Int) : Bool := number.natAbs < writeBound

/-- The wording for an integer that has too many digits to be written. -/
def unwritableMessage : String :=
  s!"Exceeds the limit ({digitLimit} digits) for integer string conversion; " ++
    "use sys.set_int_max_str_digits() to increase the limit"

/-- Why a text is no integer; one with an unpaired surrogate never is. -/
inductive IntegerFault where
  | malformed (text : List Char)
  | unpaired (points : List Nat)
  | tooManyDigits (count : Nat)
deriving DecidableEq, Repr

/-- The wording for a text that does not write an integer. At most 200 characters of it are shown.
-/
def malformedMessage (points : List Nat) : String :=
  "invalid literal for int() with base 10: " ++ String.ofList ((quotePoints points).take 200)

/-- The wording of an integer fault. -/
def IntegerFault.message : IntegerFault → String
  | .malformed text => malformedMessage (text.map Char.toNat)
  | .unpaired points => malformedMessage points
  | .tooManyDigits count =>
    s!"Exceeds the limit ({digitLimit} digits) for integer string conversion: value has {count} " ++
      "digits; use sys.set_int_max_str_digits() to increase the limit"

/-- The spaces that may surround an integer. -/
def isIntegerSpace (c : Char) : Bool :=
  isSpace c && !(0x1C ≤ c.toNat && c.toNat ≤ 0x1F)

/-- Take digits and single underscores between them as far as they go, giving the digits' values and
the rest; `none` when an underscore stands twice or last. `after` says whether an underscore has
just been taken. -/
def takeDigits (after : Bool) (taken : List Nat) : List Char → Option (List Nat × List Char)
  | [] => if after then none else some (taken.reverse, [])
  | c :: rest =>
    match digitValue? c with
    | some digit => takeDigits false (digit :: taken) rest
    | none =>
      if after then none
      else if c = '_' then takeDigits true taken rest
      else some (taken.reverse, c :: rest)

/-- The number that decimal digits write, most significant first. -/
def ofDigits (digits : List Nat) : Nat := digits.foldl (fun value digit => value * 10 + digit) 0

/-- The sign of a number and what follows it. -/
def splitSign : List Char → Bool × List Char
  | '-' :: rest => (true, rest)
  | '+' :: rest => (false, rest)
  | text => (false, text)

/-- Read a text as an integer, white space around it ignored. -/
def readInteger (text : List Char) : Except IntegerFault Int :=
  let (negative, digits) := splitSign (stripWhile isIntegerSpace text)
  match takeDigits (digits.head? == some '_') [] digits with
  | none => .error (.malformed text)
  | some (values, rest) =>
    if digitLimit < values.length then .error (.tooManyDigits values.length)
    else if values.isEmpty || !rest.isEmpty then .error (.malformed text)
    else .ok (if negative then -(ofDigits values : Int) else ofDigits values)

end LineWidth.Text
