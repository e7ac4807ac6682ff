import LineWidth.Number.Significant
import LineWidth.Text.Integer

/-! # Templates

A template is a text with places for integers. A place starts with a percent sign and goes on with
flags, a least width, a precision, a size that means nothing, and the letter of its conversion; two
percent signs stand for one. A star in place of the width or the precision takes it from the
integers. A template is read character by character, and each integer is taken where it is asked
for, so the first thing that is wrong decides how filling a template fails. Filled templates are
code points, since a place can ask for an unpaired surrogate.
-/

namespace LineWidth

/-- Why a template cannot be filled. -/
inductive TemplateFault where
  | namedPlace
  | tooFewArguments
  | argumentsLeft
  | incomplete
  | unknownConversion (char : Char) (index : Nat)
  | widthTooBig
  | precisionTooBig
  | tooManyDigits
  | widthOutOfRange
  | precisionOutOfRange
  | precisionTooLarge
  | noCharacter
  | noDouble
deriving DecidableEq, Repr

/-- What kind of mistake a fault is: the places do not go with the arguments, the template itself is
not well formed or writes too much, or a number is out of its range. -/
inductive TemplateFault.Kind where
  | mismatch
  | malformed
  | range
deriving DecidableEq, Repr

namespace TemplateFault

/-- The kind of a fault. -/
def kind : TemplateFault → Kind
  | .namedPlace | .tooFewArguments | .argumentsLeft => .mismatch
  | .incomplete | .unknownConversion .. | .widthTooBig | .precisionTooBig | .tooManyDigits =>
    .malformed
  | .widthOutOfRange | .precisionOutOfRange | .precisionTooLarge | .noCharacter | .noDouble =>
    .range

/-- A character as a message about it shows it. -/
def shown (c : Char) : Char := if 31 ≤ c.toNat ∧ c.toNat ≤ 126 then c else '?'

/-- The wording of a fault of the template itself. -/
def message? : TemplateFault → Option String
  | .incomplete => some "incomplete format"
  | .unknownConversion c index =>
    some ("unsupported format character '" ++ String.singleton (shown c) ++ "' (0x" ++
      String.ofList (Nat.toDigits 16 c.toNat) ++ ") at index " ++ toString index)
  | .widthTooBig => some "width too big"
  | .precisionTooBig => some "precision too big"
  | .tooManyDigits => some Text.unwritableMessage
  | _ => none

end TemplateFault

namespace Template

/-- The flags of a place: aligned to the left, with a sign, with a blank for the sign, in the other
form, filled up with zeros. -/
structure Flags where
  left : Bool := false
  signed : Bool := false
  blank : Bool := false
  alternate : Bool := false
  zeros : Bool := false
deriving DecidableEq, Repr

/-- The flags with one more, if the character is a flag. -/
def Flags.add? (flags : Flags) : Char → Option Flags
  | '-' => some { flags with left := true }
  | '+' => some { flags with signed := true }
  | ' ' => some { flags with blank := true }
  | '#' => some { flags with alternate := true }
  | '0' => some { flags with zeros := true }
  | _ => none

/-- How an integer is written. -/
inductive Conversion where
  | text
  | decimal
  | octal
  | hexadecimal (upper : Bool)
  | exponent (upper : Bool)
  | fixed
  | general (upper : Bool)
  | character
deriving DecidableEq, Repr

/-- The conversion that a letter asks for. -/
def Conversion.ofChar? : Char → Option Conversion
  | 's' | 'r' | 'a' => some .text
  | 'd' | 'i' | 'u' => some .decimal
  | 'o' => some .octal
  | 'x' => some (.hexadecimal false)
  | 'X' => some (.hexadecimal true)
  | 'e' => some (.exponent false)
  | 'E' => some (.exponent true)
  | 'f' | 'F' => some .fixed
  | 'g' => some (.general false)
  | 'G' => some (.general true)
  | 'c' => some .character
  | _ => none

/-- What has been read last of a place. -/
inductive Stage where
  | opened
  | flags
  | width
  | widthTaken
  | point
  | precision
  | precisionTaken
  | size
deriving DecidableEq, Repr

/-- A place as far as it has been read. -/
structure Place where
  stage : Stage := .opened
  flags : Flags := {}
  width : Nat := 0
  precision : Option Nat := none
deriving DecidableEq, Repr

/-- What the next character of a place does. -/
inductive Move where
  | goOn (place : Place)
  | takeWidth
  | takePrecision
  | percent
  | convert
  | refuse (fault : TemplateFault)
deriving DecidableEq, Repr

namespace Place

/-- The greatest width. -/
def widthLimit : Nat := Nat.pow 2 63 - 1

/-- The greatest precision. -/
def precisionLimit : Nat := Nat.pow 2 31 - 1

/-- The value of a decimal digit of ASCII. -/
def digit? (c : Char) : Option Nat := if c.isDigit then some (c.toNat - '0'.toNat) else none

/-- Behind the precision there may be a size. -/
def moveToSize (place : Place) (c : Char) : Move :=
  if c = 'h' ∨ c = 'l' ∨ c = 'L' then .goOn { place with stage := .size } else .convert

/-- In the digits of the precision. -/
def moveInPrecision (place : Place) (c : Char) : Move :=
  match digit? c with
  | some digit =>
    let precision := place.precision.getD 0 * 10 + digit
    if precisionLimit < precision then .refuse .precisionTooBig
    else .goOn { place with stage := .precision, precision := some precision }
  | none => place.moveToSize c

/-- Behind the width there may be a point, and then a precision. -/
def moveToPoint (place : Place) (c : Char) : Move :=
  if c = '.' then .goOn { place with stage := .point, precision := some 0 } else place.moveToSize c

/-- In the digits of the width. -/
def moveInWidth (place : Place) (c : Char) : Move :=
  match digit? c with
  | some digit =>
    let width := place.width * 10 + digit
    if widthLimit < width then .refuse .widthTooBig
    else .goOn { place with stage := .width, width }
  | none => place.moveToPoint c

/-- In the flags. -/
def moveInFlags (place : Place) (c : Char) : Move :=
  match place.flags.add? c with
  | some flags => .goOn { place with stage := .flags, flags }
  | none => if c = '*' then .takeWidth else place.moveInWidth c

/-- What the next character of a place does. -/
def move (place : Place) (c : Char) : Move :=
  match place.stage with
  | .opened =>
    if c = '%' then .percent
    else if c = '(' then .refuse .namedPlace
    else place.moveInFlags c
  | .flags => place.moveInFlags c
  | .width => place.moveInWidth c
  | .widthTaken => place.moveToPoint c
  | .point => if c = '*' then .takePrecision else place.moveInPrecision c
  | .precision => place.moveInPrecision c
  | .precisionTaken => place.moveToSize c
  | .size => .convert

/-- Take the width from the arguments; a negative one aligns to the left. -/
def takeWidth (place : Place) (argument : Int) : Except TemplateFault Place :=
  if argument < -(widthLimit : Int) - 1 ∨ (widthLimit : Int) < argument then
    .error .widthOutOfRange
  else
    .ok { place with
      stage := .widthTaken, width := argument.natAbs
      flags := { place.flags with left := place.flags.left || argument < 0 } }

/-- Take the precision from the arguments; a negative one counts as zero. -/
def takePrecision (place : Place) (argument : Int) : Except TemplateFault Place :=
  if argument < -(precisionLimit : Int) - 1 ∨ (precisionLimit : Int) < argument then
    .error .precisionOutOfRange
  else .ok { place with stage := .precisionTaken, precision := some argument.toNat }

/-- The sign that a number is written with. -/
def sign (place : Place) (negative : Bool) : List Char :=
  if negative then ['-']
  else if place.flags.signed then ['+']
  else if place.flags.blank then [' ']
  else []

/-- Fill a text up to the width. Only numbers are filled up with zeros, behind the sign and the mark
of their base. -/
def fillUp (place : Place) (isNumber : Bool) (front : List Char) (body : List Nat) : List Nat :=
  let front := front.map Char.toNat
  let missing := place.width - (front.length + body.length)
  if place.flags.left then front ++ body ++ List.replicate missing ' '.toNat
  else if isNumber && place.flags.zeros then front ++ List.replicate missing '0'.toNat ++ body
  else List.replicate missing ' '.toNat ++ front ++ body

/-- Write a number with its sign in front of its digits. -/
def writeNumber (place : Place) (negative : Bool) (mark digits : List Char) : List Nat :=
  place.fillUp true (place.sign negative ++ mark) (digits.map Char.toNat)

/-- Write the digits of an integer, at least as many as the precision says. -/
def writeDigits (place : Place) (argument : Int) (mark digits : List Char) :
    Except TemplateFault (List Nat) :=
  let precision := place.precision.getD 0
  if precisionLimit - 3 < precision then .error .precisionTooLarge
  else
    .ok (place.writeNumber (argument < 0) (if place.flags.alternate then mark else [])
      (List.replicate (precision - digits.length) '0' ++ digits))

/-- Write the double that is nearest to an integer. -/
def writeDouble (place : Place) (argument : Int) (write : Nat → List Char) :
    Except TemplateFault (List Nat) :=
  match Binary64.nearestNat? argument.natAbs with
  | none => .error .noDouble
  | some magnitude => .ok (place.writeNumber (argument < 0) [] (write magnitude))

/-- The letters of a number in capitals, if so asked. -/
def withCase (upper : Bool) (text : List Char) : List Char :=
  if upper then text.map Char.toUpper else text

/-- Write an integer as a conversion asks for. -/
def write (place : Place) (argument : Int) : Conversion → Except TemplateFault (List Nat)
  | .text =>
    if Text.canWrite argument then
      let text := (toString argument).toList
      .ok (place.fillUp false [] ((place.precision.elim text text.take).map Char.toNat))
    else .error .tooManyDigits
  | .decimal => do
    let written ← place.writeDigits argument [] (Nat.toDigits 10 argument.natAbs)
    if Text.canWrite argument then return written else .error .tooManyDigits
  | .octal => place.writeDigits argument ['0', 'o'] (Nat.toDigits 8 argument.natAbs)
  | .hexadecimal upper =>
    place.writeDigits argument (withCase upper ['0', 'x'])
      (withCase upper (Nat.toDigits 16 argument.natAbs))
  | .exponent upper =>
    place.writeDouble argument fun magnitude =>
      withCase upper (exponentText place.flags.alternate (place.precision.getD 6) magnitude)
  | .fixed =>
    place.writeDouble argument (fixedText place.flags.alternate (place.precision.getD 6))
  | .general upper =>
    place.writeDouble argument fun magnitude =>
      withCase upper (generalText place.flags.alternate (place.precision.getD 6) magnitude)
  | .character =>
    if 0 ≤ argument ∧ argument < 0x110000 then .ok (place.fillUp false [] [argument.toNat])
    else .error .noCharacter

end Place

/-- A template that is being filled: what has been written, last first, the arguments that are left,
the position, and the place that has been started, if one has. -/
structure Filling where
  written : List Nat := []
  arguments : List Int
  index : Nat := 0
  place : Option Place := none
deriving DecidableEq, Repr

namespace Filling

/-- Take the next argument. -/
def next (filling : Filling) : Except TemplateFault (Int × Filling) :=
  match filling.arguments with
  | [] => .error .tooFewArguments
  | argument :: arguments => .ok (argument, { filling with arguments })

/-- Write a text in place of the place that has been read. -/
def close (filling : Filling) (text : List Nat) : Filling :=
  { filling with written := text.reverse ++ filling.written, place := none }

/-- Read one character of a place. -/
def stepIn (filling : Filling) (place : Place) (c : Char) : Except TemplateFault Filling :=
  match place.move c with
  | .goOn place => .ok { filling with place := some place }
  | .takeWidth => do
    let (argument, filling) ← filling.next
    return { filling with place := some (← place.takeWidth argument) }
  | .takePrecision => do
    let (argument, filling) ← filling.next
    return { filling with place := some (← place.takePrecision argument) }
  | .percent => .ok (filling.close ['%'.toNat])
  | .convert => do
    let (argument, later) ← filling.next
    match Conversion.ofChar? c with
    | none => .error (.unknownConversion c filling.index)
    | some conversion => return later.close (← place.write argument conversion)
  | .refuse fault => .error fault

/-- Read one character of a template. -/
def step (filling : Filling) (c : Char) : Except TemplateFault Filling :=
  let read := match filling.place with
    | some place => filling.stepIn place c
    | none =>
      .ok (if c = '%' then { filling with place := some {} } else filling.close [c.toNat])
  read.map fun filling => { filling with index := filling.index + 1 }

/-- The text of a template that has been read to its end. -/
def result (filling : Filling) : Except TemplateFault (List Nat) :=
  if filling.place.isSome then .error .incomplete
  else if filling.arguments.isEmpty then .ok filling.written.reverse
  else .error .argumentsLeft

end Filling

end Template

/-- Fill the places of a template with integers, in order. -/
def fillTemplate (template : List Char) (arguments : List Int) :
    Except TemplateFault (List Nat) :=
  (template.foldlM Template.Filling.step { arguments }).bind Template.Filling.result

end LineWidth
