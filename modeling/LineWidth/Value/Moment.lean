/-! # Moments

A date and time of day, with the offset from universal time where it is known. A moment is written
in the extended ISO format, fractions of a second only when there are any.
-/

namespace LineWidth

/-- A date and time. Offsets are in microseconds east of universal time. -/
structure Moment where
  year : Nat
  month : Nat
  day : Nat
  hour : Nat
  minute : Nat
  second : Nat
  microsecond : Nat
  offset : Option Int
deriving DecidableEq, Repr

namespace Moment

/-- A number in at least `places` digits. -/
def padded (places n : Nat) : String :=
  let digits := toString n
  String.ofList (List.replicate (places - digits.length) '0') ++ digits

/-- Microseconds as a fraction of a second, when there are any. -/
def fractionText (microsecond : Nat) : String :=
  if microsecond = 0 then "" else "." ++ padded 6 microsecond

/-- An offset as `+hh:mm`, with seconds and their fraction when there are any. -/
def offsetText (offset : Int) : String :=
  let size := offset.natAbs
  let seconds := size / 1000000
  (if offset < 0 then "-" else "+") ++ padded 2 (seconds / 3600) ++ ":" ++
    padded 2 (seconds / 60 % 60) ++
    if size % 60000000 = 0 then ""
    else ":" ++ padded 2 (seconds % 60) ++ fractionText (size % 1000000)

/-- The ISO text of a moment. -/
def iso (m : Moment) : String :=
  padded 4 m.year ++ "-" ++ padded 2 m.month ++ "-" ++ padded 2 m.day ++ "T" ++
    padded 2 m.hour ++ ":" ++ padded 2 m.minute ++ ":" ++ padded 2 m.second ++
    fractionText m.microsecond ++ m.offset.elim "" offsetText

/-- The zone of a moment as descriptions write it. -/
def zoneText (offset : Int) : String :=
  if offset = 0 then "datetime.timezone.utc"
  else
    let days := offset.fdiv 86400000000
    let seconds := offset.fmod 86400000000 / 1000000
    let parts := [("days=", days), ("seconds=", seconds), ("microseconds=", offset.fmod 1000000)]
    let shown := (parts.filter (·.2 != 0)).map fun (name, number) => name ++ toString number
    "datetime.timezone(datetime.timedelta(" ++ String.intercalate ", " shown ++ "))"

/-- A one-line description: trailing zero parts of the time are left out. -/
def describe (m : Moment) : String :=
  let time := [m.year, m.month, m.day, m.hour, m.minute]
  let tail := if m.microsecond = 0 then if m.second = 0 then [] else [m.second]
    else [m.second, m.microsecond]
  "datetime.datetime(" ++ String.intercalate ", " ((time ++ tail).map toString) ++
    m.offset.elim "" (fun offset => ", tzinfo=" ++ zoneText offset) ++ ")"

/-- The days from the first of March of year zero to a date. -/
def dayNumber (m : Moment) : Nat :=
  let year := if m.month ≤ 2 then m.year - 1 else m.year
  let month := (m.month + 9) % 12
  365 * year + year / 4 - year / 100 + year / 400 + (153 * month + 2) / 5 + m.day - 1

/-- The microseconds of the moment, its offset taken off. -/
def instant (m : Moment) : Int :=
  let seconds : Int := m.dayNumber * 86400 + m.hour * 3600 + m.minute * 60 + m.second
  seconds * 1000000 + m.microsecond - m.offset.getD 0

/-- Whether two moments are the same: a moment with a known offset never equals one without. -/
def same (first second : Moment) : Bool :=
  first.offset.isSome == second.offset.isSome && first.instant == second.instant

/-- The moment that many microseconds after the start of 1970, in universal time. Years are counted
from March on, in eras of 400 years. -/
def ofUnix (microseconds : Nat) : Moment :=
  let days := microseconds / 86400000000 + 719468
  let dayOfEra := days % 146097
  let yearOfEra := (dayOfEra - dayOfEra / 1460 + dayOfEra / 36524 - dayOfEra / 146096) / 365
  let dayOfYear := dayOfEra - (365 * yearOfEra + yearOfEra / 4 - yearOfEra / 100)
  let monthFromMarch := (5 * dayOfYear + 2) / 153
  let month := if monthFromMarch < 10 then monthFromMarch + 3 else monthFromMarch - 9
  let seconds := microseconds / 1000000
  { year := days / 146097 * 400 + yearOfEra + if month ≤ 2 then 1 else 0
    month
    day := dayOfYear - (153 * monthFromMarch + 2) / 5 + 1
    hour := seconds / 3600 % 24
    minute := seconds / 60 % 60
    second := seconds % 60
    microsecond := microseconds % 1000000
    offset := some 0 }

/-- The time of day to the millisecond. -/
def clock (m : Moment) : String :=
  padded 2 m.hour ++ ":" ++ padded 2 m.minute ++ ":" ++ padded 2 m.second ++ "." ++
    padded 3 (m.microsecond / 1000)

/-- Read digits as a number. -/
def number? (text : List Char) : Option Nat :=
  if text.isEmpty || !text.all Char.isDigit then none
  else some (text.foldl (fun n c => n * 10 + (c.toNat - 0x30)) 0)

/-- The number written in `size` digits from position `start` on. -/
def numberAt? (text : List Char) (start size : Nat) : Option Nat :=
  number? ((text.drop start).take size)

/-- Read an offset as `offsetText` writes it. -/
def offset? (text : List Char) : Option (Option Int) :=
  match text with
  | [] => some none
  | sign :: rest => do
    let hours ← numberAt? rest 0 2
    let minutes ← numberAt? rest 3 2
    let seconds ← if rest.length ≤ 5 then some 0 else numberAt? rest 6 2
    let fraction ← if rest.length ≤ 8 then some 0 else numberAt? rest 9 6
    let size : Int := (hours * 3600 + minutes * 60 + seconds) * 1000000 + fraction
    return some (if sign = '-' then -size else size)

/-- Read a moment as `iso` writes it; other spellings are refused. -/
def parse? (text : String) : Option Moment := do
  let chars := text.toList
  let rest := chars.drop 19
  let fraction := rest.head? == some '.'
  let moment : Moment :=
    { year := ← numberAt? chars 0 4, month := ← numberAt? chars 5 2, day := ← numberAt? chars 8 2
      hour := ← numberAt? chars 11 2, minute := ← numberAt? chars 14 2
      second := ← numberAt? chars 17 2
      microsecond := ← if fraction then numberAt? rest 1 6 else some 0
      offset := ← offset? (if fraction then rest.drop 7 else rest) }
  if moment.iso == text then some moment else none

end Moment

end LineWidth
