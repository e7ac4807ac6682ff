import LineWidth.Text.Integer
import LineWidth.Value.Basic

/-! # Reading JSON documents

A fault names what was expected and where: the place is kept as the text from there on, and turned
into line and column against the whole document only when it is worded. Beside the grammar of JSON
the words `NaN`, `Infinity` and `-Infinity` are numbers. A number ends where its grammar ends,
whatever follows.
-/

namespace LineWidth

/-- What a reader of JSON finds wrong. -/
inductive JsonReason where
  | value
  | name
  | colon
  | comma
  | unterminated
  | escape
  | unicodeEscape
  | control
  | extra
  | byteOrderMark
deriving DecidableEq, Repr

/-- The wording of a reason. -/
def JsonReason.message : JsonReason → String
  | .value => "Expecting value"
  | .name => "Expecting property name enclosed in double quotes"
  | .colon => "Expecting ':' delimiter"
  | .comma => "Expecting ',' delimiter"
  | .unterminated => "Unterminated string starting at"
  | .escape => "Invalid \\escape"
  | .unicodeEscape => "Invalid \\uXXXX escape"
  | .control => "Invalid control character at"
  | .extra => "Extra data"
  | .byteOrderMark => "Unexpected UTF-8 BOM (decode using utf-8-sig)"

/-- A fault in a document, or an integer or a nesting that exceeds what is read. -/
inductive JsonFault where
  | malformed (reason : JsonReason) (rest : List Char)
  | tooManyDigits
  | tooDeep
deriving DecidableEq, Repr

/-- The wording of a syntax fault: lines and columns count from 1, characters from 0. -/
def JsonReason.messageAt (reason : JsonReason) (document rest : List Char) : String :=
  let position := document.length - rest.length
  let before := document.take position
  let line := before.count '\n' + 1
  let column := (before.reverse.takeWhile (· != '\n')).length + 1
  reason.message ++ s!": line {line} column {column} (char {position})"

namespace Json

/-- White space between the parts of a document. -/
def isSpace (c : Char) : Bool := c == ' ' || c == '\t' || c == '\n' || c == '\r'

/-- Skip white space. -/
def skipSpace (text : List Char) : List Char := text.dropWhile isSpace

/-- The value of a hexadecimal digit. -/
def hexValue? (c : Char) : Option Nat :=
  if c.isDigit then some (c.toNat - 0x30)
  else if 'a' ≤ c ∧ c ≤ 'f' then some (c.toNat - 0x57)
  else if 'A' ≤ c ∧ c ≤ 'F' then some (c.toNat - 0x37)
  else none

/-- The value of four hexadecimal digits at the front of a text. -/
def hexFour? : List Char → Option Nat
  | a :: b :: c :: d :: _ => do
    return (((← hexValue? a) * 16 + (← hexValue? b)) * 16 + (← hexValue? c)) * 16 + (← hexValue? d)
  | _ => none

/-- The character that a one-letter escape stands for. -/
def simpleEscape? : Char → Option Nat
  | '"' => some 0x22
  | '\\' => some 0x5C
  | '/' => some 0x2F
  | 'b' => some 0x08
  | 'f' => some 0x0C
  | 'n' => some 0x0A
  | 'r' => some 0x0D
  | 't' => some 0x09
  | _ => none

/-- Whether a code unit is the first or the second half of a pair. -/
def isHighHalf (unit : Nat) : Bool := 0xD800 ≤ unit && unit ≤ 0xDBFF

/-- Whether a code unit is the second half of a pair. -/
def isLowHalf (unit : Nat) : Bool := 0xDC00 ≤ unit && unit ≤ 0xDFFF

/-- Read the code point of a `\u` escape from the text after the `u`, which has to go on after its
digits, and count the characters that it takes. Two escapes that make a pair are one code point. -/
def unicodeEscape (digits : List Char) : Except JsonFault (Nat × Nat) :=
  match hexFour? digits with
  | none => .error (.malformed .unicodeEscape ('u' :: digits))
  | some unit =>
    let rest := digits.drop 4
    if rest.isEmpty then .error (.malformed .unicodeEscape ('u' :: digits))
    else if isHighHalf unit && !(rest.drop 6).isEmpty && "\\u".toList.isPrefixOf rest then
      match hexFour? (rest.drop 2) with
      | none => .error (.malformed .unicodeEscape (rest.drop 1))
      | some second =>
        if isLowHalf second then
          .ok (0x10000 + (unit - 0xD800) * 0x400 + (second - 0xDC00), 10)
        else .ok (unit, 4)
    else .ok (unit, 4)

/-- Read a string up to its closing quote, the first `skip` characters having been read; `opening`
is the text from the opening quote on. -/
def readString (opening : List Char) (points : List Nat) :
    (skip : Nat) → List Char → Except JsonFault (List Nat × List Char)
  | _, [] => .error (.malformed .unterminated opening)
  | skip + 1, _ :: rest => readString opening points skip rest
  | 0, c :: rest =>
    if c = '"' then .ok (points.reverse, rest)
    else if c = '\\' then
      match rest with
      | [] => .error (.malformed .unterminated opening)
      | 'u' :: digits =>
        match unicodeEscape digits with
        | .error fault => .error fault
        | .ok (point, length) => readString opening (point :: points) (length + 1) rest
      | letter :: _ =>
        match simpleEscape? letter with
        | none => .error (.malformed .escape (c :: rest))
        | some point => readString opening (point :: points) 1 rest
    else if c.toNat ≤ 0x1F then .error (.malformed .control (c :: rest))
    else readString opening (c.toNat :: points) 0 rest

/-- Read the string at the front of a text that starts with a quote. -/
def stringAt (text : List Char) : Except JsonFault (List Nat × List Char) :=
  readString text [] 0 (text.drop 1)

/-- The digits at the front of a text, and the rest. -/
def digitsAt (text : List Char) : List Char × List Char := text.span Char.isDigit

/-- The fraction at the front of a text: a point and at least one digit. -/
def fractionAt (text : List Char) : List Char × List Char :=
  match text with
  | '.' :: rest =>
    match digitsAt rest with
    | ([], _) => ([], text)
    | (digits, rest) => (digits, rest)
  | _ => ([], text)

/-- The values of digits. -/
def digitValues (digits : List Char) : List Nat := digits.map fun c => c.toNat - 0x30

/-- The size of an exponent. Beyond twenty digits it is larger than any text is long, and then its
exact size does not matter. -/
def exponentSize (digits : List Nat) : Nat :=
  let digits := digits.dropWhile (· == 0)
  if 20 < digits.length then Nat.pow 10 20 else Text.ofDigits digits

/-- The number of digits of a decimal that are taken as they are. No number halfway between two
doubles has more, so of the digits behind them it only matters whether one is not zero. -/
def exactDigits : Nat := 800

/-- The double nearest to `± digits * 10 ^ power`. -/
def nearestDouble (negative : Bool) (digits : List Nat) (power : Int) : Binary64 :=
  let digits := digits.dropWhile (· == 0)
  let exact := digits.take exactDigits
  let behind := digits.drop exactDigits
  if behind.isEmpty then .ofDecimal negative (Text.ofDigits exact) power
  else
    let digit := if behind.all (· == 0) then 0 else 1
    .ofDecimal negative (Text.ofDigits exact * 10 + digit) (power + behind.length - 1)

/-- The exponent at the front of a text: its mark, perhaps a sign, and at least one digit. -/
def exponentAt? (text : List Char) : Option (Int × List Char) :=
  match text with
  | mark :: rest =>
    if mark = 'e' ∨ mark = 'E' then
      let (negative, rest) := Text.splitSign rest
      match digitsAt rest with
      | ([], _) => none
      | (digits, rest) =>
        let size : Int := exponentSize (digitValues digits)
        some (if negative then -size else size, rest)
    else none
  | [] => none

/-- Read the number at the front of a text. -/
def numberAt (text : List Char) : Except JsonFault (Value × List Char) :=
  let negative := text.head? == some '-'
  let unsigned := if negative then text.drop 1 else text
  let (whole, rest) :=
    if unsigned.head? == some '0' then (['0'], unsigned.drop 1) else digitsAt unsigned
  if whole.isEmpty then .error (.malformed .value text)
  else
    let (fraction, afterFraction) := fractionAt rest
    let exponent := exponentAt? afterFraction
    match fraction, exponent with
    | [], none =>
      if Text.digitLimit < whole.length then .error .tooManyDigits
      else
        let size : Int := Text.ofDigits (digitValues whole)
        .ok (.int (if negative then -size else size), rest)
    | fraction, exponent =>
      let (power, rest) := exponent.getD (0, afterFraction)
      let digits := digitValues (whole ++ fraction)
      .ok (.float (nearestDouble negative digits (power - fraction.length)), rest)

/-- The words that are values. -/
def words : List (List Char × Value) :=
  [("null".toList, .null), ("true".toList, .bool true), ("false".toList, .bool false),
    ("NaN".toList, .float .nan), ("Infinity".toList, .float (.infinity false)),
    ("-Infinity".toList, .float (.infinity true))]

/-- Read the word or number at the front of a text. -/
def scalarAt (text : List Char) : Except JsonFault (Value × List Char) :=
  match words.find? fun word => word.1.isPrefixOf text with
  | some (word, value) => .ok (value, text.drop word.length)
  | none => numberAt text

/-- How many lists and objects may be open at once. -/
def nestingLimit : Nat := 990

mutual

/-- Read the value at the front of a text, with `depth` lists and objects still to be opened. Every
step uses up fuel; twice the length of the text suffices. -/
def valueAt : (fuel depth : Nat) → List Char → Except JsonFault (Value × List Char)
  | 0, _, text => .error (.malformed .value text)
  | fuel + 1, depth, text =>
    match text with
    | '"' :: _ => do
      let (points, rest) ← stringAt text
      return (Value.ofPoints points, rest)
    | '[' :: rest =>
      if depth = 0 then .error .tooDeep
      else
        match skipSpace rest with
        | ']' :: rest => .ok (.list [], rest)
        | rest => itemsAt fuel (depth - 1) [] rest
    | '\x7b' :: rest =>
      if depth = 0 then .error .tooDeep
      else
        match skipSpace rest with
        | '\x7d' :: rest => .ok (.dict [], rest)
        | rest => membersAt fuel (depth - 1) [] rest
    | text => scalarAt text

/-- Read the items of a list from the first character of an item on, and its closing bracket. -/
def itemsAt :
    (fuel depth : Nat) → (items : List Value) → List Char → Except JsonFault (Value × List Char)
  | 0, _, _, text => .error (.malformed .value text)
  | fuel + 1, depth, items, text =>
    match valueAt fuel depth text with
    | .error fault => .error fault
    | .ok (item, rest) =>
      match skipSpace rest with
      | ']' :: rest => .ok (.list (item :: items).reverse, rest)
      | ',' :: rest => itemsAt fuel depth (item :: items) (skipSpace rest)
      | rest => .error (.malformed .comma rest)

/-- Read the members of an object from the first character of a name on, and its closing brace. -/
def membersAt :
    (fuel depth : Nat) → (members : List (Value × Value)) → List Char →
      Except JsonFault (Value × List Char)
  | 0, _, _, text => .error (.malformed .value text)
  | fuel + 1, depth, members, text =>
    match text with
    | '"' :: _ =>
      match stringAt text with
      | .error fault => .error fault
      | .ok (points, rest) =>
        match skipSpace rest with
        | ':' :: rest =>
          match valueAt fuel depth (skipSpace rest) with
          | .error fault => .error fault
          | .ok (value, rest) =>
            let members := (Value.ofPoints points, value) :: members
            match skipSpace rest with
            | '\x7d' :: rest => .ok (.dict (Value.entriesOf members.reverse), rest)
            | ',' :: rest => membersAt fuel depth members (skipSpace rest)
            | rest => .error (.malformed .comma rest)
        | rest => .error (.malformed .colon rest)
    | text => .error (.malformed .name text)

end

/-- Read a whole document. -/
def document (text : List Char) : Except JsonFault Value :=
  if text.head? = some (Char.ofNat 0xFEFF) then .error (.malformed .byteOrderMark text)
  else
    match valueAt (2 * text.length + 2) nestingLimit (skipSpace text) with
    | .error fault => .error fault
    | .ok (value, rest) =>
      match skipSpace rest with
      | [] => .ok value
      | rest => .error (.malformed .extra rest)

end Json

end LineWidth
