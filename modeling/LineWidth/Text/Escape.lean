/-! # Terminal escapes

Texts are shown without terminal control sequences: an escape character, an opening bracket,
parameters and a letter. An escape character that starts no such sequence stays.
-/

namespace LineWidth.Text

/-- Whether a character can be a parameter of a control sequence. -/
def isParameter (c : Char) : Bool := c == ';' || c == '?' || c.isDigit

/-- How many characters complete a control sequence just after its escape character. -/
def sequenceLength? : List Char → Option Nat
  | '[' :: rest =>
    let parameters := rest.takeWhile isParameter
    match rest.drop parameters.length with
    | final :: _ => if final.isAlpha then some (parameters.length + 2) else none
    | [] => none
  | _ => none

/-- Add a text without its control sequences behind `kept` (last first), the first `skip` characters
being part of a sequence. -/
def plainOnto (kept : List Char) : (skip : Nat) → List Char → List Char
  | _, [] => kept.reverse
  | skip + 1, _ :: rest => plainOnto kept skip rest
  | 0, c :: rest =>
    match if c = '\x1b' then sequenceLength? rest else none with
    | some length => plainOnto kept length rest
    | none => plainOnto (c :: kept) 0 rest

/-- A text without its control sequences. -/
def plain (text : String) : String := String.ofList (plainOnto [] 0 text.toList)

end LineWidth.Text
