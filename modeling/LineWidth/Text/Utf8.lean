import LineWidth.Text.Quoted

/-! # Reading UTF-8

Bytes are read one at a time. A lead byte opens a sequence and says how many bytes are missing and
in which range the next one lies; the ranges rule out overlong forms, surrogates and code points
that do not exist. A fault covers the longest part of a sequence that was still valid.
-/

namespace LineWidth.Text

/-- Why bytes are not UTF-8. -/
inductive Utf8Reason where
  | invalidStart
  | invalidContinuation
  | unexpectedEnd
deriving DecidableEq, Repr

/-- The wording of a reason. -/
def Utf8Reason.message : Utf8Reason → String
  | .invalidStart => "invalid start byte"
  | .invalidContinuation => "invalid continuation byte"
  | .unexpectedEnd => "unexpected end of data"

/-- A fault in `length` bytes from position `start` on, the first of which is `lead`. -/
structure Utf8Fault where
  reason : Utf8Reason
  lead : UInt8
  start : Nat
  length : Nat
deriving DecidableEq, Repr

/-- The wording of a fault. -/
def Utf8Fault.message (fault : Utf8Fault) : String :=
  let place :=
    if fault.length = 1 then
      "byte 0x" ++ String.ofList (hexDigits 2 fault.lead.toNat) ++ " in position " ++
        toString fault.start
    else
      "bytes in position " ++ toString fault.start ++ "-" ++
        toString (fault.start + fault.length - 1)
  "'utf-8' codec can't decode " ++ place ++ ": " ++ fault.reason.message

/-- A sequence that has been opened: its lead byte, the bits read so far, the bytes read and still
missing, and the range of the next byte. -/
structure Utf8Sequence where
  lead : UInt8
  bits : Nat
  read : Nat
  missing : Nat
  low : Nat
  high : Nat
deriving DecidableEq, Repr

/-- The sequence that a lead byte beyond ASCII opens. -/
def Utf8Sequence.open? (byte : UInt8) : Option Utf8Sequence :=
  let n := byte.toNat
  if n < 0xC2 then none
  else if n < 0xE0 then some ⟨byte, n - 0xC0, 1, 1, 0x80, 0xBF⟩
  else if n < 0xF0 then
    some ⟨byte, n - 0xE0, 1, 2, if n = 0xE0 then 0xA0 else 0x80, if n = 0xED then 0x9F else 0xBF⟩
  else if n < 0xF5 then
    some ⟨byte, n - 0xF0, 1, 3, if n = 0xF0 then 0x90 else 0x80, if n = 0xF4 then 0x8F else 0xBF⟩
  else none

/-- A reader's state: the characters read, last first, the position, and an open sequence. -/
structure Utf8State where
  chars : List Char := []
  position : Nat := 0
  pending : Option Utf8Sequence := none
deriving DecidableEq, Repr

namespace Utf8State

/-- The fault of an open sequence. -/
def faultOf (state : Utf8State) (reason : Utf8Reason) (sequence : Utf8Sequence) : Utf8Fault :=
  ⟨reason, sequence.lead, state.position - sequence.read, sequence.read⟩

/-- Read one byte. -/
def step (state : Utf8State) (byte : UInt8) : Except Utf8Fault Utf8State :=
  let n := byte.toNat
  let position := state.position + 1
  match state.pending with
  | none =>
    if n < 0x80 then .ok ⟨Char.ofNat n :: state.chars, position, none⟩
    else
      match Utf8Sequence.open? byte with
      | some sequence => .ok ⟨state.chars, position, some sequence⟩
      | none => .error ⟨.invalidStart, byte, state.position, 1⟩
  | some sequence =>
    if sequence.low ≤ n ∧ n ≤ sequence.high then
      let bits := sequence.bits * 64 + (n - 0x80)
      if sequence.missing = 1 then .ok ⟨Char.ofNat bits :: state.chars, position, none⟩
      else
        .ok ⟨state.chars, position,
          some ⟨sequence.lead, bits, sequence.read + 1, sequence.missing - 1, 0x80, 0xBF⟩⟩
    else .error (state.faultOf .invalidContinuation sequence)

/-- The characters read, once the bytes have ended. -/
def finish (state : Utf8State) : Except Utf8Fault (List Char) :=
  match state.pending with
  | none => .ok state.chars.reverse
  | some sequence => .error (state.faultOf .unexpectedEnd sequence)

end Utf8State

/-- The characters that bytes spell. -/
def decodeUtf8 (bytes : List UInt8) : Except Utf8Fault (List Char) := do
  let state ← bytes.foldlM Utf8State.step {}
  state.finish

end LineWidth.Text
