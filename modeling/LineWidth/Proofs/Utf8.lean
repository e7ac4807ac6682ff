import LineWidth.Text.Utf8
import Mathlib.Algebra.Ring.Nat

/-! # The reader of UTF-8 reads exactly UTF-8

The reader takes bytes one at a time, and an open sequence remembers the bits read so far and the
range of its next byte. What may follow an open sequence is said here by the code point that it
leads to: the bits read are its leading bits, and the missing bytes hold the others, six bits each.
The ranges are what keeps overlong forms, surrogates and code points that do not exist out, so a
sequence always leads to characters.
-/

namespace LineWidth.Text

/-- The bytes that hold the last `count` groups of six bits of a code point. -/
def continuation : (count point : Nat) → List UInt8
  | 0, _ => []
  | count + 1, point => .ofNat (point / 64 ^ count % 64 + 0x80) :: continuation count point

theorem eq_ofNat_iff {c : Char} {point : Nat} (valid : point.isValidChar) :
    c = Char.ofNat point ↔ c.toNat = point := by
  have same : (Char.ofNat point).toNat = point := by
    rw [Char.ofNat, dif_pos valid]
    rfl
  constructor
  · rintro rfl
    exact same
  · intro point
    rw [← point, Char.ofNat_toNat]

private theorem continuation_eq_cons_iff {count point : Nat} {byte : UInt8} {bytes : List UInt8} :
    byte :: bytes = continuation (count + 1) point ↔
      point / 64 ^ count % 64 + 0x80 = byte.toNat ∧ bytes = continuation count point := by
  have small : (UInt8.ofNat (point / 64 ^ count % 64 + 0x80)).toNat =
      point / 64 ^ count % 64 + 0x80 := by
    rw [UInt8.toNat_ofNat', Nat.mod_eq_of_lt (by omega)]
  rw [continuation, List.cons.injEq, ← UInt8.toNat_inj, small, eq_comm]

namespace Utf8Sequence

/-- A code point that an open sequence can still become. -/
structure LeadsTo (sequence : Utf8Sequence) (point : Nat) : Prop where
  bits : point / 64 ^ sequence.missing = sequence.bits
  low : sequence.low ≤ point / 64 ^ (sequence.missing - 1) % 64 + 0x80
  high : point / 64 ^ (sequence.missing - 1) % 64 + 0x80 ≤ sequence.high

/-- A sequence that leads to characters only. -/
structure Sound (sequence : Utf8Sequence) : Prop where
  missing : 0 < sequence.missing
  low : 0x80 ≤ sequence.low
  high : sequence.high ≤ 0xBF
  valid : ∀ point, sequence.LeadsTo point → point.isValidChar

/-- Bytes complete an open sequence to a character. -/
def Completes (sequence : Utf8Sequence) (bytes : List UInt8) (c : Char) : Prop :=
  sequence.LeadsTo c.toNat ∧ bytes = continuation sequence.missing c.toNat

/-- The sequence after one of several missing bytes. -/
def extend (sequence : Utf8Sequence) (byte : UInt8) : Utf8Sequence :=
  ⟨sequence.lead, sequence.bits * 64 + (byte.toNat - 0x80), sequence.read + 1,
    sequence.missing - 1, 0x80, 0xBF⟩

variable {sequence : Utf8Sequence} {byte : UInt8} {bytes : List UInt8} {c : Char}

/-- One more byte in range narrows down what a sequence leads to. -/
private theorem leadsTo_extend_iff (sound : sequence.Sound)
    (low : sequence.low ≤ byte.toNat) (high : byte.toNat ≤ sequence.high) {point : Nat} :
    (sequence.extend byte).LeadsTo point ↔ sequence.LeadsTo point ∧
      point / 64 ^ (sequence.missing - 1) % 64 + 0x80 = byte.toNat := by
  obtain ⟨count, missing⟩ : ∃ count, sequence.missing = count + 1 :=
    Nat.exists_eq_add_one.mpr sound.missing
  have lower := sound.low
  have upper := sound.high
  have whole : point / 64 ^ (count + 1) = point / 64 ^ count / 64 := by
    rw [pow_succ, Nat.div_div_eq_div_mul]
  constructor
  · rintro ⟨bits, -, -⟩
    simp only [extend, missing, Nat.add_sub_cancel] at bits
    simp only [missing, Nat.add_sub_cancel]
    exact ⟨⟨by simp only [missing]; omega, by simp only [missing, Nat.add_sub_cancel]; omega,
      by simp only [missing, Nat.add_sub_cancel]; omega⟩, by omega⟩
  · rintro ⟨⟨bits, -, -⟩, same⟩
    simp only [missing, Nat.add_sub_cancel] at bits same
    exact ⟨by simp only [extend, missing, Nat.add_sub_cancel]; omega, by simp only [extend]; omega,
      by simp only [extend]; omega⟩

/-- Extending a sequence keeps it sound. -/
private theorem Sound.extend (sound : sequence.Sound) (several : sequence.missing ≠ 1)
    (low : sequence.low ≤ byte.toNat) (high : byte.toNat ≤ sequence.high) :
    (sequence.extend byte).Sound := by
  have missing := sound.missing
  refine ⟨?_, Nat.le_refl _, Nat.le_refl _, ?_⟩
  · simp only [Utf8Sequence.extend]
    omega
  · intro point leads
    exact sound.valid point ((leadsTo_extend_iff sound low high).mp leads).1

/-- The last missing byte completes a sequence to the character of its bits. -/
private theorem completes_last_iff (sound : sequence.Sound) (last : sequence.missing = 1) :
    sequence.Completes (byte :: bytes) c ↔
      (sequence.low ≤ byte.toNat ∧ byte.toNat ≤ sequence.high) ∧ bytes = [] ∧
        c = Char.ofNat (sequence.bits * 64 + (byte.toNat - 0x80)) := by
  have lower := sound.low
  have upper := sound.high
  unfold Completes
  rw [last, continuation_eq_cons_iff, continuation]
  constructor
  · rintro ⟨⟨bits, low, high⟩, same, rfl⟩
    simp only [last, pow_one, pow_zero, Nat.div_one, Nat.sub_self] at bits low high same
    have point : c.toNat = sequence.bits * 64 + (byte.toNat - 0x80) := by omega
    exact ⟨by omega, rfl, by rw [← point, Char.ofNat_toNat]⟩
  · rintro ⟨⟨low, high⟩, rfl, same⟩
    have leads : sequence.LeadsTo (sequence.bits * 64 + (byte.toNat - 0x80)) := by
      refine ⟨?_, ?_, ?_⟩ <;> simp only [last, pow_one, pow_zero, Nat.div_one, Nat.sub_self] <;>
        omega
    rw [(eq_ofNat_iff (sound.valid _ leads)).mp same, pow_zero, Nat.div_one]
    exact ⟨leads, by omega, rfl⟩

/-- A byte in range, with more bytes missing, leaves what completes the extended sequence. -/
private theorem completes_cons_iff (sound : sequence.Sound) :
    sequence.Completes (byte :: bytes) c ↔
      (sequence.low ≤ byte.toNat ∧ byte.toNat ≤ sequence.high) ∧
        (sequence.extend byte).Completes bytes c := by
  obtain ⟨count, missing⟩ : ∃ count, sequence.missing = count + 1 :=
    Nat.exists_eq_add_one.mpr sound.missing
  unfold Completes
  rw [missing, continuation_eq_cons_iff]
  constructor
  · rintro ⟨leads, same, rfl⟩
    have low := leads.low
    have high := leads.high
    rw [missing, Nat.add_sub_cancel, same] at low high
    refine ⟨⟨low, high⟩, (leadsTo_extend_iff sound low high).mpr ⟨leads, ?_⟩, ?_⟩
    · rw [missing, Nat.add_sub_cancel, same]
    · simp only [extend, missing, Nat.add_sub_cancel]
  · rintro ⟨⟨low, high⟩, leads, rfl⟩
    obtain ⟨leads, same⟩ := (leadsTo_extend_iff sound low high).mp leads
    rw [missing, Nat.add_sub_cancel] at same
    refine ⟨leads, same, ?_⟩
    simp only [extend, missing, Nat.add_sub_cancel]

/-- Lead bytes open sequences of two, three or four bytes. -/
private theorem open_eq_some_iff :
    open? byte = some sequence ↔
      (0xC2 ≤ byte.toNat ∧ byte.toNat < 0xE0 ∧
        sequence = ⟨byte, byte.toNat - 0xC0, 1, 1, 0x80, 0xBF⟩) ∨
      (0xE0 ≤ byte.toNat ∧ byte.toNat < 0xF0 ∧
        sequence = ⟨byte, byte.toNat - 0xE0, 1, 2, if byte.toNat = 0xE0 then 0xA0 else 0x80,
          if byte.toNat = 0xED then 0x9F else 0xBF⟩) ∨
      (0xF0 ≤ byte.toNat ∧ byte.toNat < 0xF5 ∧
        sequence = ⟨byte, byte.toNat - 0xF0, 1, 3, if byte.toNat = 0xF0 then 0x90 else 0x80,
          if byte.toNat = 0xF4 then 0x8F else 0xBF⟩) := by
  unfold open?
  constructor
  · intro opened
    simp only at opened
    split at opened
    · cases opened
    split at opened
    · exact .inl ⟨by omega, by omega, (Option.some.inj opened).symm⟩
    split at opened
    · exact .inr (.inl ⟨by omega, by omega, (Option.some.inj opened).symm⟩)
    split at opened
    · exact .inr (.inr ⟨by omega, by omega, (Option.some.inj opened).symm⟩)
    · cases opened
  · rintro (⟨low, high, rfl⟩ | ⟨low, high, rfl⟩ | ⟨low, high, rfl⟩)
    · rw [if_neg (by omega), if_pos high]
    · rw [if_neg (by omega), if_neg (by omega), if_pos high]
    · rw [if_neg (by omega), if_neg (by omega), if_neg (by omega), if_pos high]

/-- The sequences that lead bytes open lead to characters. -/
private theorem sound_of_open (opened : open? byte = some sequence) : sequence.Sound := by
  rcases open_eq_some_iff.mp opened with ⟨low, high, rfl⟩ | ⟨low, high, rfl⟩ | ⟨low, high, rfl⟩
  · refine ⟨Nat.one_pos, Nat.le_refl _, Nat.le_refl _, ?_⟩
    rintro point ⟨bits, -, -⟩
    simp only [pow_one] at bits
    left
    omega
  · refine ⟨Nat.two_pos, by simp only; split <;> omega, by simp only; split <;> omega, ?_⟩
    rintro point ⟨bits, -, atMost⟩
    simp only [Nat.reducePow, Nat.reduceSub, Nat.isValidChar] at bits atMost ⊢
    split_ifs at atMost <;> omega
  · refine ⟨Nat.succ_pos 2, by simp only; split <;> omega, by simp only; split <;> omega, ?_⟩
    rintro point ⟨bits, atLeast, atMost⟩
    simp only [Nat.reducePow, Nat.reduceSub, Nat.isValidChar] at bits atLeast atMost ⊢
    split_ifs at atLeast atMost <;> omega

/-- The lead byte of a character beyond ASCII opens a sequence that leads to the character. -/
private theorem open_leadsTo_iff {point : Nat} (valid : point.isValidChar) :
    (∃ sequence, open? byte = some sequence ∧ sequence.LeadsTo point ∧
        bytes = continuation sequence.missing point) ↔
      (0x80 ≤ point ∧ point < 0x800 ∧ byte.toNat = point / 64 + 0xC0 ∧
        bytes = continuation 1 point) ∨
      (0x800 ≤ point ∧ point < 0x10000 ∧ byte.toNat = point / 4096 + 0xE0 ∧
        bytes = continuation 2 point) ∨
      (0x10000 ≤ point ∧ byte.toNat = point / 262144 + 0xF0 ∧ bytes = continuation 3 point) := by
  simp only [Nat.isValidChar] at valid
  constructor
  · rintro ⟨sequence, opened, ⟨bits, atLeast, atMost⟩, tail⟩
    rcases open_eq_some_iff.mp opened with ⟨low, high, rfl⟩ | ⟨low, high, rfl⟩ | ⟨low, high, rfl⟩
    · simp only [pow_one] at bits
      exact .inl ⟨by omega, by omega, by omega, tail⟩
    · simp only [Nat.reducePow, Nat.reduceSub] at bits atLeast
      refine .inr (.inl ⟨?_, by omega, by omega, tail⟩)
      split_ifs at atLeast <;> omega
    · simp only [Nat.reducePow, Nat.reduceSub] at bits atLeast
      refine .inr (.inr ⟨?_, by omega, tail⟩)
      split_ifs at atLeast <;> omega
  · rintro (⟨low, high, lead, tail⟩ | ⟨low, high, lead, tail⟩ | ⟨low, lead, tail⟩)
    · refine ⟨_, open_eq_some_iff.mpr (.inl ⟨by omega, by omega, rfl⟩), ⟨?_, ?_, ?_⟩, tail⟩
      all_goals
        simp only [pow_one]
        omega
    · refine ⟨_, open_eq_some_iff.mpr (.inr (.inl ⟨by omega, by omega, rfl⟩)), ⟨?_, ?_, ?_⟩, tail⟩
      · simp only [Nat.reducePow]
        omega
      · simp only [Nat.reducePow, Nat.reduceSub]
        split <;> omega
      · simp only [Nat.reducePow, Nat.reduceSub]
        split <;> omega
    · refine ⟨_, open_eq_some_iff.mpr (.inr (.inr ⟨by omega, by omega, rfl⟩)), ⟨?_, ?_, ?_⟩, tail⟩
      · simp only [Nat.reducePow]
        omega
      · simp only [Nat.reducePow, Nat.reduceSub]
        split <;> omega
      · simp only [Nat.reducePow, Nat.reduceSub]
        split <;> omega

end Utf8Sequence

/-- A character is encoded by a lead byte, which shows the length, and its other bits. -/
private theorem encode_eq (c : Char) :
    String.utf8EncodeChar c =
      if c.toNat < 0x80 then [.ofNat c.toNat]
      else if c.toNat < 0x800 then .ofNat (c.toNat / 64 + 0xC0) :: continuation 1 c.toNat
      else if c.toNat < 0x10000 then .ofNat (c.toNat / 4096 + 0xE0) :: continuation 2 c.toNat
      else .ofNat (c.toNat / 262144 + 0xF0) :: continuation 3 c.toNat := by
  have valid : c.val.toNat.isValidChar := c.valid
  simp only [Nat.isValidChar] at valid
  unfold String.utf8EncodeChar
  simp only [← Char.toNat_val, continuation, Nat.reducePow, pow_one, pow_zero, Nat.div_one]
  rcases Nat.lt_or_ge c.val.toNat 0x80 with one | one
  · rw [if_pos (by omega), if_pos one]
  rcases Nat.lt_or_ge c.val.toNat 0x800 with two | two
  · rw [if_neg (by omega), if_pos (by omega), if_neg (by omega), if_pos two,
      Nat.mod_eq_of_lt (a := c.val.toNat / 64) (by omega)]
  rcases Nat.lt_or_ge c.val.toNat 0x10000 with three | three
  · rw [if_neg (by omega), if_neg (by omega), if_pos (by omega), if_neg (by omega),
      if_neg (by omega), if_pos three, Nat.mod_eq_of_lt (a := c.val.toNat / 4096) (by omega)]
  · rw [if_neg (by omega), if_neg (by omega), if_neg (by omega), if_neg (by omega),
      if_neg (by omega), if_neg (by omega),
      Nat.mod_eq_of_lt (a := c.val.toNat / 262144) (by omega)]

/-- The first byte of a character is the character itself, or it opens a sequence that the other
bytes complete. -/
private theorem encode_eq_cons_iff {c : Char} {byte : UInt8} {bytes : List UInt8} :
    String.utf8EncodeChar c = byte :: bytes ↔
      (byte.toNat < 0x80 ∧ c = Char.ofNat byte.toNat ∧ bytes = []) ∨
      (0x80 ≤ byte.toNat ∧ ∃ sequence, Utf8Sequence.open? byte = some sequence ∧
        sequence.Completes bytes c) := by
  have valid : c.toNat.isValidChar := c.valid
  have first {lead : Nat} {tail : List UInt8} (small : lead < 256) :
      UInt8.ofNat lead :: tail = byte :: bytes ↔ byte.toNat = lead ∧ bytes = tail := by
    rw [List.cons.injEq, ← UInt8.toNat_inj, UInt8.toNat_ofNat', Nat.mod_eq_of_lt small, eq_comm,
      eq_comm (a := tail)]
  simp only [Utf8Sequence.Completes, Utf8Sequence.open_leadsTo_iff valid, encode_eq]
  simp only [Nat.isValidChar] at valid
  have ascii : byte.toNat < 0x80 → (c = Char.ofNat byte.toNat ↔ c.toNat = byte.toNat) :=
    fun small => eq_ofNat_iff (.inl (by omega))
  rcases Nat.lt_or_ge c.toNat 0x80 with one | one
  · rw [if_pos one, first (by omega)]
    constructor
    · rintro ⟨lead, tail⟩
      exact .inl ⟨by omega, (ascii (by omega)).mpr lead.symm, tail⟩
    · rintro (⟨small, same, tail⟩ | ⟨-, opened⟩)
      · exact ⟨((ascii small).mp same).symm, tail⟩
      · omega
  rw [if_neg (by omega)]
  -- beyond ASCII the character is not its own first byte
  have notAscii : ¬ (byte.toNat < 0x80 ∧ c = Char.ofNat byte.toNat ∧ bytes = []) := by
    rintro ⟨small, same, -⟩
    have point := (ascii small).mp same
    omega
  rw [or_iff_right notAscii]
  rcases Nat.lt_or_ge c.toNat 0x800 with two | two
  · rw [if_pos two, first (by omega)]
    constructor
    · rintro ⟨lead, tail⟩
      exact ⟨by omega, .inl ⟨one, two, lead, tail⟩⟩
    · rintro ⟨-, ⟨-, -, lead, tail⟩ | opened⟩
      · exact ⟨lead, tail⟩
      · omega
  rw [if_neg (by omega)]
  rcases Nat.lt_or_ge c.toNat 0x10000 with three | three
  · rw [if_pos three, first (by omega)]
    constructor
    · rintro ⟨lead, tail⟩
      exact ⟨by omega, .inr (.inl ⟨two, three, lead, tail⟩)⟩
    · rintro ⟨-, opened | ⟨-, -, lead, tail⟩ | opened⟩
      · omega
      · exact ⟨lead, tail⟩
      · omega
  · rw [if_neg (by omega), first (by omega)]
    constructor
    · rintro ⟨lead, tail⟩
      exact ⟨by omega, .inr (.inr ⟨three, lead, tail⟩)⟩
    · rintro ⟨-, opened | opened | ⟨-, lead, tail⟩⟩
      · omega
      · omega
      · exact ⟨lead, tail⟩

private theorem encode_ne_nil (c : Char) : String.utf8EncodeChar c ≠ [] := by
  apply List.ne_nil_of_length_pos
  rw [String.length_utf8EncodeChar]
  exact c.utf8Size_pos

/-- What bytes spell from a state of the reader on, an open sequence being completed first. -/
def Spells : Option Utf8Sequence → List UInt8 → List Char → Prop
  | none, bytes, text => bytes = text.flatMap String.utf8EncodeChar
  | some sequence, bytes, text => ∃ c rest own later, text = c :: rest ∧ bytes = own ++ later ∧
    sequence.Completes own c ∧ later = rest.flatMap String.utf8EncodeChar

section Spells

variable {byte : UInt8} {bytes : List UInt8} {text : List Char} {sequence : Utf8Sequence}

private theorem spells_cons_iff :
    Spells none (byte :: bytes) text ↔
      (byte.toNat < 0x80 ∧ ∃ rest, text = Char.ofNat byte.toNat :: rest ∧ Spells none bytes rest) ∨
      (0x80 ≤ byte.toNat ∧ ∃ sequence, Utf8Sequence.open? byte = some sequence ∧
        Spells (some sequence) bytes text) := by
  constructor
  · intro spelled
    cases text with
    | nil => cases spelled
    | cons c rest =>
      simp only [Spells, List.flatMap_cons] at spelled
      obtain ⟨first, tail, own⟩ := List.exists_cons_of_ne_nil (encode_ne_nil c)
      rw [own, List.cons_append, List.cons.injEq] at spelled
      obtain ⟨rfl, rfl⟩ := spelled
      rcases encode_eq_cons_iff.mp own with ⟨small, same, rfl⟩ | ⟨large, sequence, opened, done⟩
      · exact .inl ⟨small, rest, by rw [same], rfl⟩
      · exact .inr ⟨large, sequence, opened, c, rest, tail, _, rfl, rfl, done, rfl⟩
  · rintro (⟨small, rest, rfl, spelled⟩ | ⟨large, sequence, opened, spelled⟩)
    · have own := encode_eq_cons_iff.mpr (.inl ⟨small, rfl, rfl⟩)
      simp only [Spells, List.flatMap_cons] at spelled ⊢
      rw [own, spelled]
      rfl
    · obtain ⟨c, rest, own, later, rfl, rfl, done, rfl⟩ := spelled
      have whole := encode_eq_cons_iff.mpr (.inr ⟨large, sequence, opened, done⟩)
      simp only [Spells, List.flatMap_cons]
      rw [whole, List.cons_append]

/-- What completes an open sequence has a first byte. -/
private theorem Utf8Sequence.Completes.ne_nil {c : Char} (done : sequence.Completes bytes c)
    (sound : sequence.Sound) : bytes ≠ [] := by
  obtain ⟨count, missing⟩ := Nat.exists_eq_add_one.mpr sound.missing
  rw [done.2, missing]
  exact List.cons_ne_nil _ _

private theorem not_spells_nil (sound : sequence.Sound) : ¬ Spells (some sequence) [] text := by
  rintro ⟨c, rest, own, later, -, empty, done, -⟩
  exact done.ne_nil sound (List.append_eq_nil_iff.mp empty.symm).1

private theorem spells_last_iff (sound : sequence.Sound) (last : sequence.missing = 1) :
    Spells (some sequence) (byte :: bytes) text ↔
      (sequence.low ≤ byte.toNat ∧ byte.toNat ≤ sequence.high) ∧
        ∃ rest, text = Char.ofNat (sequence.bits * 64 + (byte.toNat - 0x80)) :: rest ∧
          Spells none bytes rest := by
  constructor
  · rintro ⟨c, rest, own, later, rfl, split, done, rfl⟩
    obtain ⟨first, tail, rfl⟩ := List.exists_cons_of_ne_nil (done.ne_nil sound)
    rw [List.cons_append, List.cons.injEq] at split
    obtain ⟨rfl, rfl⟩ := split
    obtain ⟨range, rfl, same⟩ := (Utf8Sequence.completes_last_iff sound last).mp done
    exact ⟨range, rest, by rw [same], rfl⟩
  · rintro ⟨range, rest, rfl, spelled⟩
    exact ⟨_, rest, [byte], bytes, rfl, rfl,
      (Utf8Sequence.completes_last_iff sound last).mpr ⟨range, rfl, rfl⟩, spelled⟩

private theorem spells_extend_iff (sound : sequence.Sound) :
    Spells (some sequence) (byte :: bytes) text ↔
      (sequence.low ≤ byte.toNat ∧ byte.toNat ≤ sequence.high) ∧
        Spells (some (sequence.extend byte)) bytes text := by
  constructor
  · rintro ⟨c, rest, own, later, rfl, split, done, rfl⟩
    obtain ⟨first, tail, rfl⟩ := List.exists_cons_of_ne_nil (done.ne_nil sound)
    rw [List.cons_append, List.cons.injEq] at split
    obtain ⟨rfl, rfl⟩ := split
    obtain ⟨range, done⟩ := (Utf8Sequence.completes_cons_iff sound).mp done
    exact ⟨range, c, rest, tail, _, rfl, rfl, done, rfl⟩
  · rintro ⟨range, c, rest, own, later, rfl, rfl, done, rfl⟩
    exact ⟨c, rest, byte :: own, _, rfl, rfl,
      (Utf8Sequence.completes_cons_iff sound).mpr ⟨range, done⟩, rfl⟩

end Spells

namespace Utf8State

/-- A state whose open sequence, if there is one, leads to characters. -/
def Sound (state : Utf8State) : Prop := ∀ sequence, state.pending = some sequence → sequence.Sound

/-- A step keeps what was read and leaves a state that leads to characters. -/
private theorem Sound.step {state next : Utf8State} (sound : state.Sound) {byte : UInt8}
    (done : state.step byte = .ok next) : next.Sound ∧ ∃ new, next.chars = new ++ state.chars := by
  unfold Utf8State.step at done
  cases pending : state.pending with
  | none =>
    simp only [pending] at done
    split at done
    · obtain rfl := Except.ok.inj done
      exact ⟨by rintro sequence ⟨⟩, [_], rfl⟩
    · split at done
      · rename_i sequence opened
        obtain rfl := Except.ok.inj done
        refine ⟨?_, [], rfl⟩
        rintro _ ⟨⟩
        exact Utf8Sequence.sound_of_open opened
      · cases done
  | some sequence =>
    simp only [pending] at done
    split at done
    · rename_i range
      split at done
      · obtain rfl := Except.ok.inj done
        exact ⟨by rintro sequence ⟨⟩, [_], rfl⟩
      · rename_i several
        obtain rfl := Except.ok.inj done
        refine ⟨?_, [], rfl⟩
        rintro _ ⟨⟩
        exact (sound sequence pending).extend several range.1 range.2
    · cases done

/-- One byte is read exactly when bytes that start with it spell something, and then the others
spell what is left of it. -/
private theorem spells_step_iff {state : Utf8State} (sound : state.Sound) {byte : UInt8}
    {bytes : List UInt8} {text : List Char} :
    Spells state.pending (byte :: bytes) text ↔ ∃ next rest, state.step byte = .ok next ∧
      state.chars.reverse ++ text = next.chars.reverse ++ rest ∧
      Spells next.pending bytes rest := by
  unfold step
  cases pending : state.pending with
  | none =>
    rw [spells_cons_iff]
    simp only
    by_cases small : byte.toNat < 0x80
    · rw [if_pos small, or_iff_left (by omega), and_iff_right small]
      constructor
      · rintro ⟨rest, rfl, spelled⟩
        exact ⟨_, rest, rfl, by simp, spelled⟩
      · rintro ⟨next, rest, done, same, spelled⟩
        obtain rfl := Except.ok.inj done
        exact ⟨rest, by simpa using same, spelled⟩
    · rw [if_neg small, or_iff_right (by omega), and_iff_right (by omega)]
      cases opened : Utf8Sequence.open? byte with
      | none => simp
      | some sequence =>
        constructor
        · rintro ⟨_, ⟨⟩, spelled⟩
          exact ⟨_, text, rfl, rfl, spelled⟩
        · rintro ⟨next, rest, done, same, spelled⟩
          obtain rfl := Except.ok.inj done
          obtain rfl := List.append_cancel_left same
          exact ⟨sequence, rfl, spelled⟩
  | some sequence =>
    have sound := sound sequence pending
    simp only
    by_cases range : sequence.low ≤ byte.toNat ∧ byte.toNat ≤ sequence.high
    · rw [if_pos range]
      by_cases last : sequence.missing = 1
      · rw [if_pos last, spells_last_iff sound last, and_iff_right range]
        constructor
        · rintro ⟨rest, rfl, spelled⟩
          exact ⟨_, rest, rfl, by simp, spelled⟩
        · rintro ⟨next, rest, done, same, spelled⟩
          obtain rfl := Except.ok.inj done
          exact ⟨rest, by simpa using same, spelled⟩
      · rw [if_neg last, spells_extend_iff sound, and_iff_right range]
        constructor
        · intro spelled
          exact ⟨_, text, rfl, rfl, spelled⟩
        · rintro ⟨next, rest, done, same, spelled⟩
          obtain rfl := Except.ok.inj done
          obtain rfl := List.append_cancel_left same
          exact spelled
    · rw [if_neg range, spells_extend_iff sound]
      simp [range]

/-- Reading bytes from a state on gives the characters read so far and those that the bytes spell.
-/
private theorem run_eq_ok_iff {state : Utf8State} (sound : state.Sound) {bytes : List UInt8}
    {text : List Char} :
    (bytes.foldlM step state >>= finish) = .ok text ↔
      ∃ rest, text = state.chars.reverse ++ rest ∧ Spells state.pending bytes rest := by
  induction bytes generalizing state with
  | nil =>
    change state.finish = _ ↔ _
    unfold finish
    cases pending : state.pending with
    | none =>
      constructor
      · intro done
        exact ⟨[], by rw [List.append_nil, Except.ok.inj done], rfl⟩
      · rintro ⟨rest, rfl, spelled⟩
        cases rest with
        | nil => rw [List.append_nil]
        | cons c rest =>
          rw [Spells, List.flatMap_cons, eq_comm, List.append_eq_nil_iff] at spelled
          exact absurd spelled.1 (encode_ne_nil c)
    | some sequence =>
      constructor
      · rintro ⟨⟩
      · rintro ⟨rest, -, spelled⟩
        exact absurd spelled (not_spells_nil (sound sequence pending))
  | cons byte bytes ih =>
    simp only [spells_step_iff sound]
    rw [List.foldlM_cons]
    cases done : state.step byte with
    | error fault => simp [bind, Except.bind]
    | ok next =>
      change (bytes.foldlM step next >>= finish) = _ ↔ _
      obtain ⟨nextSound, new, kept⟩ := sound.step done
      rw [ih nextSound]
      constructor
      · rintro ⟨rest, rfl, spelled⟩
        have same : next.chars.reverse ++ rest = state.chars.reverse ++ (new.reverse ++ rest) := by
          rw [kept, List.reverse_append, List.append_assoc]
        exact ⟨_, same, next, rest, rfl, same.symm, spelled⟩
      · rintro ⟨rest, rfl, _, later, ⟨⟩, same, spelled⟩
        exact ⟨later, same, spelled⟩

end Utf8State

/-- Reading gives exactly the text whose encoding the bytes are. -/
private theorem decodeUtf8_eq_ok_iff {bytes : List UInt8} {text : List Char} :
    decodeUtf8 bytes = .ok text ↔ bytes = text.flatMap String.utf8EncodeChar := by
  have sound : ({} : Utf8State).Sound := by rintro sequence ⟨⟩
  have read := @Utf8State.run_eq_ok_iff {} sound bytes text
  simpa [decodeUtf8, Spells] using read

theorem decodeUtf8_content_iff {content : ByteArray} {text : List Char} :
    decodeUtf8 content.data.toList = .ok text ↔ content = text.utf8Encode := by
  rw [decodeUtf8_eq_ok_iff]
  constructor
  · intro spelled
    apply ByteArray.ext
    apply Array.toList_inj.mp
    rw [spelled, List.utf8Encode, List.toList_data_toByteArray]
  · rintro rfl
    rw [List.utf8Encode, List.toList_data_toByteArray]

/-- Contents that can be read are the ones that are UTF-8. -/
theorem exists_decodeUtf8_iff {content : ByteArray} :
    (∃ text, decodeUtf8 content.data.toList = .ok text) ↔ content.IsValidUTF8 := by
  simp only [decodeUtf8_content_iff]
  constructor
  · rintro ⟨text, same⟩
    exact ⟨text, same⟩
  · rintro ⟨text, same⟩
    exact ⟨text, same⟩

end LineWidth.Text
