import LineWidth.Report.Rule
import Mathlib.Order.Bounds.Basic

/-! # The nearest token before a position

A backward search stops at the first wanted token that it meets, so what it finds is the greatest
index of a wanted token in its range. What the rule asks of an import line is said in these terms:
the nearest `use` and the nearest namespace separator before the anchor are both on the line. In a
stream that was built by hand the nearest one may well belong to another line.
-/

namespace LineWidth.TokenStream

variable {stream : TokenStream} {wanted : Token → Bool}

/-- A search finds the greatest index in its range whose token is wanted. -/
theorem searchBelow_eq_some_iff {low high index : Nat} :
    stream.searchBelow wanted low high = some index ↔
      IsGreatest {place | low ≤ place ∧ place < high ∧ stream.tokens[place]?.any wanted = true}
        index := by
  induction high with
  | zero =>
    constructor
    · intro found
      cases found
    · rintro ⟨⟨_, below, _⟩, _⟩
      exact absurd below (Nat.not_lt_zero index)
  | succ high ih =>
    unfold searchBelow
    split_ifs with outside here
    · constructor
      · intro found
        cases found
      · rintro ⟨⟨above, below, _⟩, _⟩
        omega
    · constructor
      · intro found
        obtain rfl := Option.some.inj found
        refine ⟨⟨by omega, Nat.lt_succ_self _, here⟩, ?_⟩
        rintro place ⟨_, below, _⟩
        omega
      · rintro ⟨⟨_, below, _⟩, greatest⟩
        have notBelow := greatest ⟨Nat.not_lt.mp outside, Nat.lt_succ_self high, here⟩
        rw [show high = index by omega]
    · -- the last place of the range holds no wanted token, so nothing is lost without it
      rw [ih]
      have same : {place | low ≤ place ∧ place < high + 1 ∧
          stream.tokens[place]?.any wanted = true} =
          {place | low ≤ place ∧ place < high ∧ stream.tokens[place]?.any wanted = true} := by
        ext place
        simp only [Set.mem_ofPred_eq]
        refine and_congr_right fun _ => ⟨?_, fun ⟨below, fits⟩ => ⟨by omega, fits⟩⟩
        rintro ⟨below, fits⟩
        refine ⟨Nat.lt_of_le_of_ne (by omega) ?_, fits⟩
        rintro rfl
        exact here fits
      rw [same]

/-- The indices of the tokens of a kind, from `low` on and before the anchor. -/
def placesOf (stream : TokenStream) (kind : TokenKind) (low anchor : Int) : Set Nat :=
  {place | low ≤ place ∧ place < anchor ∧ stream.tokens[place]?.any (·.kind == kind) = true}

/-- Whether the nearest token of a kind before the anchor, and not before `low`, is on a line. -/
def NearestOnLine (stream : TokenStream) (kind : TokenKind) (low anchor : Int) (number : Nat) :
    Prop :=
  ∃ place, IsGreatest (stream.placesOf kind low anchor) place ∧
    ∃ token, stream.tokens[place]? = some token ∧ token.line = number

/-- The search for a kind of token before the anchor. Its range ends with the stream. -/
private theorem searchBack_eq_some_iff {kind : TokenKind} {anchor low : Int} {index : Nat} :
    stream.searchBack (·.kind == kind) (anchor - 1) low.toNat = some index ↔
      IsGreatest (stream.placesOf kind low anchor) index := by
  have range : {place | low.toNat ≤ place ∧ place < (min (anchor - 1 + 1) stream.size).toNat ∧
      stream.tokens[place]?.any (·.kind == kind) = true} = stream.placesOf kind low anchor := by
    ext place
    simp only [placesOf, Set.mem_ofPred_eq]
    constructor
    · rintro ⟨above, below, fits⟩
      exact ⟨by omega, by omega, fits⟩
    · rintro ⟨above, below, fits⟩
      obtain ⟨token, present, _⟩ := (Option.any_eq_true _ _).mp fits
      have inside : place < stream.size := (Array.getElem?_eq_some_iff.mp present).1
      exact ⟨by omega, by omega, fits⟩
  rw [searchBack, searchBelow_eq_some_iff, range]

private theorem hasOnLine_iff {kind : TokenKind} {last : Token} {anchor low : Int} :
    stream.hasOnLine kind last anchor low.toNat = true ↔
      stream.NearestOnLine kind low anchor last.line := by
  simp only [hasOnLine, Option.any_eq_true, searchBack_eq_some_iff, NearestOnLine, beq_iff_eq]

/-- What the rule takes for an import line. -/
theorem isImportLine_iff {last : Token} {anchor low : Int} :
    stream.isImportLine last anchor low.toNat = true ↔
      stream.NearestOnLine .use low anchor last.line ∧
        stream.NearestOnLine .namespaceSeparator low anchor last.line := by
  rw [isImportLine, Bool.and_eq_true, hasOnLine_iff, hasOnLine_iff]

end LineWidth.TokenStream
