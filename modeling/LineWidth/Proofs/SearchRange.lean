import LineWidth.Failure.Basic
import LineWidth.Proofs.BackwardSearch
import LineWidth.Proofs.IntegerText

/-! # The range of a backward search

A walk is the backward search as a loop over integers. It starts at the nearer of the given start
and the last token, goes down to the bound, and asks an unknown lookup for the token at each index
on its way; where it looks is written down. Main result: the search is refused exactly for a
negative bound, and otherwise gives the greatest index in range whose token is sought. It finds what
every walk finds whose lookup knows the stream, and no such walk leaves the stream, so what a lookup
does with a negative index, or with one behind the last token, never matters.

A refusal tells of the bound. It is therefore a failure of the token stream only if the bound has
few enough digits to be written, and breaks down otherwise.
-/

namespace LineWidth.TokenStream

/-- Where a walk has looked, nearest index first, and what it has found. -/
structure Walk where
  seen : List Int
  found : Option Int

/-- Look at the indices from `index` down to `bound` until a wanted token is found. -/
def walkDown (lookup : Int → Option Token) (wanted : Token → Bool) (bound index : Int) : Walk :=
  if index < bound then ⟨[], none⟩
  else if (lookup index).any wanted then ⟨[index], some index⟩
  else
    let rest := walkDown lookup wanted bound (index - 1)
    ⟨index :: rest.seen, rest.found⟩
termination_by (index + 1 - bound).toNat

/-- A walk looks at nothing above its first index and nothing below its bound. -/
private theorem walkDown_seen {lookup : Int → Option Token} {wanted : Token → Bool}
    {bound index place : Int} (looked : place ∈ (walkDown lookup wanted bound index).seen) :
    bound ≤ place ∧ place ≤ index := by
  fun_induction walkDown lookup wanted bound index with
  | case1 => cases looked
  | case2 index above =>
    rw [List.mem_singleton.mp looked]
    omega
  | case3 index above missed rest ih =>
    rcases List.mem_cons.mp looked with rfl | looked
    · omega
    · have inside := ih looked
      omega

section Range

variable {stream : TokenStream} {wanted : Token → Bool}

/-- Nothing is found in an empty range. -/
private theorem searchBelow_of_le {low high : Nat} (empty : high ≤ low) :
    stream.searchBelow wanted low high = none := by
  cases high with
  | zero => rfl
  | succ high => rw [searchBelow, if_pos (Nat.lt_of_succ_le empty)]

private theorem get?_natCast (index : Nat) : stream.get? index = stream.tokens[index]? := by
  rw [get?, if_neg (Int.not_lt.mpr (Int.natCast_nonneg index)), Int.toNat_natCast]

/-- One step of the search in a range that is not empty. -/
private theorem searchBelow_succ {low high : Nat} (inside : low ≤ high) :
    stream.searchBelow wanted low (high + 1) =
      if (stream.get? high).any wanted then some high
      else stream.searchBelow wanted low high := by
  rw [searchBelow, if_neg (Nat.not_lt.mpr inside), get?_natCast]

/-- A search that finds nothing has passed over no wanted token. -/
private theorem not_wanted_of_searchBelow {low high place : Nat}
    (missed : stream.searchBelow wanted low high = none) (above : low ≤ place)
    (below : place < high) : ¬ stream.tokens[place]?.any wanted = true := by
  induction high with
  | zero => omega
  | succ high ih =>
    rw [searchBelow_succ (by omega)] at missed
    split_ifs at missed with fits
    rcases Nat.lt_or_eq_of_le (Nat.le_of_lt_succ below) with below | rfl
    · exact ih missed below
    · rwa [get?_natCast] at fits

/-- A walk inside the stream finds what the search finds. -/
private theorem walkDown_found {lookup : Int → Option Token} {bound index : Int} (low : 0 ≤ bound)
    (high : index < stream.size)
    (knows : ∀ place : Int, 0 ≤ place → place < stream.size → lookup place = stream.get? place) :
    (walkDown lookup wanted bound index).found =
      (stream.searchBelow wanted bound.toNat (index + 1).toNat).map Int.ofNat := by
  fun_induction walkDown lookup wanted bound index with
  | case1 index below => rw [searchBelow_of_le (by omega), Option.map_none]
  | case2 index above fits =>
    obtain ⟨place, rfl⟩ := Int.eq_ofNat_of_zero_le (show 0 ≤ index by omega)
    rw [knows place (Int.natCast_nonneg place) high] at fits
    rw [show ((place : Int) + 1).toNat = place + 1 by omega, searchBelow_succ (by omega),
      if_pos fits]
    rfl
  | case3 index above missed rest ih =>
    obtain ⟨place, rfl⟩ := Int.eq_ofNat_of_zero_le (show 0 ≤ index by omega)
    rw [knows place (Int.natCast_nonneg place) high] at missed
    rw [show ((place : Int) + 1).toNat = place + 1 by omega, searchBelow_succ (by omega),
      if_neg missed, ih (by omega)]
    rw [show ((place : Int) - 1 + 1).toNat = place by omega]

end Range

/-- The indices from `bound` to `start` that are inside the stream and whose tokens are of one of
the kinds, or with `exclude` of none of them. -/
def sought (stream : TokenStream) (kinds : List TokenKind) (start bound : Int) (exclude : Bool) :
    Set Int :=
  {index | bound ≤ index ∧ index ≤ min start (stream.size - 1) ∧
    ∃ token, stream.get? index = some token ∧ decide (token.kind ∈ kinds) ≠ exclude}

section Sought

variable {stream : TokenStream} {kinds : List TokenKind} {start bound : Int} {exclude : Bool}

/-- An index that is sought is one that the search may stop at. -/
private theorem natCast_mem_sought {index : Nat} (low : 0 ≤ bound) :
    (index : Int) ∈ stream.sought kinds start bound exclude ↔
      bound.toNat ≤ index ∧ index < (min (start + 1) stream.size).toNat ∧
        stream.tokens[index]?.any (fun token => kinds.contains token.kind != exclude) = true := by
  simp only [sought, Set.mem_ofPred_eq, get?_natCast, Option.any_eq_true, bne_iff_ne,
    List.contains_eq_mem]
  exact and_congr (by omega) (and_congr (by omega) Iff.rfl)

private theorem nonneg_of_mem_sought {index : Int} (low : 0 ≤ bound)
    (member : index ∈ stream.sought kinds start bound exclude) : 0 ≤ index :=
  low.trans member.1

/-- The search finds the greatest index that is sought. -/
private theorem searchBack_eq_some_iff_sought {index : Nat} (low : 0 ≤ bound) :
    stream.searchBack (fun token => kinds.contains token.kind != exclude) start bound.toNat =
        some index ↔
      IsGreatest (stream.sought kinds start bound exclude) index := by
  rw [searchBack, searchBelow_eq_some_iff]
  constructor
  · rintro ⟨member, greatest⟩
    refine ⟨(natCast_mem_sought low).mpr member, ?_⟩
    intro place sought
    obtain ⟨place, rfl⟩ := Int.eq_ofNat_of_zero_le (nonneg_of_mem_sought low sought)
    exact Int.ofNat_le.mpr (greatest ((natCast_mem_sought low).mp sought))
  · rintro ⟨member, greatest⟩
    refine ⟨(natCast_mem_sought low).mp member, ?_⟩
    intro place inside
    exact Int.ofNat_le.mp (greatest ((natCast_mem_sought low).mpr inside))

/-- The search finds nothing exactly when nothing is sought. -/
private theorem searchBack_eq_none_iff (low : 0 ≤ bound) :
    stream.searchBack (fun token => kinds.contains token.kind != exclude) start bound.toNat =
        none ↔
      stream.sought kinds start bound exclude = ∅ := by
  rw [Set.eq_empty_iff_forall_notMem]
  constructor
  · intro missed place member
    obtain ⟨place, rfl⟩ := Int.eq_ofNat_of_zero_le (nonneg_of_mem_sought low member)
    obtain ⟨above, below, fits⟩ := (natCast_mem_sought low).mp member
    exact not_wanted_of_searchBelow missed above below fits
  · intro empty
    rw [Option.eq_none_iff_forall_ne_some]
    intro index found
    exact empty index ((searchBack_eq_some_iff_sought low).mp found).1

end Sought

/-- The search for the nearest token of some kinds. It is refused exactly for a negative bound. The
refusal is a failure of the token stream, unless the bound has too many digits to be told. Otherwise
the search gives the greatest index that is sought, and nothing exactly if no index is: so for a
negative start, for one before the bound, and for a stream without tokens. A walk finds the same,
whatever its lookup gives outside of the stream, and it looks at indices of the stream only. -/
theorem findPrevious_nearest (stream : TokenStream) (kinds : List TokenKind) (start bound : Int)
    (exclude : Bool) :
    ((∃ fault, stream.findPrevious kinds start bound exclude = .error fault) ↔ bound < 0) ∧
    (∀ fault, stream.findPrevious kinds start bound exclude = .error fault →
      fault = .negativeBound start bound ∧ fault.failure.category = .tokenStream ∧
        fault.stop = if Text.canWrite bound then .failure fault.failure
          else .breakdown .unwritableNumber) ∧
    (0 ≤ bound → ∃ found, stream.findPrevious kinds start bound exclude = .ok found ∧
      (∀ index : Nat, found = some index ↔
        IsGreatest (stream.sought kinds start bound exclude) index) ∧
      (found = none ↔ stream.sought kinds start bound exclude = ∅) ∧
      (start < 0 ∨ start < bound ∨ stream.size = 0 → found = none) ∧
      ∀ lookup : Int → Option Token,
        (∀ index : Int, 0 ≤ index → index < stream.size → lookup index = stream.get? index) →
        let walk := walkDown lookup (fun token => kinds.contains token.kind != exclude) bound
          (min start (stream.size - 1))
        walk.found = found.map Int.ofNat ∧
          ∀ index ∈ walk.seen, 0 ≤ index ∧ index < stream.size) := by
  by_cases negative : bound < 0
  · have refused : stream.findPrevious kinds start bound exclude =
        .error (.negativeBound start bound) := if_pos negative
    refine ⟨iff_of_true ⟨_, refused⟩ negative, ?_, fun low => absurd negative (Int.not_lt.mpr low)⟩
    intro fault same
    obtain rfl := Except.error.inj (refused.symm.trans same)
    exact ⟨rfl, rfl, rfl⟩
  · have low : 0 ≤ bound := Int.not_lt.mp negative
    have given : stream.findPrevious kinds start bound exclude = .ok (stream.searchBack
        (fun token => kinds.contains token.kind != exclude) start bound.toNat) := if_neg negative
    simp only [given, reduceCtorEq, exists_false, negative, false_implies, implies_true, true_and,
      Except.ok.injEq]
    refine fun _ => ⟨_, rfl, fun index => searchBack_eq_some_iff_sought low,
      searchBack_eq_none_iff low, ?_, ?_⟩
    · intro empty
      exact searchBelow_of_le (by omega)
    · intro lookup knows
      refine ⟨?_, ?_⟩
      · rw [walkDown_found low (by omega) knows, searchBack]
        congr 2
        omega
      · intro index looked
        have inside := walkDown_seen looked
        omega

/-- A bound with too many digits breaks the refusal of a search down. -/
theorem findPrevious_tooManyDigits :
    let stream : TokenStream := ⟨#[], ['\n']⟩
    let bound : Int := -Text.writeBound
    bound < 0 ∧ ∃ fault, stream.findPrevious [] 0 bound false = .error fault ∧
      fault.stop = .breakdown .unwritableNumber := by
  intro stream bound
  have positive := Text.writeBound_pos
  have negative : bound < 0 := by omega
  refine ⟨negative, .negativeBound 0 bound, if_pos negative, if_neg ?_⟩
  exact Bool.eq_false_iff.mp Text.canWrite_neg_writeBound

end LineWidth.TokenStream
