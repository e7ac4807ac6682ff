import LineWidth.Proofs.LimitOrder
import Mathlib.Data.List.Flatten

/-! # Switches only filter

The two switches of the rule take records away and do nothing else, for any stream whatsoever. What
a switch does is said line by line: ignoring comments takes the diagnostic of a line that ends in a
comment, and ignoring import lines takes all records of such a line. Whether a stream can be
analyzed at all depends on no setting, because the only lookup that comes after the import search
succeeds wherever that search finds anything.
-/

namespace LineWidth

/-- Whether a record is an observation. -/
def Record.isObservation : Record → Bool
  | .observation _ => true
  | .diagnostic _ => false

section Measured

variable (settings : Settings) (line : Measured)

/-- The only observation among the records of a measured line is the line's own. -/
private theorem Settings.filter_recordsOf :
    (settings.recordsOf line).filter Record.isObservation = [.observation line.observation] := by
  have own : Record.isObservation (.observation line.observation) = true := rfl
  rw [recordsOf, List.filter_cons_of_pos own, List.cons_eq_cons, List.filter_eq_nil_iff]
  refine ⟨rfl, ?_⟩
  intro record member
  split_ifs at member
  · cases member
  · obtain ⟨found, _, rfl⟩ := Option.mem_map.mp (Option.mem_toList.mp member)
    exact Bool.false_ne_true

/-- Ignoring comments takes the diagnostic of a comment and leaves all other lines alone. -/
private theorem Settings.recordsOf_ignoreComments :
    { settings with ignoreComments := true }.recordsOf line =
      if line.last.kind = .comment ∨ line.last.kind = .docText then
        (settings.recordsOf line).filter Record.isObservation
      else settings.recordsOf line := by
  split_ifs with comment
  · have exempt : { settings with ignoreComments := true }.exemptsComment line.last = true :=
      (Settings.exemptsComment_iff _ _).mpr ⟨comment, .inl rfl⟩
    rw [filter_recordsOf, recordsOf, if_pos exempt]
  · have judged (other : Settings) : ¬ other.exemptsComment line.last = true :=
      fun exempt => comment ((other.exemptsComment_iff _).mp exempt).1
    rw [recordsOf, recordsOf, if_neg (judged _), if_neg (judged _)]
    rfl

end Measured

namespace TokenStream

/-- Whether the last token of the line before a pointer is the text of a comment. -/
def EndsInComment (stream : TokenStream) (pointer : Int) : Prop :=
  ∃ last, stream.get? (pointer - 1) = some last ∧ (last.kind = .comment ∨ last.kind = .docText)

/-- Whether the line before a pointer is an import line: going back from its anchor, over as many
tokens as the line has columns, the nearest `use` and the nearest namespace separator are both on
the line of its last token. -/
def ImportExempt (stream : TokenStream) (pointer : Int) : Prop :=
  ∃ last, stream.get? (pointer - 1) = some last ∧
    let anchor := stream.anchorIndex pointer last
    stream.NearestOnLine .use (anchor - last.endColumn) anchor last.line ∧
      stream.NearestOnLine .namespaceSeparator (anchor - last.endColumn) anchor last.line

instance (stream : TokenStream) (pointer : Int) : Decidable (stream.EndsInComment pointer) :=
  decidable_of_iff ((stream.get? (pointer - 1)).any (fun last =>
    decide (last.kind = .comment ∨ last.kind = .docText)) = true)
    (by simp only [EndsInComment, Option.any_eq_true, decide_eq_true_eq])

instance (stream : TokenStream) (pointer : Int) : Decidable (stream.ImportExempt pointer) :=
  decidable_of_iff ((stream.get? (pointer - 1)).any (fun last =>
    stream.isImportLine last (stream.anchorIndex pointer last)
      (stream.anchorIndex pointer last - last.endColumn).toNat) = true)
    (by simp only [ImportExempt, Option.any_eq_true, isImportLine_iff])

variable {stream : TokenStream} {pointer index : Int} {token last : Token}

theorem get_eq_ok_iff : stream.get index = .ok token ↔ stream.get? index = some token := by
  unfold get
  cases stream.get? index <;> simp

private theorem endsInComment_iff (atEnd : stream.get (pointer - 1) = .ok last) :
    stream.EndsInComment pointer ↔ last.kind = .comment ∨ last.kind = .docText := by
  simp only [EndsInComment, get_eq_ok_iff.mp atEnd, Option.some.injEq, exists_eq_left']

private theorem importExempt_iff (atEnd : stream.get (pointer - 1) = .ok last) :
    stream.ImportExempt pointer ↔ stream.isImportLine last (stream.anchorIndex pointer last)
      (stream.anchorIndex pointer last - last.endColumn).toNat = true := by
  simp only [ImportExempt, get_eq_ok_iff.mp atEnd, Option.some.injEq, exists_eq_left',
    isImportLine_iff]

/-- Exactly the indices inside of the stream have a token. -/
theorem exists_get_iff :
    (∃ token, stream.get index = .ok token) ↔ 0 ≤ index ∧ index < stream.size := by
  constructor
  · rintro ⟨token, found⟩
    rw [get_eq_ok_iff, get?] at found
    split_ifs at found with negative
    have inside := (Array.getElem?_eq_some_iff.mp found).1
    rw [size]
    omega
  · rintro ⟨low, high⟩
    have inside : index.toNat < stream.tokens.size := by
      rw [size] at high
      omega
    refine ⟨stream.tokens[index.toNat], get_eq_ok_iff.mpr ?_⟩
    rw [get?, if_neg (Int.not_lt.mpr low), Array.getElem?_eq_getElem inside]

/-- An import line has an anchor, since there is a token before the anchor. -/
private theorem exists_get_anchor (atEnd : stream.get (pointer - 1) = .ok last)
    (imports : stream.ImportExempt pointer) :
    ∃ anchor, stream.get (stream.anchorIndex pointer last) = .ok anchor := by
  have inside := exists_get_iff.mp ⟨last, atEnd⟩
  obtain ⟨⟨place, ⟨⟨_, before, _⟩, _⟩, _⟩, _⟩ :=
    isImportLine_iff.mp ((importExempt_iff atEnd).mp imports)
  have notAfter : stream.anchorIndex pointer last ≤ pointer - 1 := by
    unfold anchorIndex
    split_ifs <;> omega
  apply exists_get_iff.mpr
  omega

/-- Ignoring import lines only drops them from what is measured. -/
private theorem measured_true (pointer : Int) :
    stream.measured true pointer = (stream.measured false pointer).map fun line =>
      if stream.ImportExempt pointer then none else line := by
  unfold measured
  cases atEnd : stream.get (pointer - 1) with
  | error fault => rfl
  | ok last =>
    simp only [bind, Except.bind, pure, Except.pure, Bool.false_eq_true, false_and, or_false,
      true_and, ← importExempt_iff atEnd]
    by_cases imports : stream.ImportExempt pointer
    · obtain ⟨anchor, found⟩ := exists_get_anchor atEnd imports
      simp only [imports, or_true, if_true, found]
      split_ifs <;> rfl
    · simp only [imports, or_false, if_false]
      split_ifs
      · rfl
      · cases stream.get (stream.anchorIndex pointer last) <;> rfl

/-- The records of a line, from what is measured on it when import lines are not ignored. -/
def recordsAt (stream : TokenStream) (settings : Settings) (pointer : Int)
    (line : Option Measured) : List Record :=
  if settings.ignoreUseLines ∧ stream.ImportExempt pointer then []
  else line.elim [] settings.recordsOf

/-- Under all settings the same is measured, and then some of it is told. -/
theorem checkLine_eq_recordsAt (settings : Settings) (pointer : Int) :
    stream.checkLine settings pointer =
      (stream.measured false pointer).map (stream.recordsAt settings pointer) := by
  rw [checkLine_eq_measured]
  cases ignored : settings.ignoreUseLines with
  | false =>
    congr 1
    funext line
    simp only [recordsAt, ignored, Bool.false_eq_true, false_and, if_false]
  | true =>
    rw [measured_true]
    cases stream.measured false pointer with
    | error fault => rfl
    | ok line =>
      simp only [Except.map, recordsAt, ignored, true_and]
      split_ifs <;> rfl

section Told

variable {settings other : Settings} {line : Option Measured}

theorem checkLine_of_measured (measured : stream.measured false pointer = .ok line)
    (settings : Settings) :
    stream.checkLine settings pointer = .ok (stream.recordsAt settings pointer line) := by
  rw [checkLine_eq_recordsAt, measured]
  rfl

/-- What is observed does not depend on the limits or on how comments are treated. -/
private theorem filter_recordsAt (same : other.ignoreUseLines = settings.ignoreUseLines) :
    (stream.recordsAt other pointer line).filter Record.isObservation =
      (stream.recordsAt settings pointer line).filter Record.isObservation := by
  simp only [recordsAt, same]
  split_ifs
  · rfl
  · cases line with
    | none => rfl
    | some line => exact (other.filter_recordsOf line).trans (settings.filter_recordsOf line).symm

/-- Ignoring comments takes the diagnostic of a line that ends in a comment. -/
private theorem recordsAt_ignoreComments (measured : stream.measured false pointer = .ok line) :
    stream.recordsAt { settings with ignoreComments := true } pointer line =
      if stream.EndsInComment pointer then
        (stream.recordsAt settings pointer line).filter Record.isObservation
      else stream.recordsAt settings pointer line := by
  obtain ⟨last, atEnd, ends⟩ := get_of_measured measured
  simp only [recordsAt, endsInComment_iff atEnd]
  cases line with
  | none => simp
  | some line =>
    rw [← ends line rfl, Option.elim_some, Option.elim_some, Settings.recordsOf_ignoreComments]
    split_ifs <;> rfl

/-- Ignoring import lines takes all records of such a line. -/
private theorem recordsAt_ignoreUseLines :
    stream.recordsAt { settings with ignoreUseLines := true } pointer line =
      if stream.ImportExempt pointer then [] else stream.recordsAt settings pointer line := by
  simp only [recordsAt, true_and]
  split_ifs with imports both
  · rfl
  · exact absurd both.2 imports
  · rfl

end Told

/-- A stream is analyzed by measuring its lines and then telling what the settings let through. -/
private theorem analyze_of_measured {lines : Nat → Option Measured}
    (each : ∀ pointer ∈ stream.lineStarts, stream.measured false pointer = .ok (lines pointer))
    (settings : Settings) :
    stream.analyze settings = .ok (stream.lineStarts.flatMap fun (pointer : Nat) =>
      stream.recordsAt settings pointer (lines pointer)) := by
  have told : ∀ pointer ∈ stream.lineStarts, stream.checkLine settings (pointer : Nat) =
      .ok (stream.recordsAt settings pointer (lines pointer)) :=
    fun pointer member => checkLine_of_measured (each pointer member) settings
  rw [analyze, mapM_eq_ok_map told, List.flatMap_def]
  rfl

/-- The lines of a stream that can be analyzed can be measured. -/
private theorem exists_measured_of_analyze {settings : Settings} {records : List Record}
    (analyzed : stream.analyze settings = .ok records) :
    ∃ lines : Nat → Option Measured,
      ∀ pointer ∈ stream.lineStarts, stream.measured false pointer = .ok (lines pointer) := by
  obtain ⟨perLine, done, _⟩ := bind_eq_ok_iff.mp analyzed
  refine ⟨fun pointer => (stream.measured false pointer).toOption.getD none, ?_⟩
  intro pointer member
  beta_reduce
  obtain ⟨records, told⟩ := exists_mapM_eq_ok_iff.mp ⟨perLine, done⟩ pointer member
  rw [checkLine_eq_recordsAt] at told
  cases found : stream.measured false pointer with
  | error fault =>
    rw [found] at told
    cases told
  | ok line => rfl

/-- Analyzing a stream fails exactly as measuring its lines does. -/
private theorem analyze_eq_error_iff {settings : Settings} {fault : StreamFault} :
    stream.analyze settings = .error fault ↔
      stream.lineStarts.mapM (fun (pointer : Nat) => stream.measured false pointer) =
        .error fault := by
  simp only [analyze, checkLine_eq_recordsAt, bind_eq_error_iff]
  rw [mapM_map_eq_error_iff]
  simp [pure, Except.pure]

/-- Switches only filter. Whether a stream can be analyzed, and how that fails, depends on no
setting. Where it can, the tab width has no influence on the records, and settings that agree
on import lines give the same observations in the same order. Ignoring comments takes exactly the
diagnostics of the lines that end in a comment; ignoring import lines takes exactly all records of
those lines, so what is left is a subsequence. -/
theorem analyze_switches (stream : TokenStream) (settings : Settings) :
    (∀ (other : Settings) (fault : StreamFault),
      stream.analyze settings = .error fault ↔ stream.analyze other = .error fault) ∧
    ∀ records, stream.analyze settings = .ok records →
      (∀ tabWidth, stream.analyze { settings with tabWidth } = .ok records) ∧
      (∀ other : Settings, other.ignoreUseLines = settings.ignoreUseLines →
        ∃ found, stream.analyze other = .ok found ∧
          found.filter Record.isObservation = records.filter Record.isObservation) ∧
      ∃ perLine : Nat → List Record,
        (∀ pointer ∈ stream.lineStarts,
          stream.checkLine settings pointer = .ok (perLine pointer)) ∧
        records = stream.lineStarts.flatMap perLine ∧
        stream.analyze { settings with ignoreComments := true } =
          .ok (stream.lineStarts.flatMap fun (pointer : Nat) =>
            if stream.EndsInComment pointer then (perLine pointer).filter Record.isObservation
            else perLine pointer) ∧
        ∃ kept, stream.analyze { settings with ignoreUseLines := true } = .ok kept ∧
          kept = stream.lineStarts.flatMap (fun (pointer : Nat) =>
            if stream.ImportExempt pointer then [] else perLine pointer) ∧
          kept.Sublist records := by
  constructor
  · intro other fault
    rw [analyze_eq_error_iff, analyze_eq_error_iff]
  · intro records analyzed
    obtain ⟨lines, each⟩ := exists_measured_of_analyze analyzed
    have told := analyze_of_measured each
    obtain rfl := Except.ok.inj (analyzed.symm.trans (told settings))
    refine ⟨fun tabWidth => told { settings with tabWidth }, ?_, _, ?_, rfl, ?_, _, told _, ?_, ?_⟩
    · intro other same
      refine ⟨_, told other, ?_⟩
      rw [List.filter_flatMap, List.filter_flatMap]
      exact List.flatMap_congr fun pointer _ => filter_recordsAt same
    · intro pointer member
      exact checkLine_of_measured (each pointer member) settings
    · rw [told]
      congr 1
      exact List.flatMap_congr fun pointer member => recordsAt_ignoreComments (each pointer member)
    · exact List.flatMap_congr fun pointer _ => recordsAt_ignoreUseLines
    · apply List.Sublist.flatMap_right
      intro pointer _
      rw [recordsAt_ignoreUseLines]
      split_ifs
      · exact List.nil_sublist _
      · exact List.Sublist.refl _

/-- An import line above a comment, both too long: each switch takes its own records. -/
theorem analyze_switches_import :
    let stream : TokenStream :=
      ⟨#[⟨.use, ['u', 's', 'e'], 1, 1, 3⟩, ⟨.namespaceSeparator, ['\\'], 1, 4, 1⟩,
        ⟨.identifier, ['A'], 1, 5, 1⟩, ⟨.whitespace, ['\n'], 1, 6, 0⟩,
        ⟨.comment, ['#', ' ', 'a', ' ', 'b'], 2, 1, 5⟩], ['\n']⟩
    let settings : Settings := { lineLimit := 4, absoluteLineLimit := 0, ignoreUseLines := false }
    ∃ records, stream.analyze settings = .ok records ∧ records.length = 4 ∧
      (∃ found, stream.analyze { settings with ignoreComments := true } = .ok found ∧
        found.length = 3 ∧
        found.filter Record.isObservation = records.filter Record.isObservation) ∧
      ∃ kept, stream.analyze { settings with ignoreUseLines := true } = .ok kept ∧
        kept.length = 2 ∧ kept.Sublist records := by
  intro stream settings
  obtain ⟨records, analyzed, count⟩ :
      ∃ records, stream.analyze settings = .ok records ∧ records.length = 4 := ⟨_, rfl, rfl⟩
  obtain ⟨_, observed, _, _, _, _, kept, ignoring, _, left⟩ :=
    (analyze_switches stream settings).2 records analyzed
  obtain ⟨found, silent, same⟩ := observed { settings with ignoreComments := true } rfl
  refine ⟨records, analyzed, count, ⟨found, silent, ?_, same⟩, kept, ignoring, ?_, left⟩
  · obtain rfl := Except.ok.inj silent
    rfl
  · obtain rfl := Except.ok.inj ignoring
    rfl

end TokenStream

end LineWidth
