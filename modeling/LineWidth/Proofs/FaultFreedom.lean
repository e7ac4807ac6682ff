import LineWidth.Proofs.CommentWrapping
import LineWidth.Proofs.Emission
import LineWidth.Proofs.SurveyAccount
import LineWidth.Proofs.SurveyRun
import LineWidth.Token.SignedWidth

/-! # Where checking can fail

Checking a source does not fail if its tab width can be told: its tokens are in valid places, and no
lookup and no search is refused on the way. A line of a stream that was built by hand is refused
exactly where there is no token before the pointer, or none that the line's records could be
anchored to. A refusal tells the position, so the position has to be one that can be written: where
it has too many digits the refusal itself breaks down (`check_faults`).
-/

namespace LineWidth

private theorem signedAdvance_natCast (tabWidth : Nat) {column : Nat} (placed : 1 ≤ column)
    (c : Char) :
    signedAdvance tabWidth column c = advance tabWidth column c := by
  rw [signedAdvance, advance]
  by_cases tab : c = '\t' ∧ 0 < tabWidth
  · have some : c = '\t' ∧ (tabWidth : Int) ≠ 0 := ⟨tab.1, by omega⟩
    have start : (column : Int) - 1 = ((column - 1 : Nat) : Int) := by omega
    have remainder := Nat.mod_lt (column - 1) tab.2
    rw [if_pos some, if_pos tab, start, Int.fmod_eq_emod_of_nonneg _ (Int.natCast_nonneg _),
      ← Int.natCast_emod]
    omega
  · have none : ¬ (c = '\t' ∧ (tabWidth : Int) ≠ 0) := fun some => tab ⟨some.1, by omega⟩
    rw [if_neg none, if_neg tab]
    rfl

/-- Widths of any sign are the usual ones where the tab width is not negative. -/
private theorem signedWidth_natCast (tabWidth : Nat) {column : Nat} (placed : 1 ≤ column)
    (text : List Char) :
    column + signedWidth tabWidth column text = columnAfter tabWidth column text := by
  have rendered : text.foldl (signedAdvance tabWidth) column =
      (text.foldl (advance tabWidth) column : Nat) := by
    induction text generalizing column with
    | nil => rfl
    | cons c rest ih =>
      have later := lt_advance tabWidth column c
      rw [List.foldl_cons, List.foldl_cons, signedAdvance_natCast tabWidth placed c,
        ih (by omega)]
  rw [signedWidth, rendered, foldl_advance tabWidth column text placed]
  omega

/-- A token in its place is valid, its width being counted with signs. -/
private theorem Token.Rendered.checked {tabWidth : Nat} {token : Token}
    (rendered : token.Rendered tabWidth) (numbered : 1 ≤ token.line) :
    Token.checked token.kind token.content token.line token.column
      (signedWidth tabWidth token.column token.visible) = .ok token := by
  have placed := rendered.placed
  have width := signedWidth_natCast tabWidth placed token.visible
  rw [← rendered.reach] at width
  have length : signedWidth tabWidth token.column token.visible = token.length := by omega
  have lineFits : ¬ (token.line : Int) < 1 := by omega
  have columnFits : ¬ (token.column : Int) < 1 := by omega
  have lengthFits : ¬ (token.length : Int) < 0 := by omega
  rw [Token.checked, length, if_neg lineFits, if_neg columnFits, if_neg lengthFits]
  rfl

namespace TokenStream

private theorem line_of_mem {source : List Char} {tabWidth : Nat} {token : Token}
    (member : token ∈ (ofSource source tabWidth).tokens.toList) : 1 ≤ token.line := by
  obtain ⟨lines, groups, -, flat, paged⟩ := ofSource_paged source tabWidth
  exact (paged.line_bounds (flat ▸ member)).1

/-- Whether the line before a pointer is refused: there is no such token, or the line ends with the
line end itself, right at the start of the stream, and not in column 1. A directive needs no anchor
there, since nothing stands before it. -/
def Refuses (stream : TokenStream) (pointer : Int) : Prop :=
  pointer < 1 ∨ stream.size < pointer ∨
    pointer = 1 ∧ ∃ first, stream.tokens[0]? = some first ∧ first.column ≠ 1 ∧
      first.content = stream.lineEnd ∧ first.kind ≠ .directive

variable {stream : TokenStream} {settings : Settings} {pointer index : Int} {fault : StreamFault}

private theorem get_eq_error_iff :
    stream.get index = .error fault ↔
      (index < 0 ∨ stream.size ≤ index) ∧ fault = .indexOutOfRange index stream.size := by
  cases found : stream.get index with
  | ok token =>
    have inside := exists_get_iff.mp ⟨token, found⟩
    refine iff_of_false (by simp) ?_
    rintro ⟨outside, -⟩
    omega
  | error refused =>
    have outside : ¬ (0 ≤ index ∧ index < stream.size) := by
      rw [← exists_get_iff, found]
      simp
    obtain rfl : refused = .indexOutOfRange index stream.size := by
      rw [get] at found
      split at found
      · cases found
      · exact (Except.error.inj found).symm
    rw [Except.error.injEq, eq_comm]
    exact (and_iff_right (by omega)).symm

/-- Nothing stands before the start of a stream, so a directive there stands alone. -/
private theorem directiveStandsAlone_start (last : Token) (low : Nat) :
    stream.directiveStandsAlone last (-1) low = true := by
  have none : stream.searchBack (·.kind != .whitespace) (-1 - 1) low = none := by
    rw [searchBack, show (min (-1 - 1 + 1) (stream.size : Int)).toNat = 0 by omega]
    rfl
  rw [directiveStandsAlone, none]

/-- The lookup of the anchor fails only at the start of the stream, behind a bare line end. -/
private theorem anchorIndex_outside_iff {last : Token}
    (atEnd : stream.get (pointer - 1) = .ok last) :
    stream.anchorIndex pointer last < 0 ∨ stream.size ≤ stream.anchorIndex pointer last ↔
      pointer = 1 ∧ last.column ≠ 1 ∧ last.content = stream.lineEnd := by
  have inside := exists_get_iff.mp ⟨last, atEnd⟩
  rw [anchorIndex]
  split_ifs with bare
  · rw [and_iff_left bare]
    omega
  · refine iff_of_false (by omega) ?_
    rintro ⟨-, ends⟩
    exact bare ends

private theorem measured_of_outside (outside : pointer < 1 ∨ stream.size < pointer) :
    stream.measured false pointer = .error (.indexOutOfRange (pointer - 1) stream.size) := by
  have failed := get_eq_error_iff.mpr
    ⟨show pointer - 1 < 0 ∨ (stream.size : Int) ≤ pointer - 1 by omega, rfl⟩
  rw [measured, failed]
  rfl

private theorem measured_eq_error_iff {last : Token} (atEnd : stream.get (pointer - 1) = .ok last) :
    stream.measured false pointer = .error fault ↔
      (pointer = 1 ∧ last.column ≠ 1 ∧ last.content = stream.lineEnd ∧ last.kind ≠ .directive) ∧
        fault = .indexOutOfRange (-1) stream.size := by
  rw [measured, atEnd]
  by_cases start : pointer = 1 ∧ last.column ≠ 1 ∧ last.content = stream.lineEnd
  · -- the anchor would stand before the stream, and only a directive leaves without looking it up
    obtain ⟨rfl, away, ends⟩ := start
    have index : stream.anchorIndex 1 last = -1 := if_pos ⟨away, ends⟩
    have failed : stream.get (-1) = .error (.indexOutOfRange (-1) stream.size) :=
      get_eq_error_iff.mpr ⟨.inl (by decide), rfl⟩
    simp only [bind, Except.bind, index, directiveStandsAlone_start, failed, away, ends, false_and,
      false_or, Bool.false_eq_true, and_true, or_false, true_and, ne_eq, not_false_eq_true]
    split_ifs with directive
    · simp [directive, pure, Except.pure]
    · simp [directive, eq_comm]
  · have inside := not_or.mp (mt (anchorIndex_outside_iff atEnd).mp start)
    obtain ⟨anchor, found⟩ :=
      exists_get_iff.mpr ⟨Int.not_lt.mp inside.1, Int.not_le.mp inside.2⟩
    simp only [bind, Except.bind, found]
    refine iff_of_false ?_ ?_
    · split_ifs <;> simp [pure, Except.pure]
    · rintro ⟨⟨first, away, ends, -⟩, -⟩
      exact start ⟨first, away, ends⟩

private theorem exists_measured_error_iff :
    (∃ fault, stream.measured false pointer = .error fault) ↔ stream.Refuses pointer := by
  by_cases outside : pointer < 1 ∨ stream.size < pointer
  · exact iff_of_true ⟨_, measured_of_outside outside⟩ (or_assoc.mp (.inl outside))
  · obtain ⟨last, atEnd⟩ : ∃ last, stream.get (pointer - 1) = .ok last :=
      exists_get_iff.mpr (by omega)
    simp only [measured_eq_error_iff atEnd, exists_and_left, exists_eq, and_true, Refuses,
      ← or_assoc, outside, false_or]
    refine and_congr_right fun first => ?_
    subst first
    have there : stream.tokens[0]? = some last := get_eq_ok_iff.mp atEnd
    simp only [there, Option.some.injEq, exists_eq_left']

/-- The position that a refusal tells of has few enough digits exactly when the one before the
pointer has. -/
private theorem stop_of_measured (failed : stream.measured false pointer = .error fault) :
    fault.stop = if Text.canWrite (pointer - 1) then .failure fault.failure
      else .breakdown .unwritableNumber := by
  by_cases outside : pointer < 1 ∨ stream.size < pointer
  · rw [measured_of_outside outside] at failed
    obtain rfl := Except.error.inj failed
    rfl
  · obtain ⟨last, atEnd⟩ : ∃ last, stream.get (pointer - 1) = .ok last :=
      exists_get_iff.mpr (by omega)
    obtain ⟨⟨rfl, -⟩, rfl⟩ := (measured_eq_error_iff atEnd).mp failed
    -- here the refusal tells of -1 and not of the position before the pointer, but both are short
    have before : Text.canWrite (1 - 1) = true :=
      @Text.canWrite_of_lt_pow _ 1 (by decide) (by decide)
    have told : Text.canWrite (-1) = true := @Text.canWrite_of_lt_pow _ 1 (by decide) (by decide)
    simp only [StreamFault.stop, before, told, if_true]

private theorem checkLine_eq_error_iff :
    stream.checkLine settings pointer = .error fault ↔
      stream.measured false pointer = .error fault := by
  rw [checkLine_eq_recordsAt]
  cases stream.measured false pointer <;> simp [Except.map]

private theorem length_recordsOf (settings : Settings) (line : Measured) :
    (settings.recordsOf line).length ≤ 2 := by
  rw [Settings.recordsOf, List.length_cons]
  split_ifs
  · decide
  · rw [Option.length_toList]
    split_ifs <;> decide

private theorem length_of_checkLine {records : List Record}
    (done : stream.checkLine settings pointer = .ok records) : records.length ≤ 2 := by
  rw [checkLine_eq_measured] at done
  cases found : stream.measured settings.ignoreUseLines pointer with
  | error fault =>
    rw [found] at done
    cases done
  | ok line =>
    rw [found] at done
    obtain rfl := Except.ok.inj done
    cases line with
    | none => exact Nat.zero_le _
    | some line => exact length_recordsOf settings line

private theorem length_lineStarts_le : stream.lineStarts.length ≤ stream.size := by
  rw [lineStarts]
  split_ifs with empty
  · exact Nat.zero_le _
  · have fewer : ((List.range stream.size).filter fun index =>
        0 < index && stream.tokens[index]?.any (·.column == 1)).length <
        (List.range stream.size).length := by
      apply List.length_filter_lt_length_iff_exists.mpr
      exact ⟨0, List.mem_range.mpr (Nat.pos_of_ne_zero empty), by simp⟩
    rw [List.length_range] at fewer
    rw [List.length_append, List.length_singleton]
    exact fewer

/-- A line has at most two records, and a line starts with a token of its own. -/
private theorem length_of_analyze {records : List Record}
    (done : stream.analyze settings = .ok records) :
    records.length ≤ 2 * stream.size := by
  obtain ⟨perLine, checked, joined⟩ := bind_eq_ok_iff.mp done
  obtain rfl := Except.ok.inj joined
  have count := length_flatten_of_mapM (fun _ _ found => length_of_checkLine found) checked
  exact count.trans (Nat.mul_le_mul_left 2 length_lineStarts_le)

private theorem size_ofSource_le (source : List Char) (tabWidth : Nat) :
    (ofSource source tabWidth).size ≤ source.length :=
  Lexer.size_run_le ⟨source, tabWidth, .code⟩

end TokenStream

/-- The numbers that the wording of an entry writes. -/
def Entry.numbers : Entry → List Nat
  | .tokenized count _ tabWidth => [count, tabWidth]
  | .analyzed records tokens => [records, tokens]
  | .checked _ errors warnings measured => [errors, warnings, measured]
  | .settingsLoaded _ settings =>
    [settings.lineLimit, settings.absoluteLineLimit, settings.tabWidth]
  | .pathMissing _ | .oversizedSkipped _ | .sourceUnreadable _ => []

private theorem analyze_of_ofSource {source : List Char} {settings : Settings} {path : String}
    {report : Report} (made : Report.ofSource source settings path = .ok report) :
    (TokenStream.ofSource source settings.tabWidth).analyze settings = .ok report.records := by
  obtain ⟨records, analyzed, same⟩ := bind_eq_ok_iff.mp made
  obtain rfl := Except.ok.inj same
  exact analyzed

private theorem tokenizeLogged_of_canWrite {source : List Char} {tabWidth : Nat}
    (tellable : Text.canWrite tabWidth = true) :
    tokenizeLogged source tabWidth =
      ⟨[.tokenized (TokenStream.ofSource source tabWidth).size
        (TokenStream.ofSource source tabWidth).lineEnd tabWidth],
        .ok (TokenStream.ofSource source tabWidth)⟩ := by
  have told : (Entry.tokenized (TokenStream.ofSource source tabWidth).size
    (TokenStream.ofSource source tabWidth).lineEnd tabWidth).canTell = true := tellable
  have noted := congrArg Logged.result (Logged.note_of_canTell told)
  rw [tokenizeLogged, Logged.bind_of_ok noted, Logged.note_of_canTell told]
  rfl

/-- A tab width that cannot be told ends a check before anything is noted. -/
private theorem checkSource_of_not_canWrite {source : List Char} {settings : Settings}
    {path : String} (long : Text.canWrite settings.tabWidth = false) :
    checkSource source settings path = ⟨[], .error (.breakdown .unwritableNumber)⟩ := by
  have untold : Logged.note (.tokenized (TokenStream.ofSource source settings.tabWidth).size
      (TokenStream.ofSource source settings.tabWidth).lineEnd settings.tabWidth) =
        ⟨[], .error (.breakdown .unwritableNumber)⟩ := by
    rw [Logged.note, Entry.canTell, long]
    rfl
  have stopped : tokenizeLogged source settings.tabWidth =
      ⟨[], .error (.breakdown .unwritableNumber)⟩ := by
    rw [tokenizeLogged, untold]
    rfl
  rw [checkSource, stopped]
  rfl

/-- What a check writes down are counts, bounded by the length of the source, and a tab width that
can be written. -/
private theorem checkSource_numbers {source : List Char} {settings : Settings} {path : String}
    {entry : Entry} (noted : entry ∈ (checkSource source settings path).entries) {number : Nat}
    (written : number ∈ entry.numbers) :
    number ≤ 2 * source.length ∨ number = settings.tabWidth ∧ Text.canWrite number = true := by
  cases tellable : Text.canWrite settings.tabWidth with
  | false =>
    rw [checkSource_of_not_canWrite tellable] at noted
    cases noted
  | true =>
    obtain ⟨report, made, -⟩ := FileTree.checkSource_result source tellable path
    have size := TokenStream.size_ofSource_le source settings.tabWidth
    have records := TokenStream.length_of_analyze (analyze_of_ofSource made)
    obtain ⟨errors, warnings, -⟩ := report.counts_le
    have observations : report.observations.length ≤ report.records.length :=
      List.length_filterMap_le ..
    have tokenized := @tokenizeLogged_of_canWrite source settings.tabWidth tellable
    have entries : (checkSource source settings path).entries =
        [.tokenized (TokenStream.ofSource source settings.tabWidth).size
            (TokenStream.ofSource source settings.tabWidth).lineEnd settings.tabWidth,
          .checked path report.errors.length report.warnings.length
            report.observations.length] := by
      rw [checkSource, Logged.bind_of_ok (congrArg Logged.result tokenized),
        Logged.bind_of_ok (mapError_eq_ok_iff.mpr made), tokenized]
      rfl
    rw [entries] at noted
    simp only [List.mem_cons, List.not_mem_nil, or_false] at noted
    rcases noted with rfl | rfl
    · simp only [Entry.numbers, List.mem_cons, List.not_mem_nil, or_false] at written
      rcases written with rfl | rfl
      · exact .inl (by omega)
      · exact .inr ⟨rfl, tellable⟩
    · simp only [Entry.numbers, List.mem_cons, List.not_mem_nil, or_false] at written
      exact .inl (by omega)

private theorem StreamFault.category_of_failure (fault : StreamFault) :
    fault.failure.category = .tokenStream := by
  cases fault <;> rfl

/-- A pointer into a stream is refused under a condition on the stream alone, and the refusal can be
told if the position before the pointer can be written. -/
private theorem TokenStream.checkLine_faults (stream : TokenStream) (settings : Settings)
    (pointer : Int) :
    ((∃ records, stream.checkLine settings pointer = .ok records) ↔ ¬ stream.Refuses pointer) ∧
    ((∃ fault failure, stream.checkLine settings pointer = .error fault ∧
        fault.stop = .failure failure ∧ failure.category = .tokenStream) ↔
      stream.Refuses pointer ∧ Text.canWrite (pointer - 1) = true) ∧
    ((∃ fault, stream.checkLine settings pointer = .error fault ∧
        fault.stop = .breakdown .unwritableNumber) ↔
      stream.Refuses pointer ∧ Text.canWrite (pointer - 1) = false) := by
  rw [← exists_measured_error_iff]
  simp only [checkLine_eq_error_iff]
  cases found : stream.measured false pointer with
  | ok line =>
    have done := checkLine_of_measured found settings
    simp [done]
  | error fault =>
    have failed := (@checkLine_eq_error_iff stream settings pointer fault).mpr found
    have told := stop_of_measured found
    cases can : Text.canWrite (pointer - 1) with
    | true =>
      rw [can, if_pos rfl] at told
      simp [failed, told, fault.category_of_failure]
    | false =>
      rw [can, if_neg Bool.false_ne_true] at told
      simp [failed, told]

/-- Where checking fails, exactly. A source is checked if the tab width can be told, and breaks down
otherwise: every token is valid, every lookup and every search that the rule makes is inside of the
stream, and the numbers that are noted are bounded by the source or can be written. A pointer into
any stream is refused under a condition on the stream alone, before anything is given. The refusal
is a failure of the token stream if the position before the pointer can be written, and breaks down
if it has too many digits. -/
theorem check_faults (settings : Settings) (source : List Char) (path : String)
    (stream : TokenStream) (pointer : Int) :
    ((Text.canWrite settings.tabWidth = true →
        ∃ report, (checkSource source settings path).result = .ok report ∧
          (TokenStream.ofSource source settings.tabWidth).emit settings =
            ⟨report.records, .ok ()⟩) ∧
      (Text.canWrite settings.tabWidth = false →
        (checkSource source settings path).result = .error (.breakdown .unwritableNumber)) ∧
      (∀ token ∈ (TokenStream.ofSource source settings.tabWidth).tokens.toList,
        Token.checked token.kind token.content token.line token.column
          (signedWidth settings.tabWidth token.column token.visible) = .ok token) ∧
      ∀ entry ∈ (checkSource source settings path).entries, ∀ number ∈ entry.numbers,
        number ≤ 2 * source.length ∨ number = settings.tabWidth ∧ Text.canWrite number = true) ∧
    stream.emitLine settings pointer = .ofRecords (stream.checkLine settings pointer) ∧
    ((∃ records, stream.checkLine settings pointer = .ok records) ↔ ¬ stream.Refuses pointer) ∧
    ((∃ fault failure, stream.checkLine settings pointer = .error fault ∧
        fault.stop = .failure failure ∧ failure.category = .tokenStream) ↔
      stream.Refuses pointer ∧ Text.canWrite (pointer - 1) = true) ∧
    ((∃ fault, stream.checkLine settings pointer = .error fault ∧
        fault.stop = .breakdown .unwritableNumber) ↔
      stream.Refuses pointer ∧ Text.canWrite (pointer - 1) = false) := by
  refine ⟨⟨?_, ?_, ?_, ?_⟩, stream.emitLine_eq settings pointer,
    stream.checkLine_faults settings pointer⟩
  · intro tellable
    obtain ⟨report, made, checked⟩ := FileTree.checkSource_result source tellable path
    exact ⟨report, checked, TokenStream.emit_of_analyze (analyze_of_ofSource made)⟩
  · intro long
    rw [checkSource_of_not_canWrite long]
  · intro token member
    exact (TokenStream.rendered_of_mem member).checked (TokenStream.line_of_mem member)
  · intro entry noted number written
    exact checkSource_numbers noted written

/-- A position with too many digits breaks the refusal of a pointer down. -/
theorem check_faults_tooManyDigits :
    let stream : TokenStream := ⟨#[], ['\n']⟩
    let pointer : Int := 1 - Text.writeBound
    pointer < 1 ∧ ∃ fault, stream.checkLine {} pointer = .error fault ∧
      fault.stop = .breakdown .unwritableNumber := by
  intro stream pointer
  have positive := Text.writeBound_pos
  have outside : stream.Refuses pointer := .inl (by omega)
  have long : Text.canWrite (pointer - 1) = false := by
    rw [show pointer - 1 = -Text.writeBound by omega]
    exact Text.canWrite_neg_writeBound
  exact ⟨by omega, (stream.checkLine_faults {} pointer).2.2.mpr ⟨outside, long⟩⟩

end LineWidth
