import LineWidth.Proofs.LineJudgement
import LineWidth.Proofs.Results
import LineWidth.Report.Basic

/-! # Verdicts by rendered width

The report on a source holds, line by line, what the line's own tokens say. Since the last token of
a line ends where the line ends, the bucket and the verdict of a line are those of the rendered
width of its body.
-/

namespace LineWidth

/-- The line that a record is about. -/
def Record.line : Record → Int
  | .observation seen => seen.line
  | .diagnostic found => found.line

/-- Whether a line of some width is exempt as a comment, `last` being its last token. -/
def Settings.CommentExempt (settings : Settings) (width : Nat) (last : Token) : Prop :=
  (last.kind = .comment ∨ last.kind = .docText) ∧
    (settings.ignoreComments = true ∨
      settings.lineLimit < width ∧ last.isUnbreakable settings.lineLimit = true)

/-- Whether a width is above the soft limit, or above the hard limit where there is one. -/
def Settings.Exceeded (settings : Settings) (width : Nat) : Prop :=
  settings.lineLimit < width ∨
    0 < settings.absoluteLineLimit ∧ settings.absoluteLineLimit < width

/-- The diagnostic for a width: an error above the hard limit, and else a warning, with the limit
that was exceeded and the width. -/
def Settings.Diagnoses (settings : Settings) (width : Nat) (diagnostic : Diagnostic) : Prop :=
  if 0 < settings.absoluteLineLimit ∧ settings.absoluteLineLimit < width then
    diagnostic.severity = .error ∧ diagnostic.code = .maxExceeded ∧
      diagnostic.limit = settings.absoluteLineLimit ∧ diagnostic.length = width
  else
    diagnostic.severity = .warning ∧ diagnostic.code = .tooLong ∧
      diagnostic.limit = settings.lineLimit ∧ diagnostic.length = width

section Verdict

variable (settings : Settings)

theorem Settings.exemptsComment_iff (last : Token) :
    settings.exemptsComment last = true ↔ settings.CommentExempt last.endColumn last := by
  have comment : last.kind.isCommentText = true ↔ last.kind = .comment ∨ last.kind = .docText := by
    cases last.kind <;> simp [TokenKind.isCommentText]
  simp [Settings.exemptsComment, Settings.CommentExempt, comment]

/-- There is a verdict exactly when a limit is exceeded. -/
theorem Settings.exists_verdict_iff (anchor : Token) (index : Int) (width : Nat) :
    (∃ diagnostic, settings.verdict? anchor index width = some diagnostic) ↔
      settings.Exceeded width := by
  unfold Settings.verdict? Settings.Exceeded Settings.hardLimitEnabled
  split_ifs with hard soft
  · simp_all
  · simp_all
  · simp_all

/-- A verdict is about the anchor's line and names the limit that was exceeded. -/
private theorem Settings.diagnoses_of_verdict {anchor : Token} {index : Int} {width : Nat}
    {diagnostic : Diagnostic} (verdict : settings.verdict? anchor index width = some diagnostic) :
    diagnostic.line = anchor.line ∧ settings.Diagnoses width diagnostic := by
  unfold Settings.verdict? Settings.hardLimitEnabled at verdict
  unfold Settings.Diagnoses
  simp only [Bool.and_eq_true, decide_eq_true_eq] at verdict
  split_ifs at verdict ⊢ with hard soft
  · obtain rfl := Option.some.inj verdict
    exact ⟨rfl, rfl, rfl, rfl, rfl⟩
  · obtain rfl := Option.some.inj verdict
    exact ⟨rfl, rfl, rfl, rfl, rfl⟩

variable {settings} {lineEnd : List Char} {start : Nat} {prior : List Token} {last : Token}

/-- A line that is not skipped has one observation. -/
private theorem Settings.observation_mem_judge {observation : Observation} :
    .observation observation ∈ settings.judge lineEnd start prior last ↔
      settings.skips lineEnd prior last = false ∧ observation =
        { anchor := start + (beforeAnchor lineEnd prior last).length,
          line := (anchorToken lineEnd prior last).line,
          value := (Bucket.ofLength last.endColumn).label } := by
  unfold Settings.judge
  split_ifs with skipped exempt
  · simp [skipped]
  · simp [skipped]
  · simp [skipped]

/-- A line that is neither skipped nor exempt has the diagnostic of its verdict. -/
private theorem Settings.diagnostic_mem_judge {diagnostic : Diagnostic} :
    .diagnostic diagnostic ∈ settings.judge lineEnd start prior last ↔
      settings.skips lineEnd prior last = false ∧ ¬ settings.CommentExempt last.endColumn last ∧
        settings.verdict? (anchorToken lineEnd prior last)
          (start + (beforeAnchor lineEnd prior last).length) last.endColumn = some diagnostic := by
  rw [← Settings.exemptsComment_iff]
  unfold Settings.judge
  split_ifs with skipped exempt
  · simp [skipped]
  · simp [exempt]
  · simp [skipped, exempt]

/-- The lines with an observation are those that are not skipped. -/
private theorem Settings.exists_observation_iff :
    (∃ observation, .observation observation ∈ settings.judge lineEnd start prior last) ↔
      settings.skips lineEnd prior last = false := by
  constructor
  · rintro ⟨observation, member⟩
    exact (Settings.observation_mem_judge.mp member).1
  · intro visible
    exact ⟨_, Settings.observation_mem_judge.mpr ⟨visible, rfl⟩⟩

/-- The lines with a diagnostic are those observed ones that are not exempt and exceed a limit. -/
theorem Settings.exists_diagnostic_iff :
    (∃ diagnostic, .diagnostic diagnostic ∈ settings.judge lineEnd start prior last) ↔
      settings.skips lineEnd prior last = false ∧ ¬ settings.CommentExempt last.endColumn last ∧
        settings.Exceeded last.endColumn := by
  rw [← settings.exists_verdict_iff (anchorToken lineEnd prior last)
    (start + (beforeAnchor lineEnd prior last).length)]
  constructor
  · rintro ⟨diagnostic, member⟩
    obtain ⟨visible, judged, verdict⟩ := Settings.diagnostic_mem_judge.mp member
    exact ⟨visible, judged, diagnostic, verdict⟩
  · rintro ⟨visible, judged, diagnostic, verdict⟩
    exact ⟨diagnostic, Settings.diagnostic_mem_judge.mpr ⟨visible, judged, verdict⟩⟩

end Verdict

namespace TokenStream

/-- The records of a line are about that line. -/
theorem HasLine.line_of_mem_judge {stream : TokenStream} {tabWidth number : Nat} {line : Line}
    {earlier prior after : List Token} {last : Token}
    (place : HasLine stream tabWidth number line earlier prior last after) {settings : Settings}
    {record : Record} (member : record ∈ settings.judge stream.lineEnd earlier.length prior last) :
    record.line = number := by
  obtain ⟨rest, _, onLine⟩ := place.split_anchor
  have anchored : (anchorToken stream.lineEnd prior last).line = number :=
    (onLine _ (by simp)).trans place.line_eq
  cases record with
  | observation seen =>
    obtain ⟨_, rfl⟩ := Settings.observation_mem_judge.mp member
    simp only [Record.line, anchored]
  | diagnostic found =>
    obtain ⟨_, _, verdict⟩ := Settings.diagnostic_mem_judge.mp member
    have same := (settings.diagnoses_of_verdict verdict).1
    simp only [Record.line, same, anchored]

/-- The records of a source are those of its physical lines, one list for each line. -/
theorem analyze_lines (source : List Char) (tabWidth : Nat) (settings : Settings) :
    ∃ lines perLine, Line.Cut source lines ∧
      (ofSource source tabWidth).analyze settings = .ok (List.flatten perLine) ∧
      perLine.length = lines.length ∧
      ∀ index line, lines[index]? = some line → ∃ earlier prior last after,
        HasLine (ofSource source tabWidth) tabWidth (index + 1) line earlier prior last after ∧
        onLine (ofSource source tabWidth).tokens.toList (index + 1) = prior ++ [last] ∧
        (ofSource source tabWidth).lineStarts[index]? =
          some (earlier.length + prior.length + 1) ∧
        perLine[index]? =
          some (settings.judge (ofSource source tabWidth).lineEnd earlier.length prior last) := by
  obtain ⟨lines, cut, count, places⟩ := ofSource_lines source tabWidth
  let result (pointer : Nat) : List Record :=
    ((ofSource source tabWidth).checkLine settings pointer).toOption.getD []
  have checked : ∀ pointer ∈ (ofSource source tabWidth).lineStarts,
      (ofSource source tabWidth).checkLine settings pointer = .ok (result pointer) := by
    intro pointer member
    obtain ⟨index, small, rfl⟩ := List.mem_iff_getElem.mp member
    obtain ⟨earlier, prior, last, after, place, _, pointed⟩ :=
      places index _ (List.getElem?_eq_getElem (count ▸ small))
    rw [List.getElem?_eq_getElem small] at pointed
    have equation := place.checkLine_eq settings
    simp only [result, Option.some.inj pointed, equation]
    rfl
  refine ⟨lines, (ofSource source tabWidth).lineStarts.map result, cut, ?_,
    by simpa using count, ?_⟩
  · rw [analyze, mapM_eq_ok_map checked]
    rfl
  · intro index line present
    obtain ⟨earlier, prior, last, after, place, own, pointed⟩ := places index line present
    refine ⟨earlier, prior, last, after, place, own, pointed, ?_⟩
    rw [List.getElem?_map, pointed]
    simp only [Option.map_some, result, place.checkLine_eq settings]
    rfl

/-- Among the records of all lines, those that are about a line are the line's own. -/
theorem mem_flatten_iff {perLine : List (List Record)} {records : List Record} {index : Nat}
    (about : ∀ (position : Nat) (own : List Record), perLine[position]? = some own →
      ∀ record ∈ own, record.line = position + 1)
    (present : perLine[index]? = some records) {record : Record} :
    record ∈ perLine.flatten ∧ record.line = index + 1 ↔ record ∈ records := by
  constructor
  · rintro ⟨member, same⟩
    obtain ⟨own, ownMember, member⟩ := List.mem_flatten.mp member
    obtain ⟨position, atPosition⟩ := List.mem_iff_getElem?.mp ownMember
    have other := about position own atPosition record member
    obtain rfl : position = index := by omega
    rw [present] at atPosition
    exact Option.some.inj atPosition ▸ member
  · intro member
    exact ⟨List.mem_flatten.mpr ⟨records, List.mem_of_getElem? present, member⟩,
      about index records present record member⟩

end TokenStream

namespace Report

@[simp] theorem mem_observations {report : Report} {observation : Observation} :
    observation ∈ report.observations ↔ .observation observation ∈ report.records := by
  simp only [observations, List.mem_filterMap]
  constructor
  · rintro ⟨record, member, same⟩
    cases record <;> simp_all
  · intro member
    exact ⟨_, member, rfl⟩

@[simp] theorem mem_diagnostics {report : Report} {diagnostic : Diagnostic} :
    diagnostic ∈ report.diagnostics ↔ .diagnostic diagnostic ∈ report.records := by
  simp only [diagnostics, List.mem_filterMap]
  constructor
  · rintro ⟨record, member, same⟩
    cases record <;> simp_all
  · intro member
    exact ⟨_, member, rfl⟩

/-- Lines are judged by their true rendered width. The report on a source always exists and its
records are about physical lines. A line is observed unless it is skipped, in the bucket of its
width; an observed line is diagnosed exactly when it is no exempt comment and its width exceeds a
limit, as an error above the hard limit and as a warning otherwise. -/
theorem ofSource_verdicts (source : List Char) (settings : Settings) (path : String) :
    ∃ lines report, Line.Cut source lines ∧
      Report.ofSource source settings path = .ok report ∧
      (∀ record ∈ report.records, ∃ (index : Nat) (line : Line), lines[index]? = some line ∧
        record.line = index + 1) ∧
      ∀ (index : Nat) (line : Line), lines[index]? = some line →
        ∃ (pointer : Nat) (last : Token),
          (TokenStream.ofSource source settings.tabWidth).lineStarts[index]? = some pointer ∧
          (onLine (TokenStream.ofSource source settings.tabWidth).tokens.toList
            (index + 1)).getLast? = some last ∧
          let width := lineWidth settings.tabWidth line.body
          ((∃ observation ∈ report.observations, observation.line = index + 1) ↔
            (TokenStream.ofSource source settings.tabWidth).checkLine settings pointer ≠ .ok []) ∧
          (∀ observation ∈ report.observations, observation.line = index + 1 →
            observation.value = (Bucket.ofLength width).label) ∧
          ((∃ diagnostic ∈ report.diagnostics, diagnostic.line = index + 1) ↔
            (∃ observation ∈ report.observations, observation.line = index + 1) ∧
              ¬ settings.CommentExempt width last ∧ settings.Exceeded width) ∧
          ∀ diagnostic ∈ report.diagnostics, diagnostic.line = index + 1 →
            settings.Diagnoses width diagnostic := by
  obtain ⟨lines, perLine, cut, analyzed, count, places⟩ :=
    TokenStream.analyze_lines source settings.tabWidth settings
  have about : ∀ (position : Nat) (own : List Record), perLine[position]? = some own →
      ∀ record ∈ own, record.line = position + 1 := by
    intro position own present record member
    have small := (List.getElem?_eq_some_iff.mp present).1
    obtain ⟨_, _, _, _, place, _, _, judged⟩ :=
      places position _ (List.getElem?_eq_getElem (count ▸ small))
    obtain rfl := Option.some.inj (judged.symm.trans present)
    simpa using place.line_of_mem_judge member
  refine ⟨lines, { path, records := perLine.flatten }, cut, ?_, ?_, ?_⟩
  · rw [Report.ofSource, TokenStream.report, analyzed]
    rfl
  · intro record member
    obtain ⟨own, ownMember, member⟩ := List.mem_flatten.mp member
    obtain ⟨position, present⟩ := List.mem_iff_getElem?.mp ownMember
    have small := (List.getElem?_eq_some_iff.mp present).1
    exact ⟨position, _, List.getElem?_eq_getElem (count ▸ small),
      about position own present record member⟩
  · intro index line present
    obtain ⟨earlier, prior, last, after, place, own, pointed, judged⟩ := places index line present
    refine ⟨_, last, pointed, by simp [own], ?_⟩
    rw [place.checkLine_eq settings, ← place.endColumn_eq]
    intro width
    have seen (observation : Observation) :
        .observation observation ∈ perLine.flatten ∧ observation.line = index + 1 ↔ _ :=
      TokenStream.mem_flatten_iff about judged
    have found (diagnostic : Diagnostic) :
        .diagnostic diagnostic ∈ perLine.flatten ∧ diagnostic.line = index + 1 ↔ _ :=
      TokenStream.mem_flatten_iff about judged
    simp only [mem_observations, mem_diagnostics, seen, found, Settings.exists_observation_iff,
      Settings.exists_diagnostic_iff]
    refine ⟨?_, ?_, Iff.rfl, ?_⟩
    · rw [ne_eq, Except.ok.injEq, Settings.judge_eq_nil_iff, Bool.not_eq_true]
    · intro observation member same
      obtain ⟨_, rfl⟩ := Settings.observation_mem_judge.mp ((seen observation).mp ⟨member, same⟩)
      rfl
    · intro diagnostic member same
      obtain ⟨_, _, verdict⟩ :=
        Settings.diagnostic_mem_judge.mp ((found diagnostic).mp ⟨member, same⟩)
      exact (settings.diagnoses_of_verdict verdict).2

end Report

end LineWidth
