import LineWidth.Proofs.Verdict

/-! # Lines under two limits

What is measured at a pointer depends neither on the limits nor on how comments are treated, for any
stream whatsoever. So two settings that differ in a limit only can be compared at the verdict alone.
A lower hard limit reports more. A lower soft limit does too, but for one kind of line: the comment
exemption asks whether a comment can be wrapped below the soft limit, even where the hard limit
decides, so a comment may be exempt under the lower soft limit and be reported under the higher one.
-/

namespace LineWidth

/-- What is measured on a line: its last token, and the token that its records are anchored to, with
its index. -/
structure Measured where
  last : Token
  anchor : Token
  index : Int

/-- What is measured at a pointer; nothing on a line that leaves no record. -/
def TokenStream.measured (stream : TokenStream) (ignoreUseLines : Bool) (pointer : Int) :
    Except StreamFault (Option Measured) := do
  let last ← stream.get (pointer - 1)
  let index := stream.anchorIndex pointer last
  let low := (index - last.endColumn).toNat
  if (last.column = 1 ∧ last.length = 0) ∨
      (last.kind = .directive ∧ stream.directiveStandsAlone last index low) ∨
      (ignoreUseLines ∧ stream.isImportLine last index low) then
    return none
  else
    return some ⟨last, ← stream.get index, index⟩

/-- The observation of a measured line. -/
def Measured.observation (line : Measured) : Observation where
  anchor := line.index
  line := line.anchor.line
  value := (Bucket.ofLength line.last.endColumn).label

/-- The records of a measured line. -/
def Settings.recordsOf (settings : Settings) (line : Measured) : List Record :=
  .observation line.observation ::
    if settings.exemptsComment line.last then []
    else
      ((settings.verdict? line.anchor line.index line.last.endColumn).map Record.diagnostic).toList

/-- Whether records report a line. -/
def Reported (records : List Record) : Prop := ∃ found, .diagnostic found ∈ records

/-- Whether records report a line as an error. -/
def ReportedAsError (records : List Record) : Prop :=
  ∃ found, .diagnostic found ∈ records ∧ found.severity = .error

/-- The limits in order. No limit at all, which is written as zero, is the highest. -/
def LimitLe (lower higher : Nat) : Prop := higher = 0 ∨ 0 < lower ∧ lower ≤ higher

namespace TokenStream

variable {stream : TokenStream} {pointer : Int}

/-- Checking a line is measuring it and then judging what was measured. -/
theorem checkLine_eq_measured (settings : Settings) :
    stream.checkLine settings pointer =
      (stream.measured settings.ignoreUseLines pointer).map (·.elim [] settings.recordsOf) := by
  unfold checkLine measured
  cases stream.get (pointer - 1) with
  | error fault => rfl
  | ok last =>
    simp only [bind, Except.bind, pure, Except.pure]
    by_cases blank : last.column = 1 ∧ last.length = 0
    · rw [if_pos blank, if_pos (.inl blank)]
      rfl
    by_cases alone : last.kind = .directive ∧ stream.directiveStandsAlone last
        (stream.anchorIndex pointer last)
        (stream.anchorIndex pointer last - last.endColumn).toNat = true
    · rw [if_neg blank, if_pos alone, if_pos (.inr (.inl alone))]
      rfl
    by_cases imports : settings.ignoreUseLines = true ∧ stream.isImportLine last
        (stream.anchorIndex pointer last)
        (stream.anchorIndex pointer last - last.endColumn).toNat = true
    · rw [if_neg blank, if_neg alone, if_pos imports, if_pos (.inr (.inr imports))]
      rfl
    rw [if_neg blank, if_neg alone, if_neg imports, if_neg (by tauto)]
    cases stream.get (stream.anchorIndex pointer last) with
    | error fault => rfl
    | ok anchor =>
      simp only [Except.map, Option.elim_some, Settings.recordsOf, Measured.observation]
      split_ifs <;> rfl

/-- What is measured ends with the token just before the pointer. -/
theorem get_of_measured {ignoreUseLines : Bool} {measured : Option Measured}
    (found : stream.measured ignoreUseLines pointer = .ok measured) :
    ∃ last, stream.get (pointer - 1) = .ok last ∧
      ∀ line, measured = some line → line.last = last := by
  unfold TokenStream.measured at found
  cases atEnd : stream.get (pointer - 1) with
  | error fault =>
    rw [atEnd] at found
    cases found
  | ok last =>
    refine ⟨last, rfl, ?_⟩
    rintro line rfl
    rw [atEnd] at found
    simp only [bind, Except.bind, pure, Except.pure] at found
    split_ifs at found
    · cases found
    · cases anchored : stream.get (stream.anchorIndex pointer last) with
      | error fault =>
        rw [anchored] at found
        cases found
      | ok anchor =>
        rw [anchored] at found
        cases found
        rfl

end TokenStream

section Judged

variable {settings : Settings} {measured : Option Measured}

/-- A line is reported when it is measured, no exempt comment, and above a limit. -/
private theorem reported_iff :
    Reported (measured.elim [] settings.recordsOf) ↔ ∃ line, measured = some line ∧
      ¬ settings.CommentExempt line.last.endColumn line.last ∧
      settings.Exceeded line.last.endColumn := by
  cases measured with
  | none => simp [Reported]
  | some line =>
    simp only [Option.elim_some, Option.some.injEq, exists_eq_left', Reported,
      ← settings.exemptsComment_iff,
      ← settings.exists_verdict_iff line.anchor line.index line.last.endColumn]
    unfold Settings.recordsOf
    split_ifs with exempt
    · simp [exempt]
    · simp [exempt]

/-- A line is an error when it is measured, no exempt comment, and above the hard limit. -/
private theorem reportedAsError_iff :
    ReportedAsError (measured.elim [] settings.recordsOf) ↔ ∃ line, measured = some line ∧
      ¬ settings.CommentExempt line.last.endColumn line.last ∧
      0 < settings.absoluteLineLimit ∧ settings.absoluteLineLimit < line.last.endColumn := by
  cases measured with
  | none => simp [ReportedAsError]
  | some line =>
    simp only [Option.elim_some, Option.some.injEq, exists_eq_left', ReportedAsError,
      ← settings.exemptsComment_iff]
    unfold Settings.recordsOf Settings.verdict? Settings.hardLimitEnabled
    simp only [Bool.and_eq_true, decide_eq_true_eq]
    split_ifs with exempt hard soft
    · simp [exempt]
    · simp [exempt, hard, Diagnostic.maxExceeded]
    · simp [hard, Diagnostic.tooLong]
    · simp [hard]

/-- The observation of a line is the same under all settings. -/
private theorem observation_mem_recordsOf {seen : Observation} :
    .observation seen ∈ measured.elim [] settings.recordsOf ↔
      ∃ line, measured = some line ∧ seen = line.observation := by
  cases measured with
  | none => simp
  | some line =>
    rw [Option.elim_some, Settings.recordsOf]
    split_ifs <;> simp

end Judged

/-- A comment that cannot be wrapped below a limit cannot be wrapped below a lower one. -/
private theorem Token.isUnbreakable_of_le {token : Token} {lower higher : Nat} (le : lower ≤ higher)
    (unbreakable : token.isUnbreakable higher = true) : token.isUnbreakable lower = true := by
  simp only [Token.isUnbreakable, decide_eq_true_eq] at unbreakable ⊢
  omega

/-- The comments that are exempt under a soft limit although comments are not ignored. -/
def Settings.ExemptAt (settings : Settings) (lineLimit : Nat) (last : Token) : Prop :=
  (last.kind = .comment ∨ last.kind = .docText) ∧ settings.ignoreComments = false ∧
    lineLimit < last.endColumn ∧ last.isUnbreakable lineLimit = true

instance (settings : Settings) (lineLimit : Nat) (last : Token) :
    Decidable (settings.ExemptAt lineLimit last) :=
  inferInstanceAs (Decidable (_ ∧ _))

section SoftLimits

variable {settings : Settings} {lower higher : Nat} {last : Token}

/-- What is exempt under the higher soft limit is exempt under the lower one. -/
private theorem Settings.commentExempt_of_le (le : lower ≤ higher)
    (exempt : { settings with lineLimit := higher }.CommentExempt last.endColumn last) :
    { settings with lineLimit := lower }.CommentExempt last.endColumn last := by
  obtain ⟨comment, ignored | ⟨long, unbreakable⟩⟩ := exempt
  · exact ⟨comment, .inl ignored⟩
  · exact ⟨comment, .inr ⟨le.trans_lt long, Token.isUnbreakable_of_le le unbreakable⟩⟩

/-- Under the lower soft limit a comment is exempt because it is ignored or because it is
unbreakable there. -/
private theorem Settings.commentExempt_iff :
    { settings with lineLimit := lower }.CommentExempt last.endColumn last ↔
      settings.ExemptAt lower last ∨
        (last.kind = .comment ∨ last.kind = .docText) ∧ settings.ignoreComments = true := by
  unfold Settings.CommentExempt Settings.ExemptAt
  cases settings.ignoreComments <;> simp

/-- What is judged under the higher soft limit is no ignored comment, so only an unbreakable one can
be exempt under the lower limit. -/
private theorem Settings.exemptAt_iff
    (judged : ¬ { settings with lineLimit := higher }.CommentExempt last.endColumn last) :
    settings.ExemptAt lower last ↔
      { settings with lineLimit := lower }.CommentExempt last.endColumn last := by
  rw [Settings.commentExempt_iff]
  constructor
  · exact .inl
  · rintro (exempt | ignored)
    · exact exempt
    · exact absurd (Settings.commentExempt_iff.mpr (.inr ignored)) judged

/-- Apart from the unbreakable comments, both soft limits exempt the same. -/
private theorem Settings.commentExempt_congr (le : lower ≤ higher)
    (apart : ¬ settings.ExemptAt lower last) :
    { settings with lineLimit := lower }.CommentExempt last.endColumn last ↔
      { settings with lineLimit := higher }.CommentExempt last.endColumn last := by
  constructor
  · intro exempt
    apply Settings.commentExempt_iff.mpr
    exact .inr ((Settings.commentExempt_iff.mp exempt).resolve_left apart)
  · exact Settings.commentExempt_of_le le

end SoftLimits

/-- Limits and verdicts. Take any stream and a pointer whose line can be checked. Of two hard limits
the lower one reports every line that the higher one reports, as an error if the higher one does so.
Of two soft limits the lower one reports every line that the higher one reports, except exactly the
unbreakable comments that are longer than it; and apart from those, both agree on what is an error.
Neither kind of limit changes the observation. -/
theorem TokenStream.checkLine_limits (stream : TokenStream) (settings : Settings) (pointer : Int)
    (checks : ∃ records, stream.checkLine settings pointer = .ok records) :
    (∀ lower higher, LimitLe lower higher → ∃ under above,
      stream.checkLine { settings with absoluteLineLimit := lower } pointer = .ok under ∧
      stream.checkLine { settings with absoluteLineLimit := higher } pointer = .ok above ∧
      (Reported above → Reported under) ∧ (ReportedAsError above → ReportedAsError under) ∧
      ∀ seen, .observation seen ∈ under ↔ .observation seen ∈ above) ∧
    ∀ lower higher, lower ≤ higher → ∃ under above last,
      stream.checkLine { settings with lineLimit := lower } pointer = .ok under ∧
      stream.checkLine { settings with lineLimit := higher } pointer = .ok above ∧
      stream.get (pointer - 1) = .ok last ∧
      (Reported above → (¬ Reported under ↔ settings.ExemptAt lower last)) ∧
      (¬ settings.ExemptAt lower last → (ReportedAsError under ↔ ReportedAsError above)) ∧
      ∀ seen, .observation seen ∈ under ↔ .observation seen ∈ above := by
  obtain ⟨measured, found⟩ : ∃ measured,
      stream.measured settings.ignoreUseLines pointer = .ok measured := by
    obtain ⟨records, checked⟩ := checks
    rw [checkLine_eq_measured] at checked
    cases found : stream.measured settings.ignoreUseLines pointer with
    | error fault =>
      rw [found] at checked
      cases checked
    | ok measured => exact ⟨measured, rfl⟩
  have judges (other : Settings) (same : other.ignoreUseLines = settings.ignoreUseLines) :
      stream.checkLine other pointer = .ok (measured.elim [] other.recordsOf) := by
    rw [checkLine_eq_measured, same, found]
    rfl
  constructor
  · intro lower higher le
    refine ⟨_, _, judges _ rfl, judges _ rfl, ?_, ?_, ?_⟩
    · rw [reported_iff, reported_iff]
      rintro ⟨line, present, judged, exceeded⟩
      refine ⟨line, present, judged, ?_⟩
      simp only [LimitLe, Settings.Exceeded] at le exceeded ⊢
      omega
    · rw [reportedAsError_iff, reportedAsError_iff]
      rintro ⟨line, present, judged, positive, long⟩
      refine ⟨line, present, judged, ?_⟩
      simp only [LimitLe] at le positive long ⊢
      omega
    · intro seen
      rw [observation_mem_recordsOf, observation_mem_recordsOf]
  · intro lower higher le
    obtain ⟨last, atEnd⟩ := get_of_measured found
    refine ⟨_, _, last, judges _ rfl, judges _ rfl, atEnd.1, ?_, ?_, ?_⟩
    · rw [reported_iff, reported_iff]
      rintro ⟨line, rfl, judged, exceeded⟩
      obtain rfl := atEnd.2 line rfl
      rw [Settings.exemptAt_iff judged]
      constructor
      · intro silent
        by_contra notExempt
        apply silent
        refine ⟨line, rfl, notExempt, ?_⟩
        simp only [Settings.Exceeded] at exceeded ⊢
        omega
      · rintro exempt ⟨other, same, judged, -⟩
        obtain rfl := Option.some.inj same
        exact judged exempt
    · intro apart
      rw [reportedAsError_iff, reportedAsError_iff]
      apply exists_congr
      intro line
      apply and_congr_right
      intro present
      obtain rfl := atEnd.2 line present
      rw [Settings.commentExempt_congr le apart]
    · intro seen
      rw [observation_mem_recordsOf, observation_mem_recordsOf]

/-- A comment of one word between two soft limits: the lower limit exempts it, and under the higher
one the hard limit makes it an error, as does every lower hard limit. -/
theorem TokenStream.checkLine_limits_comment :
    let stream : TokenStream := ⟨#[⟨.comment, ['#', 'a', 'b', 'c', 'd'], 1, 1, 5⟩], ['\n']⟩
    let settings : Settings := { lineLimit := 9, absoluteLineLimit := 3 }
    (∃ records, stream.checkLine settings 1 = .ok records) ∧
      (LimitLe 1 3 ∧ ∃ under,
        stream.checkLine { settings with absoluteLineLimit := 1 } 1 = .ok under ∧
        ReportedAsError under) ∧
      2 ≤ 9 ∧ ∃ under above,
        stream.checkLine { settings with lineLimit := 2 } 1 = .ok under ∧
        stream.checkLine { settings with lineLimit := 9 } 1 = .ok above ∧
        Reported above ∧ ¬ Reported under := by
  intro stream settings
  have checks : ∃ records, stream.checkLine settings 1 = .ok records := ⟨_, rfl⟩
  have error : ∃ above, stream.checkLine settings 1 = .ok above ∧ ReportedAsError above :=
    ⟨_, rfl, .maxExceeded 0 1 1 3 5, by decide, rfl⟩
  obtain ⟨judged, same, found, member, severity⟩ := error
  obtain ⟨hard, soft⟩ := checkLine_limits stream settings 1 checks
  have ordered : LimitLe 1 3 := .inr (by decide)
  obtain ⟨under, above, low, high, -, errors, -⟩ := hard 1 3 ordered
  obtain rfl := Except.ok.inj (high.symm.trans same)
  refine ⟨checks, ⟨ordered, under, low, errors ⟨found, member, severity⟩⟩, by decide, ?_⟩
  obtain ⟨under, above, last, low, high, atEnd, reported, -⟩ := soft 2 9 (by decide)
  obtain rfl := Except.ok.inj (high.symm.trans same)
  obtain rfl := Except.ok.inj atEnd
  exact ⟨under, above, low, high, ⟨found, member⟩, (reported ⟨found, member⟩).mpr (by decide)⟩

end LineWidth
