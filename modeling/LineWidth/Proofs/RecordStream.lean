import LineWidth.Proofs.Verdict

/-! # The record stream

The records of a source are what the groups of tokens on its lines say, one line after the other.
`Ordered` is the shape that this gives the whole stream: that no line has two observations or two
diagnostics and that lines and anchors increase follows from it alone. Where a record is anchored is
a matter of its own line.
-/

namespace LineWidth

/-- The index of the token that a record is anchored to. -/
def Record.anchor : Record → Int
  | .observation seen => seen.anchor
  | .diagnostic found => found.anchor

/-- The records of a line whose tokens are a group that starts at the index `start`. -/
def Settings.judgeGroup (settings : Settings) (lineEnd : List Char) (start : Nat)
    (group : List Token) : List Record :=
  match group.getLast? with
  | none => []
  | some last => settings.judge lineEnd start group.dropLast last

@[simp] theorem Settings.judgeGroup_concat (settings : Settings) (lineEnd : List Char)
    (start : Nat) (prior : List Token) (last : Token) :
    settings.judgeGroup lineEnd start (prior ++ [last]) =
      settings.judge lineEnd start prior last := by
  simp [judgeGroup]

/-- The records of lines whose groups stand one after the other from the index `start` on, one list
for each line. -/
def Settings.judgeGroups (settings : Settings) (lineEnd : List Char) :
    Nat → List (List Token) → List (List Record)
  | _, [] => []
  | start, group :: rest =>
    settings.judgeGroup lineEnd start group ::
      settings.judgeGroups lineEnd (start + group.length) rest

/-- Checking lines that stand behind the tokens of earlier lines gives what their groups say. -/
private theorem Paged.mapM_checkLine {tabWidth number : Nat} {lines : List Line}
    {groups : List (List Token)} (paged : Paged tabWidth number lines groups)
    (free : ∀ line ∈ lines, BreakFree line.body) {stream : TokenStream} {earlier : List Token}
    (split : stream.tokens.toList = earlier ++ groups.flatten)
    (others : ∀ token ∈ earlier, token.line < number)
    (ends : ∃ terminator, stream.lineEnd = LineEnd.chars terminator) (settings : Settings) :
    (groupEnds earlier.length groups).mapM
        (fun (pointer : Nat) => stream.checkLine settings pointer) =
      .ok (settings.judgeGroups stream.lineEnd earlier.length groups) := by
  induction paged generalizing earlier with
  | nil => rfl
  | @cons number line lines group groups laid tail ih =>
    obtain ⟨prior, last, rfl⟩ := laid.exists_last
    have place : stream.HasLine tabWidth number line earlier prior last groups.flatten :=
      ⟨by simpa using split, others, laid, free line (List.mem_cons_self ..), ends⟩
    have before : ∀ token ∈ earlier ++ (prior ++ [last]), token.line < number + 1 := by
      intro token member
      rcases List.mem_append.mp member with member | member
      · exact Nat.lt_succ_of_lt (others token member)
      · exact laid.line_eq member ▸ Nat.lt_succ_self _
    have later := ih (fun other member => free other (List.mem_cons_of_mem _ member))
      (by simpa using split) before
    rw [List.length_append] at later
    have pointer : earlier.length + (prior ++ [last]).length =
        earlier.length + prior.length + 1 := by simp; omega
    rw [groupEnds, Settings.judgeGroups, List.mapM_cons, later, Settings.judgeGroup_concat, pointer,
      place.checkLine_eq settings]
    rfl

/-- The records of a source are those of the token groups of its physical lines. -/
private theorem TokenStream.analyze_eq (source : List Char) (settings : Settings) (tabWidth : Nat) :
    (ofSource source tabWidth).analyze settings =
      .ok (settings.judgeGroups (LineEnd.detect source).chars 0
        (tokenGroups tabWidth 1 .code (Line.ofText source))).flatten := by
  have flat := ofSource_tokens source tabWidth
  have paged := @tokenGroups_ofText_paged tabWidth 1 .code source
  have free : ∀ line ∈ Line.ofText source, BreakFree line.body := fun line member =>
    ((Line.ofText_cut source).of_mem member).1
  have checked := @Paged.mapM_checkLine tabWidth 1 _ _ paged free (ofSource source tabWidth) []
    flat (by simp) ⟨_, rfl⟩ settings
  rw [List.length_nil] at checked
  rw [analyze, lineStarts_eq flat (paged.opens free), checked]
  rfl

theorem Report.ofSource_eq (source : List Char) (settings : Settings) (path : String) :
    Report.ofSource source settings path =
      .ok ⟨path, (settings.judgeGroups (LineEnd.detect source).chars 0
        (tokenGroups settings.tabWidth 1 .code (Line.ofText source))).flatten⟩ := by
  rw [Report.ofSource, TokenStream.report, TokenStream.analyze_eq]
  rfl

/-- Records whose lines start at `line` and whose anchors start at `anchor`: an observation with
its diagnostic, if there is one, and then the records of greater lines. -/
inductive Ordered : Int → Int → List Record → Prop
  | nil {line anchor : Int} : Ordered line anchor []
  | observed {line anchor : Int} {seen : Observation} {rest : List Record}
      (lineLe : line ≤ seen.line) (anchorLe : anchor ≤ seen.anchor)
      (tail : Ordered (seen.line + 1) (seen.anchor + 1) rest) :
      Ordered line anchor (.observation seen :: rest)
  | diagnosed {line anchor : Int} {seen : Observation} {found : Diagnostic} {rest : List Record}
      (lineLe : line ≤ seen.line) (anchorLe : anchor ≤ seen.anchor)
      (sameLine : seen.line = found.line) (sameAnchor : seen.anchor = found.anchor)
      (tail : Ordered (seen.line + 1) (seen.anchor + 1) rest) :
      Ordered line anchor (.observation seen :: .diagnostic found :: rest)

section Ordered

variable {line anchor : Int} {records : List Record}

private theorem Ordered.mono (ordered : Ordered line anchor records) {line' anchor' : Int}
    (lineLe : line' ≤ line) (anchorLe : anchor' ≤ anchor) : Ordered line' anchor' records := by
  cases ordered with
  | nil => exact .nil
  | observed low start tail => exact .observed (by omega) (by omega) tail
  | diagnosed low start sameLine sameAnchor tail =>
    exact .diagnosed (by omega) (by omega) sameLine sameAnchor tail

private theorem Ordered.bounds (ordered : Ordered line anchor records) :
    ∀ record ∈ records, line ≤ record.line ∧ anchor ≤ record.anchor := by
  induction ordered with
  | nil => simp
  | observed lineLe anchorLe tail ih =>
    intro record member
    rcases List.mem_cons.mp member with rfl | member
    · exact ⟨lineLe, anchorLe⟩
    · have later := ih record member
      omega
  | diagnosed lineLe anchorLe sameLine sameAnchor tail ih =>
    intro record member
    rcases List.mem_cons.mp member with rfl | member
    · exact ⟨lineLe, anchorLe⟩
    · rcases List.mem_cons.mp member with rfl | member
      · exact ⟨lineLe.trans_eq sameLine, anchorLe.trans_eq sameAnchor⟩
      · have later := ih record member
        omega

/-- The observations are in order, and so are the diagnostics. -/
private theorem Ordered.pairwise (ordered : Ordered line anchor records) (path : String) :
    (Report.observations ⟨path, records⟩).Pairwise
        (fun first second => first.line < second.line ∧ first.anchor < second.anchor) ∧
      (Report.diagnostics ⟨path, records⟩).Pairwise
        (fun first second => first.line < second.line ∧ first.anchor < second.anchor) := by
  induction ordered with
  | nil => exact ⟨.nil, .nil⟩
  | @observed _ _ seen rest lineLe anchorLe tail ih =>
    refine ⟨List.pairwise_cons.mpr ⟨?_, ih.1⟩, ih.2⟩
    intro other member
    exact tail.bounds _ ((@Report.mem_observations ⟨path, rest⟩ other).mp member)
  | @diagnosed _ _ seen found rest lineLe anchorLe sameLine sameAnchor tail ih =>
    refine ⟨List.pairwise_cons.mpr ⟨?_, ih.1⟩, List.pairwise_cons.mpr ⟨?_, ih.2⟩⟩
    · intro other member
      exact tail.bounds _ ((@Report.mem_observations ⟨path, rest⟩ other).mp member)
    · intro other member
      have later := tail.bounds _ ((@Report.mem_diagnostics ⟨path, rest⟩ other).mp member)
      rw [← sameLine, ← sameAnchor]
      exact later

/-- Right before a diagnostic stands the observation of the same line, with the same anchor. -/
private theorem Ordered.preceded (ordered : Ordered line anchor records)
    {before after : List Record}
    {found : Diagnostic} (split : records = before ++ .diagnostic found :: after) :
    ∃ earlier seen, before = earlier ++ [.observation seen] ∧ seen.line = found.line ∧
      seen.anchor = found.anchor := by
  induction ordered generalizing before with
  | nil => simp at split
  | @observed _ _ other rest lineLe anchorLe tail ih =>
    cases before with
    | nil => simp at split
    | cons first before =>
      obtain ⟨rfl, later⟩ := List.cons.inj split
      obtain ⟨earlier, seen, rfl, same⟩ := ih later
      exact ⟨.observation other :: earlier, seen, rfl, same⟩
  | @diagnosed _ _ other own rest lineLe anchorLe sameLine sameAnchor tail ih =>
    rcases before with _ | ⟨first, _ | ⟨second, before⟩⟩
    · simp at split
    · simp only [List.singleton_append, List.cons.injEq, Record.diagnostic.injEq] at split
      obtain ⟨rfl, rfl, rfl⟩ := split
      exact ⟨[], other, rfl, sameLine, sameAnchor⟩
    · simp only [List.cons_append, List.cons.injEq] at split
      obtain ⟨rfl, rfl, later⟩ := split
      obtain ⟨earlier, seen, rfl, same⟩ := ih later
      exact ⟨.observation other :: .diagnostic own :: earlier, seen, rfl, same⟩

end Ordered

private theorem Settings.verdict?_place {settings : Settings} {anchor : Token} {index : Int}
    {width : Nat}
    {found : Diagnostic} (verdict : settings.verdict? anchor index width = some found) :
    found.anchor = index ∧ found.line = anchor.line ∧ found.column = anchor.column := by
  unfold Settings.verdict? at verdict
  split_ifs at verdict
  · obtain rfl := Option.some.inj verdict
    exact ⟨rfl, rfl, rfl⟩
  · obtain rfl := Option.some.inj verdict
    exact ⟨rfl, rfl, rfl⟩

/-- A line has no record, or an observation, or an observation and then a diagnostic, both at the
line's anchor. -/
private theorem Settings.judge_cases (settings : Settings) (lineEnd : List Char) (start : Nat)
    (prior : List Token) (last : Token) :
    settings.judge lineEnd start prior last = [] ∨
      ∃ seen : Observation, seen.line = (anchorToken lineEnd prior last).line ∧
        seen.anchor = start + (beforeAnchor lineEnd prior last).length ∧
        (settings.judge lineEnd start prior last = [.observation seen] ∨
          ∃ found : Diagnostic, seen.line = found.line ∧ seen.anchor = found.anchor ∧
            found.column = (anchorToken lineEnd prior last).column ∧
            settings.judge lineEnd start prior last = [.observation seen, .diagnostic found]) := by
  unfold Settings.judge
  split_ifs with skipped exempt
  · exact .inl rfl
  · exact .inr ⟨_, rfl, rfl, .inl rfl⟩
  · right
    refine ⟨{ anchor := start + (beforeAnchor lineEnd prior last).length,
              line := (anchorToken lineEnd prior last).line,
              value := (Bucket.ofLength last.endColumn).label }, rfl, rfl, ?_⟩
    cases verdict : settings.verdict? (anchorToken lineEnd prior last)
      (start + (beforeAnchor lineEnd prior last).length) last.endColumn with
    | none => exact .inl (by simp [verdict])
    | some found =>
      obtain ⟨atAnchor, atLine, atColumn⟩ := Settings.verdict?_place verdict
      exact .inr ⟨found, atLine.symm, atAnchor.symm, atColumn, by simp [verdict]⟩

/-- Every record of a line is at the line's anchor. -/
private theorem Settings.place_of_mem_judge {settings : Settings} {lineEnd : List Char}
    {start : Nat} {prior : List Token} {last : Token} {record : Record}
    (member : record ∈ settings.judge lineEnd start prior last) :
    record.anchor = start + (beforeAnchor lineEnd prior last).length ∧
      record.line = (anchorToken lineEnd prior last).line ∧
      ∀ found, record = .diagnostic found →
        found.column = (anchorToken lineEnd prior last).column := by
  rcases settings.judge_cases lineEnd start prior last with
    none | ⟨seen, atLine, atAnchor, only | ⟨found, sameLine, sameAnchor, atColumn, both⟩⟩
  · simp [none] at member
  · rw [only, List.mem_singleton] at member
    subst member
    exact ⟨atAnchor, atLine, by simp⟩
  · rw [both, List.mem_pair] at member
    rcases member with rfl | rfl
    · exact ⟨atAnchor, atLine, by simp⟩
    · refine ⟨sameAnchor.symm.trans atAnchor, sameLine.symm.trans atLine, ?_⟩
      rintro _ ⟨⟩
      exact atColumn

/-- The records of a line stand in front of those of later lines. -/
private theorem Settings.ordered_judge_append (settings : Settings) (lineEnd : List Char)
    {number start : Nat} {prior : List Token} {last : Token}
    (own : ∀ token ∈ prior ++ [last], token.line = number) {rest : List Record}
    (tail : Ordered (number + 1 : Nat) (start + (prior ++ [last]).length : Nat) rest) :
    Ordered number start (settings.judge lineEnd start prior last ++ rest) := by
  have onLine := own _ (anchorToken_mem lineEnd prior last)
  have inside := length_beforeAnchor_le lineEnd prior last
  rw [List.length_append, List.length_singleton] at tail
  rcases settings.judge_cases lineEnd start prior last with
    none | ⟨seen, atLine, atAnchor, only | ⟨found, sameLine, sameAnchor, _, both⟩⟩
  · rw [none]
    exact tail.mono (by omega) (by omega)
  · rw [only]
    exact .observed (by omega) (by omega) (tail.mono (by omega) (by omega))
  · rw [both]
    exact .diagnosed (by omega) (by omega) sameLine sameAnchor (tail.mono (by omega) (by omega))

/-- The records of lines are ordered. -/
private theorem Paged.ordered {tabWidth number : Nat} {lines : List Line}
    {groups : List (List Token)}
    (paged : Paged tabWidth number lines groups) (settings : Settings) (lineEnd : List Char)
    (start : Nat) : Ordered number start (settings.judgeGroups lineEnd start groups).flatten := by
  induction paged generalizing start with
  | nil => exact .nil
  | @cons number line lines group groups laid tail ih =>
    obtain ⟨prior, last, rfl⟩ := laid.exists_last
    rw [Settings.judgeGroups, List.flatten_cons, Settings.judgeGroup_concat]
    exact settings.ordered_judge_append lineEnd (fun _ => laid.line_eq) (ih _)

namespace TokenStream

/-- A record is anchored to a token: it has the token's index and line, and a diagnostic has its
column too. The token is the last one of its line, or stands right before the last one if that is
nothing but the line end of the source. -/
structure Anchors (stream : TokenStream) (record : Record) (before : List Token) (token : Token)
    (after : List Token) (last : Token) : Prop where
  split : stream.tokens.toList = before ++ token :: after
  index : record.anchor = before.length
  line : record.line = token.line
  column : ∀ found, record = .diagnostic found → found.column = token.column
  getLast : (onLine stream.tokens.toList token.line).getLast? = some last
  later : onLine after token.line = if last.content = stream.lineEnd then [last] else []

section Anchors

variable {stream : TokenStream} {tabWidth number : Nat} {line : Line}
  {earlier prior after : List Token} {last : Token}

/-- No other token of the line comes after its last one. -/
private theorem HasLine.onLine_after
    (place : HasLine stream tabWidth number line earlier prior last after)
    (own : onLine stream.tokens.toList number = prior ++ [last]) : onLine after number = [] := by
  have before : onLine earlier number = [] :=
    onLine_eq_nil_iff.mpr fun token member => (place.others token member).ne
  have whole : onLine (prior ++ [last]) number = prior ++ [last] :=
    List.filter_eq_self.mpr fun token member => by simp [place.laid.line_eq member]
  rw [place.split] at own
  unfold onLine at own before whole ⊢
  rw [List.filter_append, List.filter_append, before, whole, List.nil_append] at own
  exact List.append_right_eq_self.mp own

/-- Lines with a record are not blank. -/
private theorem HasLine.body_ne_nil
    (place : HasLine stream tabWidth number line earlier prior last after) {settings : Settings}
    (observed : settings.judge stream.lineEnd earlier.length prior last ≠ []) :
    line.body ≠ [] := by
  intro blank
  apply observed
  rw [Settings.judge_eq_nil_iff, Settings.skips]
  simp [place.blank_iff, blank]

private theorem HasLine.anchors
    (place : HasLine stream tabWidth number line earlier prior last after)
    (own : onLine stream.tokens.toList number = prior ++ [last]) {settings : Settings}
    {record : Record} (member : record ∈ settings.judge stream.lineEnd earlier.length prior last) :
    stream.Anchors record (earlier ++ beforeAnchor stream.lineEnd prior last)
      (anchorToken stream.lineEnd prior last)
      ((if last.content = stream.lineEnd then [last] else []) ++ after) last := by
  have visible := place.body_ne_nil (List.ne_nil_of_mem member)
  have bare := place.endsBare_iff visible
  have atAnchor := place.laid.line_eq (anchorToken_mem stream.lineEnd prior last)
  have whole := place.own_eq
  simp only [bare] at whole
  obtain ⟨index, atLine, atColumn⟩ := Settings.place_of_mem_judge member
  refine ⟨?_, by simpa using index, atLine, atColumn, by simp [atAnchor, own], ?_⟩
  · rw [place.split, whole]
    simp
  · have rest := place.onLine_after own
    unfold onLine at rest ⊢
    rw [atAnchor, List.filter_append, rest, List.append_nil]
    split_ifs <;> simp [place.line_eq]

/-- Where the line end of the source is that of the line, the anchor is the last token of its line
that has any width. -/
private theorem HasLine.anchor_length
    (place : HasLine stream tabWidth number line earlier prior last after)
    (visible : line.body ≠ [])
    (ends : ∀ ending, line.ending = some ending → stream.lineEnd = LineEnd.chars ending) :
    (anchorToken stream.lineEnd prior last).length ≠ 0 := by
  intro narrow
  have laid := place.laid
  rw [place.own_eq] at laid
  -- Only a last token has no width, so the anchor is the last token and a line end by itself.
  have alone := ((laid.length_eq_zero_iff place.free).2 narrow).1
  have notBare : endsBare stream.lineEnd last = false := by
    by_contra bare
    simp [bare] at alone
  rw [anchorToken, if_neg (by simp [notBare])] at narrow
  obtain ⟨ending, ended, content⟩ := place.laid.content_of_narrow place.free narrow
  have bare := (place.endsBare_iff visible).mpr (content.trans (ends ending ended).symm)
  rw [notBare] at bare
  cases bare

end Anchors

/-- Every record of a source is one of a physical line. -/
private theorem exists_line_of_mem {source : List Char} {tabWidth : Nat} {settings : Settings}
    {records : List Record}
    (analyzed : (ofSource source tabWidth).analyze settings = .ok records) {record : Record}
    (member : record ∈ records) :
    ∃ number, ∃ line ∈ Line.ofText source, ∃ earlier prior last after,
      HasLine (ofSource source tabWidth) tabWidth number line earlier prior last after ∧
      onLine (ofSource source tabWidth).tokens.toList number = prior ++ [last] ∧
      record ∈ settings.judge (ofSource source tabWidth).lineEnd earlier.length prior last := by
  obtain ⟨lines, perLine, cut, same, count, places⟩ := analyze_lines source tabWidth settings
  obtain rfl := Except.ok.inj (analyzed.symm.trans same)
  obtain ⟨own, ownMember, member⟩ := List.mem_flatten.mp member
  obtain ⟨index, present⟩ := List.mem_iff_getElem?.mp ownMember
  have small : index < lines.length := count ▸ (List.getElem?_eq_some_iff.mp present).1
  obtain ⟨earlier, prior, last, after, place, onLine, _, judged⟩ :=
    places index _ (List.getElem?_eq_getElem small)
  obtain rfl := Option.some.inj (judged.symm.trans present)
  exact ⟨index + 1, lines[index], by rw [cut.ofText_eq]; exact List.getElem_mem small, earlier,
    prior, last, after, place, onLine, member⟩

end TokenStream

/-- The discipline of the record stream. The report on a source always exists, and no line has two
observations or two diagnostics. A diagnostic comes right after the observation of its line, with
the same anchor; lines and anchors of observations increase strictly. Every record is anchored to
the last token of its line, or to the one before a bare line end; where all line ends of the source
are equal, this is the last token of the line with any width. -/
theorem Report.ofSource_discipline (source : List Char) (settings : Settings) (path : String) :
    ∃ lines report, Line.Cut source lines ∧ Report.ofSource source settings path = .ok report ∧
      (report.observations.map Observation.line).Nodup ∧
      (report.diagnostics.map Diagnostic.line).Nodup ∧
      (∀ before found after, report.records = before ++ .diagnostic found :: after →
        ∃ earlier seen, before = earlier ++ [.observation seen] ∧ seen.line = found.line ∧
          seen.anchor = found.anchor) ∧
      report.observations.Pairwise (fun first second =>
        first.line < second.line ∧ first.anchor < second.anchor) ∧
      ∀ record ∈ report.records, ∃ before token after last,
        (TokenStream.ofSource source settings.tabWidth).Anchors record before token after last ∧
        ((∃ ending, ∀ line ∈ lines, line.ending = none ∨ line.ending = some ending) →
          token.length ≠ 0 ∧ ∀ later ∈ onLine after token.line, later.length = 0) := by
  have cut := Line.ofText_cut source
  have analyzed := TokenStream.analyze_eq source settings settings.tabWidth
  have paged := @tokenGroups_ofText_paged settings.tabWidth 1 .code source
  have ordered := paged.ordered settings (LineEnd.detect source).chars 0
  obtain ⟨seen, found⟩ := ordered.pairwise path
  refine ⟨Line.ofText source, _, cut, Report.ofSource_eq source settings path, ?_, ?_, ?_, seen, ?_⟩
  · rw [List.Nodup, List.pairwise_map]
    exact seen.imp fun order => order.1.ne
  · rw [List.Nodup, List.pairwise_map]
    exact found.imp fun order => order.1.ne
  · exact fun before found after => ordered.preceded
  · intro record member
    obtain ⟨number, line, present, earlier, prior, last, after, place, own, judged⟩ :=
      TokenStream.exists_line_of_mem analyzed member
    have anchors := place.anchors own judged
    refine ⟨_, _, _, _, anchors, ?_⟩
    rintro ⟨ending, uniform⟩
    have visible := place.body_ne_nil (List.ne_nil_of_mem judged)
    refine ⟨place.anchor_length visible ?_, ?_⟩
    · intro own ended
      have detected := cut.detect_eq uniform present (by simp [ended])
      rw [ended] at detected
      rw [Option.some.inj detected]
      rfl
    · intro later member
      rw [anchors.later] at member
      split_ifs at member with bare
      · rw [List.mem_singleton.mp member]
        exact (place.laid.length_eq_zero_iff place.free).1.mpr ⟨_, bare⟩
      · cases member

end LineWidth
