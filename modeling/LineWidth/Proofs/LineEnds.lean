import LineWidth.Proofs.Concatenation

/-! # Reports and line ends

Two ways in which the line ends of a source may change without a trace in its records. All of them
may be written in another way, as long as they are written in one way; and a line end may be added
behind the last line. In the second case the tokens of the last line do change: its end becomes part
of the last token, or a token of its own, or a lone `\r` grows into a `\r\n`.
-/

namespace LineWidth

/-- A text with every `\n` written as some line end. -/
def newlinesAs (ending : LineEnd) (text : List Char) : List Char :=
  text.flatMap fun c => if c = '\n' then ending.chars else [c]

/-- The line with some end in place of its own. -/
def Line.endedBy (ending : LineEnd) (line : Line) : Line :=
  { line with ending := line.ending.map fun _ => ending }

section Newlines

variable {text body rest : List Char}

private theorem newlinesAs_lf (text : List Char) : newlinesAs .lf text = text := by
  induction text with
  | nil => rfl
  | cons c rest ih =>
    unfold newlinesAs at ih ⊢
    rw [List.flatMap_cons, ih]
    split_ifs with newline
    · rw [newline]
      rfl
    · rfl

private theorem newlinesAs_body (ending : LineEnd) (free : BreakFree body) :
    newlinesAs ending body = body := by
  induction body with
  | nil => rfl
  | cons c rest ih =>
    obtain ⟨⟨_, notNewline⟩, restFree⟩ := breakFree_cons.mp free
    have tail := ih restFree
    unfold newlinesAs at tail ⊢
    rw [List.flatMap_cons, if_neg notNewline, tail, List.singleton_append]

/-- Where `\n` is written as `\r`, no `\n` is left to follow a `\r`. -/
private theorem head?_newlinesAs_cr
    (text : List Char) : (newlinesAs .cr text).head? ≠ some '\n' := by
  cases text with
  | nil => simp [newlinesAs]
  | cons c rest =>
    rw [newlinesAs, List.flatMap_cons]
    split_ifs with newline
    · simp [LineEnd.chars]
    · simpa using newline

private theorem whole_newlinesAs (ending : LineEnd) (text : List Char) :
    ending = .cr → (newlinesAs ending text).head? ≠ some '\n' := by
  rintro rfl
  exact head?_newlinesAs_cr text

/-- The line end that newlines are written as is detected, if there is any newline. -/
private theorem LineEnd.detect_newlinesAs (ending : LineEnd) (plain : '\r' ∉ text) :
    BreakFree (newlinesAs ending text) ∨ LineEnd.detect (newlinesAs ending text) = ending := by
  induction text with
  | nil => exact .inl .nil
  | cons c rest ih =>
    obtain ⟨notReturn, plainRest⟩ := not_or.mp (List.mem_cons.not.mp plain)
    have tail := ih plainRest
    by_cases newline : c = '\n'
    · right
      have first := LineEnd.detect_line .nil (whole_newlinesAs ending rest)
      rw [newlinesAs, List.flatMap_cons, if_pos newline]
      exact first
    · have step : newlinesAs ending (c :: rest) = c :: newlinesAs ending rest := by
        rw [newlinesAs, List.flatMap_cons, if_neg newline]
        rfl
      rw [step]
      refine tail.imp ?_ ?_
      · intro free
        exact breakFree_cons.mpr ⟨⟨Ne.symm notReturn, newline⟩, free⟩
      · intro detected
        rw [LineEnd.detect, if_neg newline, if_neg (Ne.symm notReturn), detected]

/-- The physical lines stay the same but for their ends. -/
private theorem Line.Cut.newlinesAs {source : List Char} {lines : List Line}
    (cut : Line.Cut source lines) (plain : '\r' ∉ source) (ending : LineEnd) :
    Line.Cut (newlinesAs ending source) (lines.map (Line.endedBy ending)) := by
  induction cut with
  | nil => exact .nil
  | last visible free =>
    rw [newlinesAs_body ending free]
    exact .last visible free
  | @line body rest own lines free _ tail ih =>
    simp only [List.mem_append, not_or] at plain
    obtain ⟨⟨_, plainEnd⟩, plainRest⟩ := plain
    obtain rfl : own = .lf := by cases own <;> simp_all [LineEnd.chars]
    have split : LineWidth.newlinesAs ending (body ++ LineEnd.lf.chars ++ rest) =
        body ++ ending.chars ++ LineWidth.newlinesAs ending rest := by
      have front := newlinesAs_body ending free
      unfold LineWidth.newlinesAs at front ⊢
      rw [List.flatMap_append, List.flatMap_append, front]
      simp [LineEnd.chars]
    rw [split]
    exact .line free (whole_newlinesAs ending rest) (ih plainRest)

end Newlines

section Uniform

variable (tabWidth number : Nat) (mode : Mode) (first second : LineEnd) {line : Line}

private theorem Line.parts_mode (body : List Char) (own other : Option LineEnd) :
    (Line.parts mode ⟨body, own⟩).2 = (Line.parts mode ⟨body, other⟩).2 := by
  obtain ⟨parts, final, _, split⟩ := Line.parts_eq mode body
  rw [split, split]

private theorem Line.endedBy_bare (free : BreakFree line.body) :
    ((line.endedBy first).tokens tabWidth number mode).1.map Token.bare =
      ((line.endedBy second).tokens tabWidth number mode).1.map Token.bare := by
  obtain ⟨body, ending⟩ := line
  cases ending with
  | none => rfl
  | some ending => exact Line.tokens_bare free mode first second

private theorem Line.endedBy_text (visible : line.text ≠ []) (ending : LineEnd) :
    (line.endedBy ending).text ≠ [] := by
  obtain ⟨body, own⟩ := line
  cases own with
  | none => exact visible
  | some own => simp [Line.endedBy, Line.text, Line.endChars, ending.chars_ne_nil]

private theorem Settings.judgeGroup_endedBy (settings : Settings) (free : BreakFree line.body)
    (visible : line.text ≠ []) (start : Nat) :
    settings.judgeGroup first.chars start ((line.endedBy first).tokens tabWidth number mode).1 =
      settings.judgeGroup second.chars start
        ((line.endedBy second).tokens tabWidth number mode).1 := by
  have laid (ending : LineEnd) : Laid tabWidth number (line.endedBy ending).ending 1 line.body
      ((line.endedBy ending).tokens tabWidth number mode).1 :=
    Line.tokens_laid mode (Line.endedBy_text visible ending)
  have bare := Line.endedBy_bare tabWidth number mode first second free
  apply settings.judgeGroup_alike (laid first) (laid second) free bare
  intro _
  cases ended : line.ending with
  | none => simp [Line.endedBy, ended]
  | some own => simp [Line.endedBy, ended]

/-- Lines that all end in one way have the same records in whatever way this is. -/
private theorem Settings.judgeGroups_endedBy (settings : Settings) {lines : List Line}
    (inner : ∀ line ∈ lines, BreakFree line.body ∧ line.text ≠ []) (start : Nat) :
    settings.judgeGroups first.chars start
        (tokenGroups tabWidth number mode (lines.map (Line.endedBy first))) =
      settings.judgeGroups second.chars start
        (tokenGroups tabWidth number mode (lines.map (Line.endedBy second))) := by
  induction lines generalizing number mode start with
  | nil => rfl
  | cons line rest ih =>
    obtain ⟨free, visible⟩ := inner line (List.mem_cons_self ..)
    have own := settings.judgeGroup_endedBy tabWidth number mode first second free visible start
    have size := congrArg List.length (Line.endedBy_bare tabWidth number mode first second free)
    rw [List.length_map, List.length_map] at size
    have carried : ((line.endedBy first).parts mode).2 = ((line.endedBy second).parts mode).2 :=
      Line.parts_mode mode line.body _ _
    rw [List.map_cons, List.map_cons, tokenGroups, tokenGroups, judgeGroups, judgeGroups, own, size,
      carried, ih _ _ fun other member => inner other (List.mem_cons_of_mem _ member)]

end Uniform

/-- Records do not depend on the line end that a source uses. A source without `\r` has the same
report with all its newlines as they are, with `\r\n` and with `\r` in place of them. -/
theorem Report.ofSource_newlinesAs (settings : Settings) (path : String) {source : List Char}
    (plain : '\r' ∉ source) :
    ∃ report, Report.ofSource source settings path = .ok report ∧
      Report.ofSource (newlinesAs .crlf source) settings path = .ok report ∧
      Report.ofSource (newlinesAs .cr source) settings path = .ok report := by
  have cut := Line.ofText_cut source
  have same (ending : LineEnd) : Report.ofSource (newlinesAs ending source) settings path =
      .ok ⟨path, (settings.judgeGroups LineEnd.lf.chars 0 (tokenGroups settings.tabWidth 1 .code
        ((Line.ofText source).map (Line.endedBy .lf)))).flatten⟩ := by
    rw [ofSource_eq, ← settings.judgeGroups_detect (LineEnd.detect_newlinesAs ending plain),
      (cut.newlinesAs plain ending).ofText_eq,
      settings.judgeGroups_endedBy _ _ _ ending .lf fun _ => cut.of_mem]
  refine ⟨_, ?_, same .crlf, same .cr⟩
  rw [← same .lf, newlinesAs_lf]

theorem Report.ofSource_newlinesAs_comment :
    ∃ report,
      Report.ofSource ['/', '/', ' ', 'a', 'b', '\n', '\n', 'c', 'd', ';', '\n'] { lineLimit := 2 }
        "a" = .ok report ∧
      Report.ofSource ['/', '/', ' ', 'a', 'b', '\r', '\n', '\r', '\n', 'c', 'd', ';', '\r', '\n']
        { lineLimit := 2 } "a" = .ok report ∧
      Report.ofSource ['/', '/', ' ', 'a', 'b', '\r', '\r', 'c', 'd', ';', '\r'] { lineLimit := 2 }
        "a" = .ok report :=
  @Report.ofSource_newlinesAs { lineLimit := 2 } "a"
    ['/', '/', ' ', 'a', 'b', '\n', '\n', 'c', 'd', ';', '\n'] (by decide)

/-- The lines of a text and those of the text with a line end added behind it. The end makes a line
of its own, or it closes a last line without one, or it completes a `\r` to `\r\n`. -/
inductive Line.Closes (ending : LineEnd) : List Line → List Line → Prop
  | blank : Closes ending [] [⟨[], some ending⟩]
  | last {body : List Char} (visible : body ≠ []) :
      Closes ending [⟨body, none⟩] [⟨body, some ending⟩]
  | completed {body : List Char} (newline : ending = .lf) :
      Closes ending [⟨body, some .cr⟩] [⟨body, some .crlf⟩]
  | line {line : Line} {lines closed : List Line} (tail : Closes ending lines closed) :
      Closes ending (line :: lines) (line :: closed)

/-- A line end behind a source closes the last of its physical lines. -/
private theorem Line.Cut.closes {source : List Char} {lines : List Line}
    (cut : Line.Cut source lines) (ending : LineEnd) :
    ∃ closed, Line.Cut (source ++ ending.chars) closed ∧ Line.Closes ending lines closed := by
  induction cut with
  | nil =>
    have blank := @Line.Cut.line [] [] ending [] .nil (by simp) .nil
    exact ⟨_, by simpa using blank, .blank⟩
  | @last body visible free =>
    have ended := @Line.Cut.line body [] ending [] free (by simp) .nil
    exact ⟨_, by simpa using ended, .last visible⟩
  | @line body rest own lines free whole tail ih =>
    by_cases completes : rest = [] ∧ own = .cr ∧ ending = .lf
    · obtain ⟨rfl, rfl, rfl⟩ := completes
      obtain rfl : lines = [] := tail.eq_nil_iff.mpr rfl
      have ended := @Line.Cut.line body [] .crlf [] free (by simp) .nil
      exact ⟨_, by simpa [LineEnd.chars] using ended, .completed rfl⟩
    · obtain ⟨closed, next, closes⟩ := ih
      refine ⟨_, ?_, .line closes⟩
      rw [List.append_assoc]
      refine .line free ?_ next
      rintro rfl
      cases rest with
      | nil => cases ending <;> simp_all [LineEnd.chars]
      | cons c rest => exact whole rfl

/-- The line end that a source uses stays the same when it is added behind the source. -/
private theorem LineEnd.detect_append_detect (source : List Char) :
    LineEnd.detect (source ++ (LineEnd.detect source).chars) = LineEnd.detect source := by
  induction source with
  | nil => rfl
  | cons c rest ih =>
    by_cases newline : c = '\n'
    · simp [LineEnd.detect, newline]
    by_cases returns : c = '\r'
    · cases rest with
      | nil => simp [LineEnd.detect, returns, LineEnd.chars]
      | cons d rest => simp [LineEnd.detect, returns]
    · simpa [LineEnd.detect, newline, returns] using ih

section Closing

variable {tabWidth number : Nat} {body : List Char} {settings : Settings}

/-- A blank line has no records. -/
private theorem Settings.judgeGroup_blank {ending : Option LineEnd} {group : List Token}
    (laid : Laid tabWidth number ending 1 [] group) (lineEnd : List Char) (start : Nat) :
    settings.judgeGroup lineEnd start group = [] := by
  obtain ⟨prior, last, rfl⟩ := laid.exists_last
  have reach := laid.endColumn_last .nil
  have placed := laid.length_lt_column .nil
  rw [Token.endColumn, lineWidth_nil] at reach
  have blank : last.column = 1 ∧ last.length = 0 := by omega
  rw [judgeGroup_concat, judge_eq_nil_iff, Settings.skips]
  simp [blank]

/-- A bare line end behind a token that is no comment takes nothing from what the token says: the
anchor stays where it is, and so does the end of the line. -/
private theorem Settings.judge_bareEnd {lineEnd : List Char} {prior : List Token}
    {last stop : Token}
    (placed : 1 ≤ last.column) (wide : last.length ≠ 0) (visible : last.content ≠ lineEnd)
    (code : last.kind ≠ .directive ∧ last.kind.isCommentText = false)
    (blank : stop.kind = .whitespace) (content : stop.content = lineEnd)
    (behind : stop.column = last.column + last.length) (narrow : stop.length = 0) (start : Nat) :
    settings.judge lineEnd start (prior ++ [last]) stop =
      settings.judge lineEnd start prior last := by
  have notFirst : stop.column ≠ 1 := by omega
  have bare : endsBare lineEnd stop = true := by simp [endsBare, notFirst, content]
  have notBare : endsBare lineEnd last = false := by simp [endsBare, visible]
  have before : beforeAnchor lineEnd (prior ++ [last]) stop = beforeAnchor lineEnd prior last := by
    simp [beforeAnchor, bare, notBare]
  have anchor : anchorToken lineEnd (prior ++ [last]) stop = anchorToken lineEnd prior last := by
    simp [anchorToken, bare, notBare]
  have reach : stop.endColumn = last.endColumn := by
    rw [Token.endColumn, Token.endColumn, narrow, behind, Nat.add_zero]
  have skips : settings.skips lineEnd (prior ++ [last]) stop =
      settings.skips lineEnd prior last := by
    have directive : (last.kind == .directive) = false := beq_eq_false_iff_ne.mpr code.1
    have stopped : (stop.kind == .directive) = false := by rw [blank]; rfl
    simp [Settings.skips, before, notFirst, wide, directive, stopped]
  have exempt : settings.exemptsComment stop = settings.exemptsComment last := by
    unfold Settings.exemptsComment
    rw [blank, code.2]
    rfl
  unfold Settings.judge
  rw [skips, exempt, before, anchor, reach]

/-- Comments own the line end behind them. -/
private theorem Part.code_of_ownsEnd {mode : Mode} {part : Part}
    (keeps : part.ownsEnd mode = false) :
    part.kind ≠ .directive ∧ part.kind.isCommentText = false := by
  unfold Part.ownsEnd at keeps
  cases kind : part.kind <;> simp_all [TokenKind.isCommentText]

private theorem Settings.judgeGroup_bareEnd {mode : Mode} {init : List Part} {last : Part}
    (bare : last.ending = none) (visible : last.text ≠ []) (free : BreakFree last.text)
    (keeps : last.ownsEnd mode = false) (ending : LineEnd) (start : Nat) :
    settings.judgeGroup ending.chars start (placeOnto tabWidth number 1 [] (init ++ [last])) =
      settings.judgeGroup ending.chars start (placeOnto tabWidth number 1 []
        (init ++ [last] ++ [⟨.whitespace, [], some ending⟩])) := by
  obtain ⟨next, placed, behind⟩ := @placeOnto_append tabWidth number 1 init
  have wide : renderedWidth tabWidth next last.text ≠ 0 := by
    intro narrow
    exact visible ((renderedWidth_eq_zero_iff placed).mp narrow)
  have noEnd : last.content ≠ ending.chars := by
    intro same
    rw [Part.content, bare] at same
    exact visible (free.eq_nil_of_append same)
  have stop := @Settings.judge_bareEnd settings ending.chars (placeOnto tabWidth number 1 [] init)
    ⟨last.kind, last.content, number, next, renderedWidth tabWidth next last.text⟩
    ⟨.whitespace, ending.chars, number, next + renderedWidth tabWidth next last.text, 0⟩
    placed wide noEnd (Part.code_of_ownsEnd keeps) rfl rfl rfl rfl start
  rw [← judgeGroup_concat, ← judgeGroup_concat, List.append_assoc] at stop
  rw [List.append_assoc, behind, behind, List.singleton_append, placeOnto_cons, placeOnto_cons,
    placeOnto_cons, renderedWidth_nil]
  exact stop.symm

/-- A line end behind the last line of a source does not change its records. -/
private theorem Settings.judgeGroup_closed (free : BreakFree body) (visible : body ≠ [])
    (mode : Mode) (ending : LineEnd) (start : Nat) :
    settings.judgeGroup ending.chars start (Line.tokens tabWidth number mode ⟨body, none⟩).1 =
      settings.judgeGroup ending.chars start
        (Line.tokens tabWidth number mode ⟨body, some ending⟩).1 := by
  have text (own : Option LineEnd) : Line.text ⟨body, own⟩ ≠ [] := by simp [Line.text, visible]
  have laid (own : Option LineEnd) := @Line.tokens_laid tabWidth number mode ⟨body, own⟩ (text own)
  have covers (own : Option LineEnd) := Line.parts_covers mode ⟨body, own⟩ (text own)
  obtain ⟨parts, final, scanned, split⟩ := Line.parts_eq mode body
  simp only [Line.tokens, split] at laid covers ⊢
  rcases withEnd_cases final ending parts with ⟨init, last, rfl, _, given⟩ | ⟨keeps, given⟩
  · -- The last token becomes the owner of the line end, and nothing else changes.
    refine settings.judgeGroup_alike (laid none) (laid (some ending)) free ?_
      (fun ended => absurd rfl ended) start
    rw [placeOnto_bare fun _ => (covers none).breakFree free,
      placeOnto_bare fun _ => (covers (some ending)).breakFree free, given]
    simp [withEnd, Part.bare]
  · -- The line end becomes a token of its own, behind the anchor.
    have filled : parts ≠ [] := by
      rintro rfl
      exact visible scanned.eq_nil.1
    obtain ⟨init, last, rfl⟩ := (List.eq_nil_or_concat' parts).resolve_left filled
    have member : last ∈ init ++ [last] := by simp
    obtain ⟨bare, shown⟩ := scanned.of_mem member
    rw [given]
    exact Settings.judgeGroup_bareEnd bare shown ((covers none).breakFree free member)
      (keeps init last rfl) ending start

/-- The records of a source stay the same when its last line is closed. -/
private theorem Line.Closes.judgeGroups_flatten {ending : LineEnd} {lines closed : List Line}
    (closes : Line.Closes ending lines closed)
    (inner : ∀ line ∈ lines, BreakFree line.body ∧ line.text ≠ []) (mode : Mode) (start : Nat) :
    (settings.judgeGroups ending.chars start (tokenGroups tabWidth number mode lines)).flatten =
      (settings.judgeGroups ending.chars start
        (tokenGroups tabWidth number mode closed)).flatten := by
  induction closes generalizing number mode start with
  | blank =>
    have laid := @Line.tokens_laid tabWidth number mode ⟨[], some ending⟩
      (by simp [Line.text, Line.endChars, ending.chars_ne_nil])
    rw [tokenGroups, tokenGroups, tokenGroups, Settings.judgeGroups, Settings.judgeGroups,
      Settings.judgeGroups, Settings.judgeGroup_blank laid]
    rfl
  | @last body visible =>
    obtain ⟨free, _⟩ := inner _ (List.mem_singleton_self _)
    rw [tokenGroups, tokenGroups, Settings.judgeGroups, Settings.judgeGroups,
      Settings.judgeGroup_closed free visible mode ending]
    rfl
  | @completed body newline =>
    obtain ⟨free, _⟩ := inner _ (List.mem_singleton_self _)
    have laid (own : LineEnd) := @Line.tokens_laid tabWidth number mode ⟨body, some own⟩
      (by simp [Line.text, Line.endChars, own.chars_ne_nil])
    -- Neither `\r` nor `\r\n` is the line end of a source that uses `\n`.
    have alike : settings.judgeGroup ending.chars start
        (Line.tokens tabWidth number mode ⟨body, some .cr⟩).1 = settings.judgeGroup ending.chars
          start (Line.tokens tabWidth number mode ⟨body, some .crlf⟩).1 :=
      settings.judgeGroup_alike (laid .cr) (laid .crlf) free
        (Line.tokens_bare free mode .cr .crlf) (by simp [newline]) start
    rw [tokenGroups, tokenGroups, Settings.judgeGroups, Settings.judgeGroups, alike]
    rfl
  | @line line lines closed tail ih =>
    rw [tokenGroups, tokenGroups, Settings.judgeGroups, Settings.judgeGroups, List.flatten_cons,
      List.flatten_cons, ih fun other member => inner other (List.mem_cons_of_mem _ member)]

end Closing

/-- The final newline does not matter. With the line end that a source uses, or `\n` if it has none,
added behind it, every source has the same report: an empty one, one with or without a line end at
its end, with line ends of one or several kinds, and one that stops inside a comment or string. -/
theorem Report.ofSource_append_detect (source : List Char) (settings : Settings) (path : String) :
    ∃ report, Report.ofSource source settings path = .ok report ∧
      Report.ofSource (source ++ (LineEnd.detect source).chars) settings path = .ok report := by
  have cut := Line.ofText_cut source
  obtain ⟨closed, next, closes⟩ := cut.closes (LineEnd.detect source)
  refine ⟨_, ofSource_eq source settings path, ?_⟩
  rw [ofSource_eq, LineEnd.detect_append_detect, next.ofText_eq,
    ← closes.judgeGroups_flatten fun _ => cut.of_mem]

end LineWidth
