import LineWidth.Proofs.CommentWrapping

/-! # Comment lines in reports

Which lines of a source that end in a comment are reported, or that consist of comments only. Both
depend on the last token of the line alone. A long comment of several words is reported when its
last word would fit after wrapping, but for the columns that tabs add among its words. With comments
ignored, a line of comments is still reported when blanks, a bare line end or one of the marks of a
doc comment come last on it.
-/

namespace LineWidth

/-- The kinds of tokens that comments are made of. Directives are not among them. -/
def TokenKind.isComment : TokenKind → Bool
  | .comment | .docOpen | .docStar | .docText | .docClose => true
  | _ => false

/-- The lines of a source with a diagnostic are those that are not skipped, are no exempt comments
and exceed a limit. -/
private theorem Report.ofSource_reported (source : List Char) (settings : Settings)
    (path : String) :
    ∃ lines report, Line.Cut source lines ∧ Report.ofSource source settings path = .ok report ∧
      ∀ (index : Nat) (line : Line), lines[index]? = some line → ∃ earlier prior last after,
        (TokenStream.ofSource source settings.tabWidth).HasLine settings.tabWidth (index + 1) line
          earlier prior last after ∧
        onLine (TokenStream.ofSource source settings.tabWidth).tokens.toList (index + 1) =
          prior ++ [last] ∧
        ((∃ diagnostic ∈ report.diagnostics, diagnostic.line = index + 1) ↔
          settings.skips (TokenStream.ofSource source settings.tabWidth).lineEnd prior last =
              false ∧
            ¬ settings.CommentExempt (lineWidth settings.tabWidth line.body) last ∧
            settings.Exceeded (lineWidth settings.tabWidth line.body)) := by
  obtain ⟨lines, perLine, cut, analyzed, count, places⟩ :=
    TokenStream.analyze_lines source settings.tabWidth settings
  have about : ∀ (position : Nat) (own : List Record), perLine[position]? = some own →
      ∀ record ∈ own, record.line = position + 1 := by
    intro position own present record member
    have small := (List.getElem?_eq_some_iff.mp present).1
    obtain ⟨_, _, _, _, place, _, _, judged⟩ :=
      places position _ (List.getElem?_eq_getElem (count ▸ small))
    obtain rfl := Option.some.inj (judged.symm.trans present)
    simpa using place.line_of_mem_judge member
  refine ⟨lines, { path, records := perLine.flatten }, cut, ?_, ?_⟩
  · rw [Report.ofSource, TokenStream.report, analyzed]
    rfl
  · intro index line present
    obtain ⟨earlier, prior, last, after, place, own, _, judged⟩ := places index line present
    refine ⟨earlier, prior, last, after, place, own, ?_⟩
    have found (diagnostic : Diagnostic) :
        .diagnostic diagnostic ∈ perLine.flatten ∧ diagnostic.line = index + 1 ↔ _ :=
      TokenStream.mem_flatten_iff about judged
    simp only [mem_diagnostics, found, Settings.exists_diagnostic_iff, place.endColumn_eq]

/-- Where comments are judged, a long one is exempt if it is unbreakable. -/
private theorem Settings.commentExempt_iff_isUnbreakable {settings : Settings} {width : Nat}
    {last : Token} (judges : settings.ignoreComments = false)
    (comment : last.kind = .comment ∨ last.kind = .docText) (long : settings.lineLimit < width) :
    settings.CommentExempt width last ↔ last.isUnbreakable settings.lineLimit = true := by
  simp [Settings.CommentExempt, judges, comment, long]

/-- Wrapping comments, exactly. Take a line that is not skipped, longer than the soft limit, and
whose last token is a comment of several words, and put the last word on a line of its own at the
indent of the comment's text. The first line is reported if and only if the word ends within the
limit there, once it is charged for the columns that tabs add to all the words in their place, and
not for those that its own tabs add. Without tabs among the words that is the end of the word. -/
theorem Report.ofSource_wrapped (source : List Char) (settings : Settings) (path : String)
    (judges : settings.ignoreComments = false) :
    ∃ lines report, Line.Cut source lines ∧ Report.ofSource source settings path = .ok report ∧
      ∀ (index : Nat) (line : Line), lines[index]? = some line → ∃ prior last,
        onLine (TokenStream.ofSource source settings.tabWidth).tokens.toList (index + 1) =
          prior ++ [last] ∧
        ∀ marks words front word,
          settings.skips (TokenStream.ofSource source settings.tabWidth).lineEnd prior last =
            false →
          last.kind = .comment ∨ last.kind = .docText → CommentText last.visible marks words →
          LastWord words front word → settings.lineLimit < lineWidth settings.tabWidth line.body →
          let start := textIndent settings.tabWidth last.column marks + 1
          ((∃ diagnostic ∈ report.diagnostics, diagnostic.line = index + 1) ↔
            wrappedEnd settings.tabWidth last.column marks word +
                tabSurplus settings.tabWidth start words ≤
              settings.lineLimit + tabSurplus settings.tabWidth start word) ∧
          ('\t' ∉ words →
            ((∃ diagnostic ∈ report.diagnostics, diagnostic.line = index + 1) ↔
              wrappedEnd settings.tabWidth last.column marks word ≤ settings.lineLimit)) := by
  obtain ⟨lines, report, cut, told, reported⟩ := ofSource_reported source settings path
  refine ⟨lines, report, cut, told, ?_⟩
  intro index line present
  obtain ⟨earlier, prior, last, after, place, own, reported⟩ := reported index line present
  refine ⟨prior, last, own, ?_⟩
  intro marks words front word visible comment text ends long start
  have rendered := place.laid.rendered place.free (show last ∈ prior ++ [last] by simp)
  have wrapped : (∃ diagnostic ∈ report.diagnostics, diagnostic.line = index + 1) ↔
      wrappedEnd settings.tabWidth last.column marks word +
          tabSurplus settings.tabWidth start words ≤
        settings.lineLimit + tabSurplus settings.tabWidth start word := by
    rw [reported, Settings.commentExempt_iff_isUnbreakable judges comment long,
      rendered.isUnbreakable_iff text ends, wrappedEnd_eq, and_iff_right visible,
      and_iff_left (.inl long)]
    simp only [start]
    omega
  refine ⟨wrapped, ?_⟩
  intro plain
  have plainWord : '\t' ∉ word := by
    intro tab
    apply plain
    rw [ends.split]
    exact List.mem_append_right _ (List.mem_cons_of_mem _ tab)
  rw [wrapped, tabSurplus_plain _ plain, tabSurplus_plain _ plainWord, Nat.add_zero, Nat.add_zero]

/-- A comment with tabs between its words, at 26 columns against a limit of 20. Its last word would
end in column 4 of a line of its own, and yet the line is not reported. -/
theorem Report.ofSource_wrapped_tabs :
    let source := ['/', '/', ' ', 'a', '\t', '\t', '\t', ' ', 'c', '\n']
    let settings : Settings := { lineLimit := 20, absoluteLineLimit := 0, tabWidth := 8 }
    settings.ignoreComments = false ∧ wrappedEnd 8 1 ['/', '/', ' '] ['c'] = 4 ∧
      ∃ report, Report.ofSource source settings "" = .ok report ∧
        ¬ ∃ diagnostic ∈ report.diagnostics, diagnostic.line = 1 := by
  intro source settings
  have lines : Line.ofText source =
      [⟨['/', '/', ' ', 'a', '\t', '\t', '\t', ' ', 'c'], some .lf⟩] := by decide
  have step : Step.next .code true '/' ['/', ' ', 'a', '\t', '\t', '\t', ' ', 'c'] =
      ⟨.comment, 8, .code⟩ := by decide
  have tokens : (TokenStream.ofSource source 8).tokens.toList = [⟨.comment, source, 1, 1, 26⟩] := by
    rw [TokenStream.ofSource_tokens, lines, tokenGroups, Line.tokens_of_step step rfl]
    decide
  obtain ⟨_, report, cut, told, reported⟩ := ofSource_wrapped source settings "" rfl
  rw [← cut.ofText_eq, lines] at reported
  obtain ⟨prior, last, own, reported⟩ := reported 0 _ rfl
  rw [show settings.tabWidth = 8 from rfl, tokens] at own
  obtain ⟨rfl, rfl⟩ := List.append_singleton_inj.mp
    (show prior ++ [last] = [] ++ [⟨.comment, source, 1, 1, 26⟩] from own.symm)
  refine ⟨rfl, by decide, report, told, ?_⟩
  have text : CommentText ['/', '/', ' ', 'a', '\t', '\t', '\t', ' ', 'c'] ['/', '/', ' ']
      ['a', '\t', '\t', '\t', ' ', 'c'] :=
    ⟨rfl, List.all_eq_true.mp rfl, by rintro c ⟨⟩; rfl⟩
  have ends : LastWord ['a', '\t', '\t', '\t', ' ', 'c'] ['a', '\t', '\t', '\t'] ['c'] :=
    ⟨rfl, by decide⟩
  have decision := (reported _ _ _ _ (by decide) (.inl rfl) text ends (by decide)).1
  rw [show ((1 : Int) = (0 : Nat) + 1) from rfl, decision]
  decide

/-- A line of comments is not skipped: it is not blank and has neither a directive nor a `use`. -/
private theorem TokenStream.HasLine.skips_of_comments {stream : TokenStream} {tabWidth number : Nat}
    {line : Line} {earlier prior after : List Token} {last : Token}
    (place : stream.HasLine tabWidth number line earlier prior last after) (settings : Settings)
    (only : ∀ token ∈ prior ++ [last], token.kind = .whitespace ∨ token.kind.isComment = true)
    (comment : ∃ token ∈ prior ++ [last], token.kind.isComment = true) :
    settings.skips stream.lineEnd prior last = false := by
  have notBlank : ¬ (last.column = 1 ∧ last.length = 0) := by
    rintro ⟨first, narrow⟩
    obtain rfl := (place.laid.column_eq_one_iff place.free).mp first
    have blank := ((place.laid.length_eq_zero_iff place.free).2 narrow).2
    obtain ⟨token, member, kind⟩ := comment
    rw [List.nil_append, List.mem_singleton] at member
    rw [member, blank] at kind
    cases kind
  have notDirective : last.kind ≠ .directive := by
    intro directive
    have kind := only last (by simp)
    rw [directive] at kind
    rcases kind with kind | kind <;> cases kind
  have noUse : (beforeAnchor stream.lineEnd prior last).any (·.kind == .use) = false := by
    rw [List.any_eq_false]
    intro token member imports
    have own : token ∈ prior ++ [last] := by
      rw [place.own_eq]
      exact List.mem_append_left _ member
    have kind := only token own
    rw [beq_iff_eq.mp imports] at kind
    rcases kind with kind | kind <;> cases kind
  simp [Settings.skips, notBlank, notDirective, noUse]

/-- Ignored comments, exactly. Where comments are ignored, a line of nothing but comments and blanks
is reported if and only if it exceeds a limit and its last token is not the text of a comment. This
leaves the lines that end with the opening, a star or the close of a doc comment, with the line end
behind one of these, or with blanks behind a comment. -/
theorem Report.ofSource_commentLines (source : List Char) (settings : Settings) (path : String)
    (ignores : settings.ignoreComments = true) :
    ∃ lines report, Line.Cut source lines ∧ Report.ofSource source settings path = .ok report ∧
      ∀ (index : Nat) (line : Line), lines[index]? = some line → ∃ prior last,
        onLine (TokenStream.ofSource source settings.tabWidth).tokens.toList (index + 1) =
          prior ++ [last] ∧
        ((∀ token ∈ prior ++ [last], token.kind = .whitespace ∨ token.kind.isComment = true) →
          (∃ token ∈ prior ++ [last], token.kind.isComment = true) →
          ((∃ diagnostic ∈ report.diagnostics, diagnostic.line = index + 1) ↔
            settings.Exceeded (lineWidth settings.tabWidth line.body) ∧
              last.kind ≠ .comment ∧ last.kind ≠ .docText)) := by
  obtain ⟨lines, report, cut, told, reported⟩ := ofSource_reported source settings path
  refine ⟨lines, report, cut, told, ?_⟩
  intro index line present
  obtain ⟨earlier, prior, last, after, place, own, reported⟩ := reported index line present
  refine ⟨prior, last, own, ?_⟩
  intro only comment
  have exempt : settings.CommentExempt (lineWidth settings.tabWidth line.body) last ↔
      last.kind = .comment ∨ last.kind = .docText :=
    and_iff_left (.inl ignores)
  rw [reported, exempt, not_or, and_iff_right (place.skips_of_comments settings only comment),
    and_comm]

/-- A doc comment on one line, at 8 columns against a limit of 4. It ends with its close and is
reported, although comments are ignored. -/
theorem Report.ofSource_commentLines_docClose :
    let source := ['/', '*', '*', ' ', 'a', ' ', '*', '/', '\n']
    let settings : Settings := { lineLimit := 4, absoluteLineLimit := 0, ignoreComments := true }
    settings.ignoreComments = true ∧
      (∀ token ∈ (TokenStream.ofSource source settings.tabWidth).tokens.toList,
        token.kind = .whitespace ∨ token.kind.isComment = true) ∧
      ∃ report, Report.ofSource source settings "" = .ok report ∧
        ∃ diagnostic ∈ report.diagnostics, diagnostic.line = 1 := by
  intro source settings
  have lines : Line.ofText source =
      [⟨['/', '*', '*', ' ', 'a', ' ', '*', '/'], some .lf⟩] := by decide
  have opening : Step.next .code true '/' ['*', '*', ' ', 'a', ' ', '*', '/'] =
      ⟨.docOpen, 2, .doc⟩ := by decide
  have blank : Step.next .doc false ' ' ['a', ' ', '*', '/'] = ⟨.whitespace, 0, .doc⟩ := by decide
  have text : Step.next .doc false 'a' [' ', '*', '/'] = ⟨.docText, 1, .doc⟩ := by decide
  have close : Step.next .doc false '*' ['/'] = ⟨.docClose, 1, .code⟩ := by decide
  have stale : (TokenKind.docOpen == .whitespace) = false := rfl
  have parts : splitOnto .code true [] ['/', '*', '*', ' ', 'a', ' ', '*', '/'] =
      ([⟨.docClose, ['*', '/'], none⟩, ⟨.docText, ['a', ' '], none⟩, ⟨.whitespace, [' '], none⟩,
        ⟨.docOpen, ['/', '*', '*'], none⟩], .code) := by
    simp [splitOnto, opening, stale, blank, text, close]
  let before : List Token := [⟨.docOpen, ['/', '*', '*'], 1, 1, 3⟩, ⟨.whitespace, [' '], 1, 4, 1⟩,
    ⟨.docText, ['a', ' '], 1, 5, 2⟩, ⟨.docClose, ['*', '/'], 1, 7, 2⟩]
  have tokens : (TokenStream.ofSource source settings.tabWidth).tokens.toList =
      before ++ [⟨.whitespace, ['\n'], 1, 9, 0⟩] := by
    rw [TokenStream.ofSource_tokens, lines]
    simp only [tokenGroups, Line.tokens, Line.parts, parts]
    decide
  obtain ⟨_, report, cut, told, reported⟩ := ofSource_commentLines source settings "" rfl
  rw [← cut.ofText_eq, lines] at reported
  obtain ⟨prior, last, own, reported⟩ := reported 0 _ rfl
  rw [tokens] at own ⊢
  obtain ⟨rfl, rfl⟩ := List.append_singleton_inj.mp
    (show prior ++ [last] = before ++ [⟨.whitespace, ['\n'], 1, 9, 0⟩] from own.symm)
  refine ⟨rfl, by decide, report, told, ?_⟩
  exact (reported (by decide) (by decide)).mpr ⟨.inl (by decide), by decide, by decide⟩

end LineWidth
