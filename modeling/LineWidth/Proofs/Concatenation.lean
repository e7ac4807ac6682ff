import LineWidth.Proofs.BareTokens
import LineWidth.Proofs.ChunkedRun

/-! # Reports on concatenated sources

Lines are judged independently of each other. A source that ends its last line in code can be put in
front of another one, and the report on both is the report on the first followed by that on the
second, with anchors and lines counted on. The line end that a source uses is a property of all of
it, so the two have to agree on it; a source without a line end agrees with every other.
-/

namespace LineWidth

/-- The record of a line when some tokens and lines are put in front of its source. -/
def Record.moved (tokens lines : Nat) : Record → Record
  | .observation seen =>
    .observation { seen with anchor := seen.anchor + tokens, line := seen.line + lines }
  | .diagnostic found =>
    .diagnostic { found with anchor := found.anchor + tokens, line := found.line + lines }

section Moved

variable (settings : Settings) (lineEnd : List Char) (tokens lines start : Nat)

private theorem Settings.verdict?_down (anchor : Token) (index : Int) (width : Nat) :
    (settings.verdict? (anchor.down lines) (index + tokens) width).map Record.diagnostic =
      ((settings.verdict? anchor index width).map Record.diagnostic).map
        (Record.moved tokens lines) := by
  unfold Settings.verdict?
  split_ifs <;> rfl

@[simp] theorem endsBare_down (last : Token) :
    endsBare lineEnd (last.down lines) = endsBare lineEnd last := rfl

private theorem beforeAnchor_down (prior : List Token) (last : Token) :
    beforeAnchor lineEnd (prior.map (Token.down lines)) (last.down lines) =
      (beforeAnchor lineEnd prior last).map (Token.down lines) := by
  unfold beforeAnchor
  rw [endsBare_down, ← List.map_dropLast]
  split_ifs <;> rfl

private theorem anchorToken_down (prior : List Token) (last : Token) :
    anchorToken lineEnd (prior.map (Token.down lines)) (last.down lines) =
      (anchorToken lineEnd prior last).down lines := by
  unfold anchorToken
  rw [endsBare_down, List.getLast?_map]
  split_ifs
  · cases prior.getLast? <;> rfl
  · rfl

private theorem Settings.skips_down (prior : List Token) (last : Token) :
    settings.skips lineEnd (prior.map (Token.down lines)) (last.down lines) =
      settings.skips lineEnd prior last := by
  simp only [Settings.skips, beforeAnchor_down, List.any_map, List.all_map]
  rfl

/-- Nothing but the place of a line is read from its line numbers and its start. -/
private theorem Settings.judge_down (prior : List Token) (last : Token) :
    settings.judge lineEnd (start + tokens) (prior.map (Token.down lines)) (last.down lines) =
      (settings.judge lineEnd start prior last).map (Record.moved tokens lines) := by
  have index : (start + tokens : Nat) + (beforeAnchor lineEnd prior last).length =
      (start + (beforeAnchor lineEnd prior last).length : Int) + tokens := by omega
  have exempt : settings.exemptsComment (last.down lines) = settings.exemptsComment last := rfl
  have reach : (last.down lines).endColumn = last.endColumn := rfl
  unfold Settings.judge
  rw [skips_down, beforeAnchor_down, anchorToken_down, List.length_map, index, exempt, reach]
  split_ifs
  · rfl
  · rfl
  · simp only [verdict?_down, List.map_cons, Option.toList_map]
    rfl

private theorem Settings.judgeGroup_down (group : List Token) :
    settings.judgeGroup lineEnd (start + tokens) (group.map (Token.down lines)) =
      (settings.judgeGroup lineEnd start group).map (Record.moved tokens lines) := by
  rcases List.eq_nil_or_concat' group with rfl | ⟨prior, last, rfl⟩
  · rfl
  · simpa using settings.judge_down lineEnd tokens lines start prior last

private theorem Settings.judgeGroups_down (groups : List (List Token)) :
    settings.judgeGroups lineEnd (start + tokens) (groups.map (List.map (Token.down lines))) =
      (settings.judgeGroups lineEnd start groups).map (List.map (Record.moved tokens lines)) := by
  induction groups generalizing start with
  | nil => rfl
  | cons group rest ih =>
    rw [List.map_cons, judgeGroups, judgeGroups, List.map_cons, List.length_map,
      Nat.add_right_comm, ih, judgeGroup_down]

private theorem Settings.judgeGroups_append (first second : List (List Token)) :
    settings.judgeGroups lineEnd start (first ++ second) =
      settings.judgeGroups lineEnd start first ++
        settings.judgeGroups lineEnd (start + first.flatten.length) second := by
  induction first generalizing start with
  | nil => rfl
  | cons group rest ih =>
    rw [List.cons_append, judgeGroups, judgeGroups, ih, List.flatten_cons, List.length_append,
      Nat.add_assoc, List.cons_append]

end Moved

/-- What a line without a line end says does not depend on the line end of its source. -/
private theorem Paged.judgeGroups_eq {tabWidth number : Nat} {lines : List Line}
    {groups : List (List Token)} (paged : Paged tabWidth number lines groups)
    (opened : ∀ line ∈ lines, line.ending = none ∧ BreakFree line.body) (settings : Settings)
    (first second : LineEnd) (start : Nat) :
    settings.judgeGroups first.chars start groups =
      settings.judgeGroups second.chars start groups := by
  induction paged generalizing start with
  | nil => rfl
  | @cons number line lines group groups laid tail ih =>
    obtain ⟨bare, free⟩ := opened line (List.mem_cons_self ..)
    have own : settings.judgeGroup first.chars start group =
        settings.judgeGroup second.chars start group :=
      settings.judgeGroup_alike laid laid free rfl (fun ended => absurd bare ended) start
    rw [Settings.judgeGroups, Settings.judgeGroups, own,
      ih fun other member => opened other (List.mem_cons_of_mem _ member)]

/-- A source without line breaks is judged alike with every line end. -/
theorem Settings.judgeGroups_detect (settings : Settings) {source : List Char} {ending : LineEnd}
    (agrees : BreakFree source ∨ LineEnd.detect source = ending) (tabWidth start : Nat) :
    settings.judgeGroups ending.chars start (tokenGroups tabWidth 1 .code (Line.ofText source)) =
      settings.judgeGroups (LineEnd.detect source).chars start
        (tokenGroups tabWidth 1 .code (Line.ofText source)) := by
  rcases agrees with free | rfl
  · have cut := Line.ofText_cut source
    have paged := @tokenGroups_ofText_paged tabWidth 1 .code source
    exact paged.judgeGroups_eq (fun line member =>
      ⟨cut.ending_eq_none free line member, (cut.of_mem member).1⟩) settings ending _ start
  · rfl

/-- The token groups of two sources, of which the first one ends in code. -/
private theorem tokenGroups_ofText_append {first second : List Char} {tabWidth : Nat}
    (closed : endsOpen first = false)
    (apart : first.getLast? = some '\r' → second.head? ≠ some '\n')
    (neutral : (Lexer.run ⟨first, tabWidth, .code⟩).2.mode = .code) :
    tokenGroups tabWidth 1 .code (Line.ofText (first ++ second)) =
      tokenGroups tabWidth 1 .code (Line.ofText first) ++
        (tokenGroups tabWidth 1 .code (Line.ofText second)).map
          (List.map (Token.down (Line.ofText first).length)) := by
  rw [Lexer.run_lexer] at neutral
  have carried : modeAfter .code (Line.ofText first) = .code := neutral
  rw [tokenGroups_ofText_join _ _ closed apart, carried]

/-- Checking is a homomorphism: where the first of two sources ends its last line in code, no
`\r\n` is torn apart, and the second source has no line end or the same first one, the records of
both together are those of the first and then those of the second, with as many tokens and lines in
front as the first one has. -/
theorem Report.ofSource_append (settings : Settings) (path : String) {first second : List Char}
    (ended : ∃ text ending, first = text ++ LineEnd.chars ending)
    (apart : ¬ (first.getLast? = some '\r' ∧ second.head? = some '\n'))
    (neutral : (Lexer.run ⟨first, settings.tabWidth, .code⟩).2.mode = .code)
    (agrees : BreakFree second ∨ LineEnd.detect second = LineEnd.detect first) :
    ∃ before after : Report,
      Report.ofSource first settings path = .ok before ∧
      Report.ofSource second settings path = .ok after ∧
      Report.ofSource (first ++ second) settings path =
        .ok ⟨path, before.records ++ after.records.map (Record.moved
          (TokenStream.ofSource first settings.tabWidth).size (Line.ofText first).length)⟩ := by
  have visible : first ≠ [] := by
    obtain ⟨text, ending, rfl⟩ := ended
    simp [ending.chars_ne_nil]
  have closed : endsOpen first = false := by
    obtain ⟨text, ending, rfl⟩ := ended
    rw [← List.append_nil (text ++ ending.chars), endsOpen_ending]
    rfl
  have apart : first.getLast? = some '\r' → second.head? ≠ some '\n' := not_and.mp apart
  have detected : LineEnd.detect (first ++ second) = LineEnd.detect first :=
    (Line.ofText_cut first).detect_append (Line.ofText_cut second) closed apart visible
  have size : (TokenStream.ofSource first settings.tabWidth).size =
      (tokenGroups settings.tabWidth 1 .code (Line.ofText first)).flatten.length := by
    rw [TokenStream.size, ← Array.length_toList, TokenStream.ofSource_tokens]
  refine ⟨_, _, ofSource_eq first settings path, ofSource_eq second settings path, ?_⟩
  rw [ofSource_eq, detected, tokenGroups_ofText_append closed apart neutral,
    Settings.judgeGroups_append, Settings.judgeGroups_down, settings.judgeGroups_detect agrees,
    size, List.flatten_append, ← List.map_flatten]

theorem Report.ofSource_append_crlf :
    ∃ before after : Report,
      Report.ofSource ['a', '\r', '\n'] { lineLimit := 1 } "a" = .ok before ∧
      Report.ofSource ['b', 'c', '\r', '\n'] { lineLimit := 1 } "a" = .ok after ∧
      Report.ofSource ['a', '\r', '\n', 'b', 'c', '\r', '\n'] { lineLimit := 1 } "a" =
        .ok ⟨"a", before.records ++ after.records.map (Record.moved 2 1)⟩ := by
  have size : (TokenStream.ofSource ['a', '\r', '\n'] 0).size = 2 := by decide +kernel
  have joined := @Report.ofSource_append { lineLimit := 1 } "a" ['a', '\r', '\n']
    ['b', 'c', '\r', '\n'] ⟨['a'], .crlf, rfl⟩ (by decide) (by decide +kernel) (.inr rfl)
  rw [size] at joined
  exact joined

end LineWidth
