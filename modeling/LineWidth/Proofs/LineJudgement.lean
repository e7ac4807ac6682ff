import LineWidth.Proofs.BackwardSearch
import LineWidth.Proofs.LineDiscovery
import Mathlib.Data.List.Induction

/-! # A line is judged by its own tokens

The rule searches backwards from the end of a line, over a window that is counted in columns but
walked in tokens, so the window mostly reaches into earlier lines. `Settings.judge` says what the
rule finds in terms of the line's own tokens. The two agree because every token but a bare line end
takes at least one column, which keeps the whole line in the window, and because the tokens of
earlier lines lie behind those of the line and have other line numbers.
-/

namespace LineWidth

/-- Whether the last token of a line, which is not its first, is nothing but the line end of the
source. -/
def endsBare (lineEnd : List Char) (last : Token) : Bool :=
  last.column ≠ 1 ∧ last.content = lineEnd

/-- The tokens of a line before its anchor, `last` being the last one and `prior` the others. -/
def beforeAnchor (lineEnd : List Char) (prior : List Token) (last : Token) : List Token :=
  if endsBare lineEnd last then prior.dropLast else prior

/-- The token that the records of a line are anchored to. -/
def anchorToken (lineEnd : List Char) (prior : List Token) (last : Token) : Token :=
  if endsBare lineEnd last then prior.getLast?.getD last else last

theorem length_beforeAnchor_le (lineEnd : List Char) (prior : List Token) (last : Token) :
    (beforeAnchor lineEnd prior last).length ≤ prior.length := by
  unfold beforeAnchor
  split_ifs
  · simp
  · exact Nat.le_refl _

theorem anchorToken_mem (lineEnd : List Char) (prior : List Token) (last : Token) :
    anchorToken lineEnd prior last ∈ prior ++ [last] := by
  unfold anchorToken
  split_ifs
  · rcases List.eq_nil_or_concat' prior with rfl | ⟨init, token, rfl⟩ <;> simp
  · simp

/-- Whether a line is blank, or a directive alone on its line, or an import line that is ignored. -/
def Settings.skips (settings : Settings) (lineEnd : List Char) (prior : List Token)
    (last : Token) : Bool :=
  (last.column = 1 ∧ last.length = 0) ||
    (last.kind == .directive && prior.all (·.kind == .whitespace)) ||
    (settings.ignoreUseLines &&
      ((beforeAnchor lineEnd prior last).any (·.kind == .use) &&
        (beforeAnchor lineEnd prior last).any (·.kind == .namespaceSeparator)))

/-- The records of a line whose tokens start at the index `start`. -/
def Settings.judge (settings : Settings) (lineEnd : List Char) (start : Nat) (prior : List Token)
    (last : Token) : List Record :=
  if settings.skips lineEnd prior last then []
  else
    let anchor := anchorToken lineEnd prior last
    let index : Int := start + (beforeAnchor lineEnd prior last).length
    let observation : Record := .observation
      { anchor := index, line := anchor.line, value := (Bucket.ofLength last.endColumn).label }
    if settings.exemptsComment last then [observation]
    else
      observation ::
        ((settings.verdict? anchor index last.endColumn).map Record.diagnostic).toList

namespace TokenStream

variable {stream : TokenStream}

private theorem get_of_split {before after : List Token} {token : Token} {index : Int}
    (split : stream.tokens.toList = before ++ token :: after) (atIndex : index = before.length) :
    stream.get index = .ok token := by
  subst atIndex
  have present : stream.get? before.length = some token := by
    unfold get?
    rw [if_neg (by omega), Int.toNat_natCast, getElem?_of_split split]
  rw [get, present]

/-- The nearest wanted token before the anchor is on the line of the anchor exactly when the line
has a wanted token there at all: tokens of earlier lines are met only after all tokens of the
line. -/
private theorem searchBelow_onLine {wanted : Token → Bool} {low number : Nat}
    {earlier before after : List Token}
    (split : stream.tokens.toList = earlier ++ before ++ after)
    (others : ∀ token ∈ earlier, token.line < number) (own : ∀ token ∈ before, token.line = number)
    (window : low ≤ earlier.length) :
    ((stream.searchBelow wanted low (earlier.length + before.length)).any fun index =>
      stream.tokens[index]?.any (·.line == number)) = before.any wanted := by
  induction before using List.reverseRec generalizing after with
  | nil =>
    rw [List.length_nil, Nat.add_zero, List.any_nil, Option.any_eq_false]
    intro index found
    obtain ⟨⟨_, below, fits⟩, _⟩ := searchBelow_eq_some_iff.mp found
    obtain ⟨token, present, _⟩ := (Option.any_eq_true _ _).mp fits
    have member : token ∈ earlier := by
      rw [← Array.getElem?_toList, split, List.append_nil,
        List.getElem?_append_left below] at present
      exact List.mem_of_getElem? present
    have apart := others token member
    simp [present]
    omega
  | append_singleton before token ih =>
    have here : stream.tokens.toList = (earlier ++ before) ++ token :: after := by
      simpa using split
    have present := getElem?_of_split here
    rw [List.length_append] at present
    rw [List.length_append, List.length_singleton, ← Nat.add_assoc, searchBelow,
      if_neg (by omega), present, List.any_append]
    cases fits : wanted token with
    | true => simp [fits, present, own token (by simp)]
    | false =>
      have rest := @ih (token :: after) (by simpa using split)
        (fun other member => own other (by simp [member]))
      simpa [fits] using rest

/-- A search that starts just before the anchor looks at the tokens before it. -/
private theorem searchBack_eq {wanted : Token → Bool} {low : Nat}
    {earlier before after : List Token}
    (split : stream.tokens.toList = earlier ++ before ++ after) {anchor : Int}
    (atAnchor : anchor = earlier.length + before.length) :
    stream.searchBack wanted (anchor - 1) low =
      stream.searchBelow wanted low (earlier.length + before.length) := by
  have size : stream.size = earlier.length + before.length + after.length := by
    rw [TokenStream.size, ← Array.length_toList, split, List.length_append, List.length_append]
  unfold searchBack
  congr 1
  omega

section OnLine

variable {low : Nat} {earlier before after : List Token} {last : Token} {anchor : Int}
  (split : stream.tokens.toList = earlier ++ before ++ after)
  (others : ∀ token ∈ earlier, token.line < last.line)
  (own : ∀ token ∈ before, token.line = last.line)
  (window : low ≤ earlier.length) (atAnchor : anchor = earlier.length + before.length)

include split others own window atAnchor

private theorem hasOnLine_eq (kind : TokenKind) :
    stream.hasOnLine kind last anchor low = before.any (·.kind == kind) := by
  rw [hasOnLine, searchBack_eq split atAnchor]
  exact searchBelow_onLine split others own window

private theorem directiveStandsAlone_eq :
    stream.directiveStandsAlone last anchor low = before.all (·.kind == .whitespace) := by
  have nearest := @searchBelow_onLine stream (·.kind != .whitespace) low last.line earlier before
    after split others own window
  rw [directiveStandsAlone, searchBack_eq split atAnchor, ← Bool.not_inj_iff,
    List.not_all_eq_any_not]
  change _ = before.any (·.kind != .whitespace)
  rw [← nearest]
  split
  · rename_i found
    rw [found]
    rfl
  · rename_i index found
    obtain ⟨⟨_, _, fits⟩, _⟩ := searchBelow_eq_some_iff.mp found
    obtain ⟨token, present, _⟩ := (Option.any_eq_true _ _).mp fits
    rw [found, Option.any_some, present, Option.any_some, Option.any_some, bne, Bool.not_not]

end OnLine

/-- A line in its place in a stream: its own tokens `prior` and `last`, those of earlier lines
before them, and whatever comes after. -/
structure HasLine (stream : TokenStream) (tabWidth number : Nat) (line : Line)
    (earlier prior : List Token) (last : Token) (after : List Token) : Prop where
  split : stream.tokens.toList = earlier ++ (prior ++ [last]) ++ after
  others : ∀ token ∈ earlier, token.line < number
  laid : Laid tabWidth number line.ending 1 line.body (prior ++ [last])
  free : BreakFree line.body
  ends : ∃ terminator, stream.lineEnd = LineEnd.chars terminator

namespace HasLine

variable {tabWidth number : Nat} {line : Line} {earlier prior after : List Token} {last : Token}

theorem line_eq (place : HasLine stream tabWidth number line earlier prior last after) :
    last.line = number := place.laid.line_eq (by simp)

/-- The length of a line is the end column of its last token. -/
theorem endColumn_eq (place : HasLine stream tabWidth number line earlier prior last after) :
    last.endColumn = lineWidth tabWidth line.body := place.laid.endColumn_last place.free

/-- A directive is never a bare line end. -/
private theorem not_endsBare (place : HasLine stream tabWidth number line earlier prior last after)
    (directive : last.kind = .directive) : endsBare stream.lineEnd last = false := by
  obtain ⟨narrow, blank⟩ := place.laid.length_eq_zero_iff place.free
  obtain ⟨terminator, ends⟩ := place.ends
  by_contra bare
  simp only [endsBare, Bool.not_eq_false, decide_eq_true_eq] at bare
  have kind := (blank (narrow.mpr ⟨terminator, bare.2.trans ends⟩)).2
  rw [directive] at kind
  cases kind

/-- The anchor is the last token of its line, or the one before a bare line end. -/
theorem own_eq (place : HasLine stream tabWidth number line earlier prior last after) :
    prior ++ [last] = beforeAnchor stream.lineEnd prior last ++
      anchorToken stream.lineEnd prior last ::
        (if endsBare stream.lineEnd last then [last] else []) := by
  unfold beforeAnchor anchorToken
  split_ifs with bare
  · have inner : prior ≠ [] := by
      intro first
      simp only [endsBare, decide_eq_true_eq] at bare
      exact bare.1 ((place.laid.column_eq_one_iff place.free).mpr first)
    obtain ⟨init, token, rfl⟩ := (List.eq_nil_or_concat' prior).resolve_left inner
    simp
  · rfl

private theorem anchorIndex_eq
    (place : HasLine stream tabWidth number line earlier prior last after) :
    stream.anchorIndex (earlier.length + prior.length + 1 : Nat) last =
      earlier.length + (beforeAnchor stream.lineEnd prior last).length := by
  have count := congrArg List.length place.own_eq
  simp only [List.length_append, List.length_cons, List.length_nil, apply_ite List.length, endsBare,
    decide_eq_true_eq] at count
  unfold anchorIndex
  split_ifs at count ⊢ <;> omega

/-- The tokens around the anchor of a line. -/
theorem split_anchor (place : HasLine stream tabWidth number line earlier prior last after) :
    ∃ rest, stream.tokens.toList = earlier ++ beforeAnchor stream.lineEnd prior last ++
        anchorToken stream.lineEnd prior last :: rest ∧
      ∀ token ∈ beforeAnchor stream.lineEnd prior last ++ [anchorToken stream.lineEnd prior last],
        token.line = last.line := by
  refine ⟨(if endsBare stream.lineEnd last then [last] else []) ++ after, ?_, ?_⟩
  · rw [place.split, place.own_eq]
    simp
  · intro token member
    rw [place.line_eq]
    apply place.laid.line_eq
    rw [place.own_eq, List.append_cons]
    exact List.mem_append_left _ member

/-- Blank lines are the ones without a body. -/
theorem blank_iff (place : HasLine stream tabWidth number line earlier prior last after) :
    last.column = 1 ∧ last.length = 0 ↔ line.body = [] := by
  have width := place.endColumn_eq
  have placed := place.laid.length_lt_column place.free
  rw [Token.endColumn] at width
  rw [← @lineWidth_eq_zero_iff tabWidth, ← width]
  omega

/-- On a line with a body, the anchor stands before a bare line end of the source. -/
theorem endsBare_iff (place : HasLine stream tabWidth number line earlier prior last after)
    (visible : line.body ≠ []) :
    endsBare stream.lineEnd last = true ↔ last.content = stream.lineEnd := by
  obtain ⟨terminator, ends⟩ := place.ends
  simp only [endsBare, decide_eq_true_eq, and_iff_right_iff_imp]
  intro bare one
  have narrow := (place.laid.length_eq_zero_iff place.free).1.mpr ⟨terminator, bare.trans ends⟩
  exact visible (place.blank_iff.mp ⟨one, narrow⟩)

/-- The tokens before the anchor are those of the line with a smaller index. -/
private theorem mem_beforeAnchor_iff
    (place : HasLine stream tabWidth number line earlier prior last after) {token : Token} :
    token ∈ beforeAnchor stream.lineEnd prior last ↔
      ∃ position : Nat, (position : Int) <
          stream.anchorIndex (earlier.length + prior.length + 1 : Nat) last ∧
        stream.tokens[position]? = some token ∧ token.line = number := by
  obtain ⟨rest, around, onLine⟩ := place.split_anchor
  rw [place.anchorIndex_eq]
  constructor
  · intro member
    obtain ⟨offset, small, rfl⟩ := List.mem_iff_getElem.mp member
    refine ⟨earlier.length + offset, by omega, ?_, ?_⟩
    · rw [← Array.getElem?_toList, around, List.append_assoc, List.getElem?_append_right (by omega),
        Nat.add_sub_cancel_left, List.getElem?_append_left small, List.getElem?_eq_getElem small]
    · exact (onLine _ (List.mem_append_left _ member)).trans place.line_eq
  · rintro ⟨position, below, present, same⟩
    rw [← Array.getElem?_toList, around, List.getElem?_append_left (by simp; omega)] at present
    rcases List.mem_append.mp (List.mem_of_getElem? present) with member | member
    · have apart := place.others token member
      omega
    · exact member

/-- The tokens of a line start behind those of earlier lines. -/
private theorem start_le (place : HasLine stream tabWidth number line earlier prior last after)
    {position : Nat} {token : Token} (present : stream.tokens[position]? = some token)
    (same : token.line = number) : earlier.length ≤ position := by
  by_contra before
  rw [← Array.getElem?_toList, place.split, List.append_assoc,
    List.getElem?_append_left (by omega)] at present
  have apart := place.others token (List.mem_of_getElem? present)
  omega

/-- The window of the backward searches starts at or before the first token of the line. -/
private theorem window_le (place : HasLine stream tabWidth number line earlier prior last after) :
    (earlier.length + (beforeAnchor stream.lineEnd prior last).length -
      last.endColumn : Int).toNat ≤ earlier.length := by
  have count := place.laid.length_lt_column place.free
  have fewer := length_beforeAnchor_le stream.lineEnd prior last
  rw [Token.endColumn]
  omega

/-- Checking a line gives what the line's own tokens say, whatever stands around them. -/
theorem checkLine_eq (place : HasLine stream tabWidth number line earlier prior last after)
    (settings : Settings) :
    stream.checkLine settings (earlier.length + prior.length + 1 : Nat) =
      .ok (settings.judge stream.lineEnd earlier.length prior last) := by
  obtain ⟨rest, around, onLine⟩ := place.split_anchor
  have others : ∀ token ∈ earlier, token.line < last.line := fun token member =>
    place.line_eq ▸ place.others token member
  have own : ∀ token ∈ beforeAnchor stream.lineEnd prior last, token.line = last.line :=
    fun token member => onLine token (List.mem_append_left _ member)
  have atLast : stream.tokens.toList = (earlier ++ prior) ++ last :: after := by
    simpa using place.split
  have getLast : stream.get ((earlier.length + prior.length + 1 : Nat) - 1) = .ok last :=
    get_of_split atLast (by rw [List.length_append]; omega)
  have getAnchor : stream.get (earlier.length + (beforeAnchor stream.lineEnd prior last).length) =
      .ok (anchorToken stream.lineEnd prior last) :=
    get_of_split around (by simp)
  have alone := directiveStandsAlone_eq around others own place.window_le rfl
  have imports := hasOnLine_eq around others own place.window_le rfl
  -- a directive is its own anchor, so the tokens before the anchor are all others
  have directive : (last.kind = .directive ∧
      (beforeAnchor stream.lineEnd prior last).all (·.kind == .whitespace) = true) ↔
      (last.kind == .directive && prior.all (·.kind == .whitespace)) = true := by
    rw [Bool.and_eq_true, beq_iff_eq]
    refine and_congr_right fun directive => ?_
    rw [beforeAnchor, place.not_endsBare directive]
    rfl
  unfold checkLine Settings.judge Settings.skips
  rw [getLast]
  simp only [bind, Except.bind, pure, Except.pure, place.anchorIndex_eq, getAnchor, isImportLine,
    alone, imports, directive]
  by_cases blank : last.column = 1 ∧ last.length = 0
  · simp [blank]
  by_cases lone : (last.kind == .directive && prior.all (·.kind == .whitespace)) = true
  · simp only [blank, lone, decide_false, Bool.false_or, Bool.true_or, if_true, if_false]
  · simp only [blank, Bool.eq_false_of_not_eq_true lone, decide_false, Bool.false_or,
      Bool.false_eq_true, if_false, ← Bool.and_eq_true]
    split_ifs <;> rfl

end HasLine

/-- The lines that are found in the stream of a source are its physical lines, each in its place. -/
theorem ofSource_lines (source : List Char) (tabWidth : Nat) :
    ∃ lines, Line.Cut source lines ∧
      (ofSource source tabWidth).lineStarts.length = lines.length ∧
      ∀ index line, lines[index]? = some line → ∃ earlier prior last after,
        HasLine (ofSource source tabWidth) tabWidth (index + 1) line earlier prior last after ∧
        onLine (ofSource source tabWidth).tokens.toList (index + 1) = prior ++ [last] ∧
        (ofSource source tabWidth).lineStarts[index]? =
          some (earlier.length + prior.length + 1) := by
  obtain ⟨lines, groups, cut, flat, paged⟩ := ofSource_paged source tabWidth
  have opens := paged.opens fun line member => (cut.of_mem member).1
  have pointers := lineStarts_eq flat opens
  refine ⟨lines, cut, ?_, ?_⟩
  · rw [pointers, length_groupEnds, paged.length_eq]
  · intro index line present
    obtain ⟨first, group, second, rfl, rfl, laid, lower, upper⟩ := paged.split present
    obtain ⟨prior, last, rfl⟩ := laid.exists_last
    rw [Nat.add_comm 1] at laid lower upper
    refine ⟨first.flatten, prior, last, second.flatten, ⟨?_, lower, laid, ?_, ⟨_, rfl⟩⟩, ?_, ?_⟩
    · simp [flat]
    · exact (cut.of_mem (List.mem_of_getElem? present)).1
    · rw [flat, onLine_split (fun _ => laid.line_eq) lower upper]
    · rw [pointers, groupEnds_append]
      simp
      omega

end TokenStream

/-- Only a skipped line leaves no record. -/
theorem Settings.judge_eq_nil_iff (settings : Settings) (lineEnd : List Char) (start : Nat)
    (prior : List Token) (last : Token) :
    settings.judge lineEnd start prior last = [] ↔ settings.skips lineEnd prior last = true := by
  unfold Settings.judge
  split_ifs <;> simp_all

namespace TokenStream

/-- Whether a token of some kind stands on a line, at an index below the anchor. -/
def HasBelow (stream : TokenStream) (number : Nat) (anchor : Int) (kind : TokenKind) : Prop :=
  ∃ (position : Nat) (token : Token), (position : Int) < anchor ∧
    stream.tokens[position]? = some token ∧ token.line = number ∧ token.kind = kind

private theorem HasLine.any_beforeAnchor {stream : TokenStream} {tabWidth number : Nat}
    {line : Line} {earlier prior after : List Token} {last : Token}
    (place : HasLine stream tabWidth number line earlier prior last after) (kind : TokenKind) :
    (beforeAnchor stream.lineEnd prior last).any (·.kind == kind) = true ↔
      stream.HasBelow number (stream.anchorIndex (earlier.length + prior.length + 1 : Nat) last)
        kind := by
  simp only [List.any_eq_true, beq_iff_eq, place.mem_beforeAnchor_iff, HasBelow]
  constructor
  · rintro ⟨token, ⟨position, below, present, same⟩, fits⟩
    exact ⟨position, token, below, present, same, fits⟩
  · rintro ⟨position, token, below, present, same, fits⟩
    exact ⟨token, ⟨position, below, present, same⟩, fits⟩

/-- The lines without a record are exactly the blank ones, the directives that share their line with
whitespace only, and, where import lines are ignored, those with a `use` and a namespace separator
before the anchor. The window of the searches never cuts off a token of the line, and what it holds
of earlier lines does not matter. -/
theorem checkLine_skips_iff (source : List Char) (tabWidth : Nat) (settings : Settings) :
    ∃ lines, Line.Cut source lines ∧
      (ofSource source tabWidth).lineStarts.length = lines.length ∧
      ∀ (index : Nat) (line : Line), lines[index]? = some line →
        ∃ (pointer : Nat) (prior : List Token) (last : Token) (records : List Record),
        (ofSource source tabWidth).lineStarts[index]? = some pointer ∧
        onLine (ofSource source tabWidth).tokens.toList (index + 1) = prior ++ [last] ∧
        (ofSource source tabWidth).checkLine settings pointer = .ok records ∧
        let anchor : Int :=
          if last.content = (ofSource source tabWidth).lineEnd then pointer - 2 else pointer - 1
        (records = [] ↔
          line.body = [] ∨
          (last.kind = .directive ∧ ∀ token ∈ prior, token.kind = .whitespace) ∨
          (settings.ignoreUseLines = true ∧
            (ofSource source tabWidth).HasBelow (index + 1) anchor .use ∧
            (ofSource source tabWidth).HasBelow (index + 1) anchor .namespaceSeparator)) ∧
        ∀ (position : Nat) (token : Token),
          (ofSource source tabWidth).tokens[position]? = some token → token.line = index + 1 →
          max 0 (anchor - last.endColumn) ≤ position := by
  obtain ⟨lines, cut, count, place⟩ := ofSource_lines source tabWidth
  refine ⟨lines, cut, count, ?_⟩
  intro index line present
  obtain ⟨earlier, prior, last, after, place, own, pointer⟩ := place index line present
  refine ⟨_, prior, last, _, pointer, own, place.checkLine_eq settings, ?_⟩
  intro anchor
  constructor
  · rw [Settings.judge_eq_nil_iff, Settings.skips]
    by_cases blank : line.body = []
    · simp [blank, place.blank_iff]
    · have atAnchor : anchor = (ofSource source tabWidth).anchorIndex
          (earlier.length + prior.length + 1 : Nat) last := by
        have bare := place.endsBare_iff blank
        simp only [endsBare, decide_eq_true_eq] at bare
        simp only [anchor, anchorIndex, bare]
      simp only [Bool.or_eq_true, Bool.and_eq_true, decide_eq_true_eq, place.blank_iff,
        place.any_beforeAnchor, List.all_eq_true, beq_iff_eq, atAnchor, or_assoc]
  · intro position token present same
    have start := place.start_le present same
    have window := place.window_le
    have index := place.anchorIndex_eq
    have notAfter : anchor ≤ (ofSource source tabWidth).anchorIndex
        (earlier.length + prior.length + 1 : Nat) last := by
      simp only [anchor, anchorIndex]
      by_cases bare : last.content = (ofSource source tabWidth).lineEnd
      · rw [if_pos bare]
        split_ifs <;> omega
      · rw [if_neg bare, if_neg fun both => bare both.2]
    omega

end TokenStream

end LineWidth
