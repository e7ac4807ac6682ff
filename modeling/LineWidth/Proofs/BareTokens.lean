import LineWidth.Proofs.RecordStream

/-! # Tokens without their line ends

Line ends get into the contents of tokens, and from there into the search for a bare line end and
into the text of a comment whose last word is measured. The records of a line see nothing of them
but one thing: whether the last token is a bare line end, and one that the source uses. `Alike`
lines agree on this and on all tokens without their line ends, and they have the same records.
-/

namespace LineWidth

/-- The token without the line end that it may own. -/
def Token.bare (token : Token) : Token := { token with content := token.visible }

/-- The part without the line end that it may own. -/
def Part.bare (part : Part) : Part := { part with ending := none }

/-- A token without its line end is of the same kind and in the same place. -/
private theorem Token.of_bare_eq {token other : Token} (same : token.bare = other.bare) :
    token.kind = other.kind ∧ token.line = other.line ∧ token.column = other.column ∧
      token.length = other.length := by
  simp only [Token.bare, Token.mk.injEq] at same
  exact ⟨same.1, same.2.2⟩

/-- The content of a token is what it shows and then at most a line end. -/
def Token.Shows (token : Token) : Prop :=
  ∃ ending : Option LineEnd, token.content = token.visible ++ ending.elim [] LineEnd.chars

theorem Laid.shows {tabWidth number : Nat} {ending : Option LineEnd} {body : List Char}
    {tokens : List Token} (laid : Laid tabWidth number ending 1 body tokens)
    (free : BreakFree body) {token : Token} (member : token ∈ tokens) : token.Shows := by
  obtain ⟨prior, next, rfl⟩ := List.append_of_mem member
  obtain ⟨text, rest, whole, _, _, content⟩ := laid.token (Nat.le_refl 1) rfl
  have textFree : BreakFree text := (whole ▸ free).middle
  rcases content with ⟨_, _, content⟩ | ⟨_, _, content, _⟩
  · have content : token.content = text ++ Option.elim none [] LineEnd.chars := by
      simpa using content
    exact ⟨none, by rw [Token.visible_eq textFree content, content]⟩
  · exact ⟨ending, by rw [Token.visible_eq textFree content, content]⟩

/-- Whether a comment can be wrapped does not depend on its line end. -/
theorem Token.isUnbreakable_bare {token : Token} (shows : token.Shows) (limit : Nat) :
    token.bare.isUnbreakable limit = token.isUnbreakable limit := by
  obtain ⟨ending, content⟩ := shows
  have ends : ∀ c ∈ ending.elim [] LineEnd.chars, c = '\r' ∨ c = '\n' := by
    cases ending with
    | none => simp
    | some ending => exact ending.mem_chars
  generalize ending.elim [] LineEnd.chars = breaks at content ends
  have marks : token.content.takeWhile isCommentMark = token.visible.takeWhile isCommentMark := by
    have stop : breaks.takeWhile isCommentMark = [] := by
      cases breaks with
      | nil => rfl
      | cons c rest => rcases ends c (List.mem_cons_self ..) with rfl | rfl <;> rfl
    rw [content, List.takeWhile_append, stop]
    split_ifs with all
    · rw [List.append_nil, (List.takeWhile_prefix _).eq_of_length all]
    · rfl
  have space : lastSpaceEnd token.content = lastSpaceEnd token.visible := by
    have apart : ∀ c ∈ breaks.reverse, (c != ' ') = true := by
      intro c member
      rcases ends c (List.mem_reverse.mp member) with rfl | rfl <;> rfl
    unfold lastSpaceEnd
    rw [content, List.reverse_append, List.takeWhile_append_of_pos apart, List.length_append,
      List.length_append, List.length_reverse]
    omega
  unfold Token.isUnbreakable
  rw [marks, space]
  rfl

/-- Two lines whose tokens differ in their line ends only, and of which both or none end with a bare
line end of their source. -/
structure Alike (first second : List Char) (prior prior' : List Token) (last last' : Token) :
    Prop where
  before : prior.map Token.bare = prior'.map Token.bare
  same : last.bare = last'.bare
  shows : last.Shows
  shows' : last'.Shows
  ends : endsBare first last = endsBare second last'

section Alike

variable {first second : List Char} {prior prior' : List Token} {last last' : Token}
  (alike : Alike first second prior prior' last last')

include alike

private theorem Alike.map_beforeAnchor :
    (beforeAnchor first prior last).map Token.bare =
      (beforeAnchor second prior' last').map Token.bare := by
  unfold beforeAnchor
  rw [alike.ends]
  split_ifs
  · rw [List.map_dropLast, List.map_dropLast, alike.before]
  · exact alike.before

private theorem Alike.bare_anchorToken :
    (anchorToken first prior last).bare = (anchorToken second prior' last').bare := by
  unfold anchorToken
  rw [alike.ends]
  split_ifs
  · have behind := congrArg List.getLast? alike.before
    rw [List.getLast?_map, List.getLast?_map] at behind
    cases left : prior.getLast? <;> cases right : prior'.getLast? <;> simp_all [alike.same]
  · exact alike.same

private theorem Alike.any_beforeAnchor (kind : TokenKind) :
    (beforeAnchor first prior last).any (·.kind == kind) =
      (beforeAnchor second prior' last').any (·.kind == kind) := by
  have kinds := congrArg (List.any · (·.kind == kind)) alike.map_beforeAnchor
  simp only [List.any_map] at kinds
  exact kinds

private theorem Alike.skips_eq (settings : Settings) :
    settings.skips first prior last = settings.skips second prior' last' := by
  have blanks := congrArg (List.all · (·.kind == .whitespace)) alike.before
  simp only [List.all_map] at blanks
  obtain ⟨kind, _, column, length⟩ := Token.of_bare_eq alike.same
  unfold Settings.skips
  rw [alike.any_beforeAnchor, alike.any_beforeAnchor, kind, column, length]
  exact congrArg (fun alone => _ || (_ && alone) || _) blanks

private theorem Alike.exemptsComment_eq (settings : Settings) :
    settings.exemptsComment last = settings.exemptsComment last' := by
  have wraps : last.isUnbreakable settings.lineLimit = last'.isUnbreakable settings.lineLimit := by
    rw [← Token.isUnbreakable_bare alike.shows, alike.same, Token.isUnbreakable_bare alike.shows']
  obtain ⟨kind, _, column, length⟩ := Token.of_bare_eq alike.same
  unfold Settings.exemptsComment Token.endColumn
  rw [kind, column, length, wraps]

/-- Alike lines have the same records. -/
private theorem Alike.judge_eq (settings : Settings) (start : Nat) :
    settings.judge first start prior last = settings.judge second start prior' last' := by
  have count := congrArg List.length alike.map_beforeAnchor
  rw [List.length_map, List.length_map] at count
  obtain ⟨_, line, column, _⟩ := Token.of_bare_eq alike.bare_anchorToken
  have reach : last.endColumn = last'.endColumn := by
    obtain ⟨_, _, column, length⟩ := Token.of_bare_eq alike.same
    rw [Token.endColumn, Token.endColumn, column, length]
  unfold Settings.judge Settings.verdict?
  simp only [alike.skips_eq, alike.exemptsComment_eq, count, line, column, reach]

end Alike

section Tokens

variable {tabWidth number : Nat}

/-- Placing parts without their line ends gives the tokens without theirs. -/
theorem placeOnto_bare {parts : List Part} (free : ∀ part ∈ parts, BreakFree part.text)
    (column : Nat) :
    (placeOnto tabWidth number column [] parts).map Token.bare =
      placeOnto tabWidth number column [] (parts.map Part.bare) := by
  induction parts generalizing column with
  | nil => rfl
  | cons part rest ih =>
    have shown : Token.visible ⟨part.kind, part.content, number, column,
        renderedWidth tabWidth column part.text⟩ = part.text :=
      Token.visible_eq (free part (List.mem_cons_self ..)) rfl
    have tail := ih fun other member => free other (List.mem_cons_of_mem _ member)
    rw [placeOnto_cons, List.map_cons, List.map_cons, placeOnto_cons, tail, Token.bare, shown]
    simp [Part.bare, Part.content]

/-- Which line end is given away does not matter to the parts without it. -/
private theorem withEnd_bare (mode : Mode) (first second : LineEnd) (parts : List Part) :
    (withEnd mode (some first) parts).map Part.bare =
      (withEnd mode (some second) parts).map Part.bare := by
  rcases List.eq_nil_or_concat' parts with rfl | ⟨init, last, rfl⟩
  · rfl
  · cases owns : last.ownsEnd mode <;> simp [withEnd, endParts, owns, Part.bare]

/-- Neither does it matter to the tokens. -/
theorem Line.tokens_bare {body : List Char} (free : BreakFree body) (mode : Mode)
    (first second : LineEnd) :
    (Line.tokens tabWidth number mode ⟨body, some first⟩).1.map Token.bare =
      (Line.tokens tabWidth number mode ⟨body, some second⟩).1.map Token.bare := by
  obtain ⟨parts, final, _, split⟩ := Line.parts_eq mode body
  have texts (ending : LineEnd) :
      ∀ part ∈ withEnd final (some ending) parts, BreakFree part.text := by
    have covers := Line.parts_covers mode ⟨body, some ending⟩
      (by simp [Line.text, Line.endChars, ending.chars_ne_nil])
    rw [split] at covers
    exact fun _ => covers.breakFree free
  unfold Line.tokens
  rw [split, split, placeOnto_bare (texts first), placeOnto_bare (texts second),
    withEnd_bare final first second]

end Tokens

section Records

variable {tabWidth number : Nat} {ending ending' : Option LineEnd} {body : List Char}
  {prior group group' : List Token} {last : Token}

/-- A bare line end of the source has no width and ends its line as the source ends lines. -/
private theorem Laid.endsBare_iff (laid : Laid tabWidth number ending 1 body (prior ++ [last]))
    (free : BreakFree body) (lineEnd : LineEnd) :
    endsBare lineEnd.chars last = true ↔
      last.column ≠ 1 ∧ last.length = 0 ∧ ending = some lineEnd := by
  simp only [endsBare, decide_eq_true_eq]
  refine and_congr_right fun _ => ?_
  constructor
  · intro same
    have narrow := (laid.length_eq_zero_iff free).1.mpr ⟨lineEnd, same⟩
    obtain ⟨own, ended, content⟩ := laid.content_of_narrow free narrow
    exact ⟨narrow, by rw [ended, LineEnd.chars_injective (content.symm.trans same)]⟩
  · rintro ⟨narrow, ended⟩
    obtain ⟨own, same, content⟩ := laid.content_of_narrow free narrow
    rw [ended] at same
    rw [content, Option.some.inj same]

/-- Two lines whose tokens differ in their line ends only have the same records when both or none of
them end as their sources do. A line without an end may also be compared with one that has any. -/
theorem Settings.judgeGroup_alike (settings : Settings) {first second : LineEnd}
    (laid : Laid tabWidth number ending 1 body group)
    (laid' : Laid tabWidth number ending' 1 body group') (free : BreakFree body)
    (bare : group.map Token.bare = group'.map Token.bare)
    (ends : ending ≠ none → (ending = some first ↔ ending' = some second)) (start : Nat) :
    settings.judgeGroup first.chars start group =
      settings.judgeGroup second.chars start group' := by
  obtain ⟨prior, last, rfl⟩ := laid.exists_last
  obtain ⟨prior', last', rfl⟩ := laid'.exists_last
  rw [List.map_append, List.map_append] at bare
  obtain ⟨before, same⟩ := List.append_singleton_inj.mp bare
  obtain ⟨_, _, column, length⟩ := Token.of_bare_eq same
  have stop : endsBare first.chars last = endsBare second.chars last' := by
    rw [Bool.eq_iff_iff, laid.endsBare_iff free, laid'.endsBare_iff free, column, length]
    refine and_congr_right fun _ => and_congr_right fun narrow => ends ?_
    obtain ⟨own, ended, _⟩ := laid.content_of_narrow free (length.trans narrow)
    simp [ended]
  have alike : Alike first.chars second.chars prior prior' last last' :=
    ⟨before, same, laid.shows free (by simp), laid'.shows free (by simp), stop⟩
  rw [judgeGroup_concat, judgeGroup_concat, alike.judge_eq]

end Records

end LineWidth
