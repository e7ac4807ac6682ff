import LineWidth.Proofs.LineParts
import LineWidth.Proofs.LineRun
import LineWidth.Proofs.RenderedWidth

/-! # The layout of tokens

`Laid` says where the tokens of one line stand and `Paged` puts the lines of a source one after the
other. Both speak about tokens only and not about how the text was classified, so what is derived
from them holds in every lexical mode and for every way of splitting a line. Main results: lexing
loses no text, and every token stands where one rendering of its whole line puts it.
-/

namespace LineWidth

/-- The tokens of one line, in order. -/
def onLine (tokens : List Token) (number : Nat) : List Token :=
  tokens.filter fun token => token.line == number

@[simp] theorem mem_onLine {tokens : List Token} {number : Nat} {token : Token} :
    token ∈ onLine tokens number ↔ token ∈ tokens ∧ token.line = number := by
  simp [onLine]

theorem onLine_append_cons (before : List Token) (token : Token) (after : List Token) :
    onLine (before ++ token :: after) token.line =
      onLine before token.line ++ token :: onLine after token.line := by
  simp [onLine]

theorem onLine_eq_nil_iff {tokens : List Token} {number : Nat} :
    onLine tokens number = [] ↔ ∀ token ∈ tokens, token.line ≠ number := by
  simp [onLine]

/-- The text of a token without its line end. -/
def Token.visible (token : Token) : List Char :=
  token.content.takeWhile fun c => c ≠ '\r' ∧ c ≠ '\n'

/-- The tokens of a text that starts at a column of line `number` and is ended by `ending`. -/
inductive Laid (tabWidth number : Nat) (ending : Option LineEnd) :
    Nat → List Char → List Token → Prop
  | last {column : Nat} {text : List Char} {kind : TokenKind}
      (visible : text ++ ending.elim [] LineEnd.chars ≠ [])
      (blank : text = [] → kind = .whitespace) :
      Laid tabWidth number ending column text
        [⟨kind, text ++ ending.elim [] LineEnd.chars, number, column,
          renderedWidth tabWidth column text⟩]
  | cons {column : Nat} {text body : List Char} {kind : TokenKind} {tokens : List Token}
      (visible : text ≠ [])
      (tail : Laid tabWidth number ending (column + renderedWidth tabWidth column text) body
        tokens) :
      Laid tabWidth number ending column (text ++ body)
        (⟨kind, text, number, column, renderedWidth tabWidth column text⟩ :: tokens)

/-- The tokens of lines that are numbered from `number` on, one group for each line. -/
inductive Paged (tabWidth : Nat) : Nat → List Line → List (List Token) → Prop
  | nil {number : Nat} : Paged tabWidth number [] []
  | cons {number : Nat} {line : Line} {lines : List Line} {group : List Token}
      {groups : List (List Token)} (laid : Laid tabWidth number line.ending 1 line.body group)
      (tail : Paged tabWidth (number + 1) lines groups) :
      Paged tabWidth number (line :: lines) (group :: groups)

section Placing

variable {tabWidth number : Nat}

private theorem placeOnto_eq (column : Nat) (placed : List Token) (parts : List Part) :
    placeOnto tabWidth number column placed parts =
      placed.reverse ++ placeOnto tabWidth number column [] parts := by
  induction parts generalizing column placed with
  | nil => simp [placeOnto]
  | cons part rest ih =>
    simp only [placeOnto]
    rw [ih _ (_ :: placed), ih _ [_]]
    simp

theorem placeOnto_cons (column : Nat) (part : Part) (parts : List Part) :
    placeOnto tabWidth number column [] (part :: parts) =
      ⟨part.kind, part.content, number, column, renderedWidth tabWidth column part.text⟩ ::
        placeOnto tabWidth number (column + renderedWidth tabWidth column part.text) [] parts := by
  rw [placeOnto, placeOnto_eq]
  rfl

/-- Parts are placed behind those before them, from a column that these alone determine. -/
theorem placeOnto_append (column : Nat) (first : List Part) :
    ∃ next, column ≤ next ∧ ∀ second, placeOnto tabWidth number column [] (first ++ second) =
      placeOnto tabWidth number column [] first ++ placeOnto tabWidth number next [] second := by
  induction first generalizing column with
  | nil => exact ⟨column, Nat.le_refl column, fun _ => rfl⟩
  | cons part rest ih =>
    obtain ⟨next, placed, tail⟩ := ih (column + renderedWidth tabWidth column part.text)
    refine ⟨next, by omega, ?_⟩
    intro second
    rw [List.cons_append, placeOnto_cons, placeOnto_cons, tail, List.cons_append]

/-- Placing parts that cover a line lays out its tokens. -/
private theorem Covers.laid {ending : Option LineEnd} {body : List Char} {parts : List Part}
    (covers : Covers ending body parts) (column : Nat) :
    Laid tabWidth number ending column body (placeOnto tabWidth number column [] parts) := by
  induction covers generalizing column with
  | @last part owns visible blank =>
    have content : part.content = part.text ++ ending.elim [] LineEnd.chars := by
      rw [Part.content, owns]
    rw [content] at visible
    simpa only [placeOnto, List.reverse_singleton, content] using Laid.last visible blank
  | @cons part body parts bare visible tail ih =>
    have content : part.content = part.text := by simp [Part.content, bare]
    rw [placeOnto_cons, content]
    exact .cons visible (ih _)

theorem Line.tokens_laid (mode : Mode) {line : Line} (visible : line.text ≠ []) :
    Laid tabWidth number line.ending 1 line.body (line.tokens tabWidth number mode).1 :=
  (line.parts_covers mode visible).laid 1

/-- The groups of lines that are not empty are laid out line by line. -/
theorem tokenGroups_paged (mode : Mode) (lines : List Line)
    (visible : ∀ line ∈ lines, line.text ≠ []) :
    Paged tabWidth number lines (tokenGroups tabWidth number mode lines) := by
  induction lines generalizing number mode with
  | nil => exact .nil
  | cons line rest ih =>
    exact .cons (line.tokens_laid mode (visible line (List.mem_cons_self ..)))
      (ih _ fun other member => visible other (List.mem_cons_of_mem _ member))

/-- The groups of a source are laid out on its physical lines. -/
theorem tokenGroups_ofText_paged (mode : Mode) (source : List Char) :
    Paged tabWidth number (Line.ofText source)
      (tokenGroups tabWidth number mode (Line.ofText source)) :=
  tokenGroups_paged mode _ fun _ member => ((Line.ofText_cut source).of_mem member).2

end Placing

/-- A run of the lexer, from any mode, lays out the physical lines of its source. -/
private theorem Lexer.run_paged (lexer : Lexer) :
    ∃ lines groups, Line.Cut lexer.source lines ∧ lexer.run.1.toList = groups.flatten ∧
      Paged lexer.tabWidth 1 lines groups := by
  exact ⟨Line.ofText lexer.source, _, Line.ofText_cut lexer.source,
    (lexOnto_eq lexer.tabWidth 1 lexer.mode #[] _).1, tokenGroups_ofText_paged lexer.mode _⟩

/-- The stream of a source lays out its physical lines. -/
theorem TokenStream.ofSource_paged (source : List Char) (tabWidth : Nat) :
    ∃ lines groups, Line.Cut source lines ∧
      (ofSource source tabWidth).tokens.toList = groups.flatten ∧
      Paged tabWidth 1 lines groups :=
  Lexer.run_paged ⟨source, tabWidth, .code⟩

/-- What stands before the end of a line is what a token shows. -/
theorem Token.visible_eq {token : Token} {text : List Char} {ending : Option LineEnd}
    (free : BreakFree text) (content : token.content = text ++ ending.elim [] LineEnd.chars) :
    token.visible = text := by
  have whole : ∀ c ∈ text, decide (c ≠ '\r' ∧ c ≠ '\n') = true := fun c member => by
    simpa using free c member
  rw [Token.visible, content, List.takeWhile_append_of_pos whole]
  cases ending with
  | none => simp
  | some ending =>
    obtain ⟨c, rest, chars, breaks⟩ := ending.exists_chars
    rcases breaks with rfl | rfl <;> simp [chars]

section Laid

variable {tabWidth number column : Nat} {ending : Option LineEnd} {body : List Char}
  {tokens : List Token}

theorem Laid.ne_nil (laid : Laid tabWidth number ending column body tokens) : tokens ≠ [] := by
  cases laid <;> exact List.cons_ne_nil _ _

theorem Laid.exists_last (laid : Laid tabWidth number ending column body tokens) :
    ∃ prior last, tokens = prior ++ [last] :=
  (List.eq_nil_or_concat' tokens).resolve_left laid.ne_nil

theorem Laid.line_eq (laid : Laid tabWidth number ending column body tokens) {token : Token}
    (member : token ∈ tokens) : token.line = number := by
  induction laid with
  | last visible blank => rw [List.mem_singleton.mp member]
  | cons visible tail ih =>
    rcases List.mem_cons.mp member with rfl | member
    · rfl
    · exact ih member

theorem Laid.flatMap_content (laid : Laid tabWidth number ending column body tokens) :
    tokens.flatMap Token.content = body ++ ending.elim [] LineEnd.chars := by
  induction laid with
  | last visible blank => simp
  | cons visible tail ih => rw [List.flatMap_cons, ih, List.append_assoc]

/-- A token starts where the tokens before it end. Its text is the next piece of the line, which is
not empty and is the whole content unless the token is the last one of its line. -/
theorem Laid.token (laid : Laid tabWidth number ending column body tokens) (placed : 1 ≤ column)
    {before after : List Token} {token : Token} (split : tokens = before ++ token :: after) :
    ∃ text rest, body = before.flatMap Token.content ++ text ++ rest ∧
      token.column = columnAfter tabWidth column (before.flatMap Token.content) ∧
      token.length = renderedWidth tabWidth token.column text ∧
      (after ≠ [] ∧ text ≠ [] ∧ token.content = text ∨
        after = [] ∧ rest = [] ∧ token.content = text ++ ending.elim [] LineEnd.chars ∧
          token.content ≠ [] ∧ (text = [] → token.kind = .whitespace)) := by
  induction laid generalizing before with
  | @last column text kind visible blank =>
    cases before with
    | nil =>
      obtain ⟨rfl, rfl⟩ := List.cons.inj split
      exact ⟨text, [], by simp, rfl, rfl, .inr ⟨rfl, rfl, rfl, visible, blank⟩⟩
    | cons first before => simp at split
  | @cons column text body kind tokens visible tail ih =>
    cases before with
    | nil =>
      obtain ⟨rfl, rfl⟩ := List.cons.inj split
      exact ⟨text, body, by simp, rfl, rfl, .inl ⟨tail.ne_nil, visible, rfl⟩⟩
    | cons first before =>
      obtain ⟨rfl, later⟩ := List.cons.inj split
      obtain ⟨piece, rest, whole, start, length, content⟩ := ih (by omega) later
      refine ⟨piece, rest, ?_, ?_, length, content⟩
      · simp [whole]
      · rw [start, List.flatMap_cons, columnAfter_append, add_renderedWidth _ _ _ placed]

variable {prior next : List Token} {token : Token}

/-- Every token has a content: its text, or at the end of a line at least the line end. -/
private theorem Laid.content_ne_nil (laid : Laid tabWidth number ending 1 body tokens)
    {token : Token} (member : token ∈ tokens) : token.content ≠ [] := by
  obtain ⟨prior, next, rfl⟩ := List.append_of_mem member
  obtain ⟨text, rest, _, _, _, content⟩ := laid.token (Nat.le_refl 1) rfl
  rcases content with ⟨_, visible, same⟩ | ⟨_, _, _, visible, _⟩
  · rwa [same]
  · exact visible

/-- In a whole line, columns count the rendered text before a token and up to its end. -/
theorem Laid.place (laid : Laid tabWidth number ending 1 body (prior ++ token :: next))
    (free : BreakFree body) :
    token.column = 1 + lineWidth tabWidth (prior.flatMap Token.content) ∧
      token.column + token.length =
        1 + lineWidth tabWidth (prior.flatMap Token.content ++ token.visible) := by
  obtain ⟨text, rest, whole, start, length, content⟩ := laid.token (Nat.le_refl 1) rfl
  rw [← one_add_lineWidth] at start
  have textFree : BreakFree text := (whole ▸ free).middle
  have shown : token.visible = text := by
    rcases content with ⟨_, _, content⟩ | ⟨_, _, content, _⟩
    · exact @Token.visible_eq token text none textFree (by simpa using content)
    · exact Token.visible_eq textFree content
  refine ⟨start, ?_⟩
  rw [shown, lineWidth_append, length, start]
  omega

/-- A token without width is a bare line end, which is whitespace and the last token of its line. -/
theorem Laid.length_eq_zero_iff (laid : Laid tabWidth number ending 1 body (prior ++ token :: next))
    (free : BreakFree body) :
    (token.length = 0 ↔ ∃ bare, token.content = LineEnd.chars bare) ∧
      (token.length = 0 → next = [] ∧ token.kind = .whitespace) := by
  obtain ⟨text, rest, whole, start, length, content⟩ := laid.token (Nat.le_refl 1) rfl
  have placed : 1 ≤ token.column := by
    rw [start, ← one_add_lineWidth]
    omega
  have textFree : BreakFree text := (whole ▸ free).middle
  rw [length, renderedWidth_eq_zero_iff placed]
  rcases content with ⟨_, visible, rfl⟩ | ⟨last, _, content, visible, blank⟩
  · refine ⟨⟨fun none => absurd none visible, ?_⟩, fun none => absurd none visible⟩
    rintro ⟨bare, same⟩
    exact textFree.eq_nil_of_append ((List.append_nil _).trans same)
  · refine ⟨⟨?_, ?_⟩, fun none => ⟨last, blank none⟩⟩
    · rintro rfl
      cases ending with
      | none => exact absurd content visible
      | some bare => exact ⟨bare, content⟩
    · rintro ⟨bare, same⟩
      exact textFree.eq_nil_of_append (content.symm.trans same)

private theorem length_le_flatMap_content {tokens : List Token}
    (filled : ∀ token ∈ tokens, token.content ≠ []) :
    tokens.length ≤ (tokens.flatMap Token.content).length := by
  induction tokens with
  | nil => exact Nat.le_refl 0
  | cons token rest ih =>
    have here := List.length_pos_of_ne_nil (filled token (List.mem_cons_self ..))
    have there := ih fun other member => filled other (List.mem_cons_of_mem _ member)
    rw [List.flatMap_cons, List.length_append, List.length_cons]
    omega

/-- Every token before another one on a line takes at least one column of it. -/
theorem Laid.length_lt_column (laid : Laid tabWidth number ending 1 body (prior ++ token :: next))
    (free : BreakFree body) : prior.length < token.column := by
  have room := length_le_lineWidth tabWidth (prior.flatMap Token.content)
  have count : prior.length ≤ (prior.flatMap Token.content).length :=
    length_le_flatMap_content fun other member => laid.content_ne_nil (by simp [member])
  rw [(laid.place free).1]
  omega

/-- Only the first token of a line is in column 1. -/
theorem Laid.column_eq_one_iff (laid : Laid tabWidth number ending 1 body (prior ++ token :: next))
    (free : BreakFree body) : token.column = 1 ↔ prior = [] := by
  constructor
  · intro one
    have count := laid.length_lt_column free
    exact List.eq_nil_of_length_eq_zero (by omega)
  · rintro rfl
    simpa using (laid.place free).1

/-- The last token of a line ends where the line ends. -/
theorem Laid.endColumn_last {last : Token}
    (laid : Laid tabWidth number ending 1 body (prior ++ [last])) (free : BreakFree body) :
    last.endColumn = lineWidth tabWidth body := by
  obtain ⟨text, rest, whole, _, _, content⟩ := laid.token (Nat.le_refl 1) rfl
  have reach := (laid.place free).2
  rcases content with ⟨more, _⟩ | ⟨_, rfl, content, _⟩
  · exact absurd rfl more
  · rw [Token.visible_eq (whole ▸ free).middle content] at reach
    rw [List.append_nil] at whole
    rw [Token.endColumn, whole]
    omega

/-- A last token without width is the end of its line. -/
theorem Laid.content_of_narrow {last : Token}
    (laid : Laid tabWidth number ending 1 body (prior ++ [last])) (free : BreakFree body)
    (narrow : last.length = 0) :
    ∃ own, ending = some own ∧ last.content = LineEnd.chars own := by
  obtain ⟨bare, same⟩ := (laid.length_eq_zero_iff free).1.mp narrow
  obtain ⟨text, rest, whole, _, _, content⟩ := laid.token (Nat.le_refl 1) rfl
  obtain ⟨_, _, content, visible, _⟩ := content.resolve_left fun inner => inner.1 rfl
  have empty : text = [] :=
    (whole ▸ free : BreakFree _).middle.eq_nil_of_append (content.symm.trans same)
  rw [empty, List.nil_append] at content
  cases ending with
  | none => exact absurd content visible
  | some own => exact ⟨own, rfl, content⟩

end Laid

section Paged

variable {tabWidth number : Nat} {lines : List Line} {groups : List (List Token)}

private theorem Paged.flatMap_content (paged : Paged tabWidth number lines groups) :
    groups.flatten.flatMap Token.content = lines.flatMap Line.text := by
  induction paged with
  | nil => rfl
  | @cons number line lines group groups laid tail ih =>
    rw [List.flatten_cons, List.flatMap_append, ih, laid.flatMap_content, List.flatMap_cons]
    rfl

theorem Paged.length_eq (paged : Paged tabWidth number lines groups) :
    groups.length = lines.length := by
  induction paged with
  | nil => rfl
  | cons laid tail ih => rw [List.length_cons, List.length_cons, ih]

/-- Line numbers count the lines. -/
theorem Paged.line_bounds (paged : Paged tabWidth number lines groups) {token : Token}
    (member : token ∈ groups.flatten) :
    number ≤ token.line ∧ token.line < number + lines.length := by
  induction paged with
  | nil => cases member
  | cons laid tail ih =>
    rcases List.mem_append.mp member with member | member
    · have same := laid.line_eq member
      simp only [List.length_cons]
      omega
    · have bounds := ih member
      simp only [List.length_cons]
      omega

/-- Lines come in order. -/
private theorem Paged.sorted (paged : Paged tabWidth number lines groups) :
    groups.flatten.Pairwise fun first second => first.line ≤ second.line := by
  induction paged with
  | nil => exact .nil
  | cons laid tail ih =>
    rw [List.flatten_cons, List.pairwise_append]
    refine ⟨List.pairwise_of_forall_mem_list fun first atFirst second atSecond => ?_, ih, ?_⟩
    · rw [laid.line_eq atFirst, laid.line_eq atSecond]
    · intro first atFirst second atSecond
      have bounds := tail.line_bounds atSecond
      rw [laid.line_eq atFirst]
      omega

/-- The group of a line stands between tokens with smaller and with greater line numbers. -/
theorem Paged.split (paged : Paged tabWidth number lines groups) {index : Nat} {line : Line}
    (present : lines[index]? = some line) :
    ∃ first group second, groups = first ++ group :: second ∧ first.length = index ∧
      Laid tabWidth (number + index) line.ending 1 line.body group ∧
      (∀ token ∈ first.flatten, token.line < number + index) ∧
      ∀ token ∈ second.flatten, number + index < token.line := by
  induction paged generalizing index with
  | nil => simp at present
  | @cons number top lines group groups laid tail ih =>
    cases index with
    | zero =>
      obtain rfl : top = line := by simpa using present
      exact ⟨[], group, groups, rfl, rfl, laid, by simp, fun _ member =>
        (tail.line_bounds member).1⟩
    | succ index =>
      have next : number + (index + 1) = number + 1 + index := by omega
      obtain ⟨first, middle, second, rfl, rfl, inner, lower, upper⟩ := ih (by simpa using present)
      rw [next]
      refine ⟨group :: first, middle, second, rfl, rfl, inner, ?_, upper⟩
      intro token member
      rcases List.mem_append.mp member with member | member
      · have same := laid.line_eq member
        omega
      · exact lower token member

/-- The tokens with the number of a line are the ones that were laid out for it. -/
theorem onLine_split {first second : List (List Token)} {group : List Token} {number : Nat}
    (own : ∀ token ∈ group, token.line = number)
    (lower : ∀ token ∈ first.flatten, token.line < number)
    (upper : ∀ token ∈ second.flatten, number < token.line) :
    onLine (first ++ group :: second).flatten number = group := by
  have before : onLine first.flatten number = [] :=
    onLine_eq_nil_iff.mpr fun token member => (lower token member).ne
  have after : onLine second.flatten number = [] :=
    onLine_eq_nil_iff.mpr fun token member => (upper token member).ne'
  have whole : onLine group number = group :=
    List.filter_eq_self.mpr fun token member => by simp [own token member]
  rw [List.flatten_append, List.flatten_cons]
  unfold onLine at before after whole ⊢
  rw [List.filter_append, List.filter_append, before, after, whole, List.nil_append,
    List.append_nil]

private theorem Paged.laid_onLine (paged : Paged tabWidth number lines groups) {index : Nat}
    {line : Line} (present : lines[index]? = some line) :
    Laid tabWidth (number + index) line.ending 1 line.body
      (onLine groups.flatten (number + index)) := by
  obtain ⟨first, group, second, rfl, _, laid, lower, upper⟩ := paged.split present
  rwa [onLine_split (fun _ => laid.line_eq) lower upper]

/-- The line numbers that occur are those of the lines. -/
private theorem Paged.exists_mem_iff (paged : Paged tabWidth number lines groups) (target : Nat) :
    (∃ token ∈ groups.flatten, token.line = target) ↔
      number ≤ target ∧ target < number + lines.length := by
  constructor
  · rintro ⟨token, member, rfl⟩
    exact paged.line_bounds member
  · rintro ⟨low, high⟩
    have laid := paged.laid_onLine (List.getElem?_eq_getElem (show target - number < _ by omega))
    obtain ⟨token, member⟩ := List.exists_mem_of_ne_nil _ laid.ne_nil
    rw [show number + (target - number) = target by omega] at member
    exact ⟨token, mem_onLine.mp member⟩

/-- A token stands in its line between the tokens before and after it that have its number. -/
theorem Paged.token (paged : Paged tabWidth number lines groups) {before after : List Token}
    {token : Token} (split : groups.flatten = before ++ token :: after) :
    ∃ index line, token.line = number + index ∧ lines[index]? = some line ∧
      Laid tabWidth token.line line.ending 1 line.body
        (onLine before token.line ++ token :: onLine after token.line) := by
  have member : token ∈ groups.flatten := by simp [split]
  obtain ⟨low, high⟩ := paged.line_bounds member
  have inside : token.line - number < lines.length := by omega
  have present := List.getElem?_eq_getElem inside
  have laid := paged.laid_onLine present
  have same : number + (token.line - number) = token.line := by omega
  rw [same, split, onLine_append_cons] at laid
  exact ⟨token.line - number, _, same.symm, present, laid⟩

end Paged

/-- A source has at most as many tokens as characters. -/
theorem Lexer.size_run_le (lexer : Lexer) : lexer.run.1.size ≤ lexer.source.length := by
  obtain ⟨lines, groups, cut, flat, paged⟩ := lexer.run_paged
  have filled : ∀ token ∈ groups.flatten, token.content ≠ [] := by
    intro token member
    obtain ⟨before, after, split⟩ := List.append_of_mem member
    obtain ⟨index, line, -, -, laid⟩ := paged.token split
    exact laid.content_ne_nil (by simp)
  have count := length_le_flatMap_content filled
  rwa [paged.flatMap_content, cut.flatMap_text, ← flat, Array.length_toList] at count

/-- Lexing is lossless in every mode: the contents of the tokens are the source, no content is
empty, and a line break occurs in a token only as the whole end of its line, behind which the line
has no further token. -/
theorem Lexer.run_lossless (lexer : Lexer) :
    lexer.run.1.toList.flatMap Token.content = lexer.source ∧
      ∃ lines, Line.Cut lexer.source lines ∧
        ∀ before token after, lexer.run.1.toList = before ++ token :: after →
          token.content ≠ [] ∧
          (BreakFree token.content ∨
            ∃ line text ending, lines[token.line - 1]? = some line ∧ line.ending = some ending ∧
              token.content = text ++ LineEnd.chars ending ∧ BreakFree text ∧
              ∀ later ∈ after, token.line < later.line) := by
  obtain ⟨lines, groups, cut, flat, paged⟩ := lexer.run_paged
  refine ⟨by rw [flat, paged.flatMap_content, cut.flatMap_text], lines, cut, ?_⟩
  intro before token after split
  rw [flat] at split
  obtain ⟨index, line, atLine, present, laid⟩ := paged.token split
  obtain ⟨text, rest, body, _, _, content⟩ := laid.token (Nat.le_refl 1) rfl
  have bodyFree : BreakFree line.body := (cut.of_mem (List.mem_of_getElem? present)).1
  have textFree : BreakFree text := (body ▸ bodyFree).middle
  rcases content with ⟨_, visible, content⟩ | ⟨last, _, content, visible, _⟩
  · exact ⟨content ▸ visible, .inl (content ▸ textFree)⟩
  · refine ⟨visible, ?_⟩
    cases ended : line.ending with
    | none =>
      left
      simpa [content, ended] using textFree
    | some ending =>
      right
      refine ⟨line, text, ending, ?_, ended, by simpa [ended] using content, textFree, ?_⟩
      · simpa [atLine] using present
      · intro later member
        have order := (List.pairwise_append.mp (split ▸ paged.sorted)).2.1
        have notEarlier := (List.pairwise_cons.mp order).1 later member
        have notSame := onLine_eq_nil_iff.mp last later member
        omega

/-- Every token stands where one rendering of its whole line puts it. Line numbers are in order and
exactly those of the physical lines; a token starts after the rendered text before it on its line
and reaches to the end of its own text; only a bare line end has no width, and it is the last token
of its line; so the tokens in column 1 are the first ones of their lines. -/
theorem TokenStream.ofSource_layout (source : List Char) (tabWidth : Nat) :
    ∃ lines, Line.Cut source lines ∧
      (ofSource source tabWidth).tokens.toList.Pairwise (fun first second =>
        first.line ≤ second.line) ∧
      (∀ number, (∃ token ∈ (ofSource source tabWidth).tokens.toList, token.line = number) ↔
        1 ≤ number ∧ number ≤ lines.length) ∧
      ∀ before token after,
        (ofSource source tabWidth).tokens.toList = before ++ token :: after →
        let preceding := (onLine before token.line).flatMap Token.content
        (∃ line, lines[token.line - 1]? = some line ∧ line.text =
          preceding ++ token.content ++ (onLine after token.line).flatMap Token.content) ∧
        token.column = 1 + lineWidth tabWidth preceding ∧
        token.column + token.length = 1 + lineWidth tabWidth (preceding ++ token.visible) ∧
        (token.length = 0 ↔ ∃ ending, token.content = LineEnd.chars ending) ∧
        (token.length = 0 → ∀ later ∈ after, later.line ≠ token.line) ∧
        (token.column = 1 ↔ ∀ earlier ∈ before, earlier.line ≠ token.line) := by
  obtain ⟨lines, groups, cut, flat, paged⟩ := ofSource_paged source tabWidth
  refine ⟨lines, cut, flat ▸ paged.sorted, ?_, ?_⟩
  · intro number
    rw [flat, paged.exists_mem_iff]
    omega
  · intro before token after split preceding
    rw [flat] at split
    obtain ⟨index, line, atLine, present, laid⟩ := paged.token split
    have free : BreakFree line.body := (cut.of_mem (List.mem_of_getElem? present)).1
    obtain ⟨start, reach⟩ := laid.place free
    obtain ⟨bare, last⟩ := laid.length_eq_zero_iff free
    refine ⟨⟨line, by simpa [atLine] using present, ?_⟩, start, reach, bare, ?_, ?_⟩
    · rw [Line.text, Line.endChars, ← laid.flatMap_content]
      simp [preceding]
    · exact fun narrow => onLine_eq_nil_iff.mp (last narrow).1
    · rw [laid.column_eq_one_iff free, onLine_eq_nil_iff]

end LineWidth
