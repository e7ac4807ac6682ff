import LineWidth.Proofs.BareTokens
import Mathlib.Data.List.TakeWhile

/-! # Comments that cannot be wrapped

Whether a comment can be wrapped is decided by its last word, put on a line of its own at the indent
of the comment's text. The decision counts the text before that word in characters but takes the
length of the comment in columns. `Token.Rendered.isUnbreakable_iff` says what this comes to: the
columns that tabs add among the words are counted with the last word. So the decision is exact for
words without tabs, however the marks in front of them are rendered, and it takes a comment for
unbreakable too readily when tabs stand between the words.
-/

namespace LineWidth

/-- The text of a comment, cut into the marks that it starts with and its words. -/
structure CommentText (text marks words : List Char) : Prop where
  split : text = marks ++ words
  marked : ∀ c ∈ marks, isCommentMark c = true
  opens : ∀ c, words.head? = some c → isCommentMark c = false

/-- The last word is all that comes after the last space. -/
structure LastWord (words front word : List Char) : Prop where
  split : words = front ++ ' ' :: word
  single : ' ' ∉ word

/-- The columns in front of the words of a comment that starts at `column`: those before the comment
and those that its marks take. -/
def textIndent (tabWidth column : Nat) (marks : List Char) : Nat :=
  columnAfter tabWidth column marks - 1

/-- The last column of a word that is put on a line of its own, at the text indent of a comment. -/
def wrappedEnd (tabWidth column : Nat) (marks word : List Char) : Nat :=
  columnAfter tabWidth (textIndent tabWidth column marks + 1) word - 1

/-- The columns that tabs add to a text, beyond one column for each character. -/
def tabSurplus (tabWidth column : Nat) (text : List Char) : Nat :=
  columnAfter tabWidth column text - (column + text.length)

private theorem columnAfter_eq_tabSurplus (tabWidth : Nat) {column : Nat} (placed : 1 ≤ column)
    (text : List Char) :
    columnAfter tabWidth column text = column + text.length + tabSurplus tabWidth column text := by
  have room := add_length_le_columnAfter tabWidth column text placed
  rw [tabSurplus]
  omega

theorem tabSurplus_plain {tabWidth : Nat} (column : Nat) {text : List Char} (plain : '\t' ∉ text) :
    tabSurplus tabWidth column text = 0 := by
  rw [tabSurplus, columnAfter_plain column (.inr plain), Nat.sub_self]

private theorem textIndent_add_one (tabWidth : Nat) {column : Nat} (placed : 1 ≤ column)
    (marks : List Char) :
    textIndent tabWidth column marks + 1 = columnAfter tabWidth column marks := by
  have room := add_length_le_columnAfter tabWidth column marks placed
  rw [textIndent]
  omega

theorem wrappedEnd_eq (tabWidth column : Nat) (marks word : List Char) :
    wrappedEnd tabWidth column marks word = textIndent tabWidth column marks + word.length +
      tabSurplus tabWidth (textIndent tabWidth column marks + 1) word := by
  rw [wrappedEnd, columnAfter_eq_tabSurplus tabWidth (Nat.le_add_left 1 _) word]
  omega

section Text

variable {text marks words front word : List Char}

/-- The marks are the longest start of the text that is made of marks. -/
private theorem CommentText.takeWhile_eq (cut : CommentText text marks words) :
    text.takeWhile isCommentMark = marks := by
  have stops : words.takeWhile isCommentMark = [] := by
    cases words with
    | nil => rfl
    | cons c rest => exact List.takeWhile_cons_of_neg (by simp [cut.opens c rfl])
  rw [cut.split, List.takeWhile_append_of_pos cut.marked, stops, List.append_nil]

private theorem bne_space_of_mem (free : ' ' ∉ text) : ∀ c ∈ text.reverse, (c != ' ') = true := by
  intro c member
  rw [bne_iff_ne]
  rintro rfl
  exact free (List.mem_reverse.mp member)

/-- The last space stands right before the last word. -/
private theorem LastWord.lastSpaceEnd_eq (last : LastWord words front word) (marks : List Char) :
    lastSpaceEnd (marks ++ words) = marks.length + front.length + 1 := by
  have reversed : (marks ++ words).reverse = word.reverse ++ ' ' :: (marks ++ front).reverse := by
    simp [last.split]
  rw [lastSpaceEnd, reversed, List.takeWhile_append_of_pos (bne_space_of_mem last.single),
    List.takeWhile_cons_of_neg (by decide), last.split]
  simp only [List.length_append, List.length_cons, List.length_reverse, List.length_nil]
  omega

/-- Without a space among the words, the last space is one of the marks. -/
private theorem lastSpaceEnd_le (marks : List Char) (free : ' ' ∉ words) :
    lastSpaceEnd (marks ++ words) ≤ marks.length := by
  rw [lastSpaceEnd, List.reverse_append, List.takeWhile_append_of_pos (bne_space_of_mem free)]
  simp only [List.length_append, List.length_reverse]
  omega

end Text

/-- A token in its place on a line: it shows a text that is rendered from its column on, with at
most a line end behind it. -/
structure Token.Rendered (tabWidth : Nat) (token : Token) : Prop where
  placed : 1 ≤ token.column
  shows : token.Shows
  reach : token.column + token.length = columnAfter tabWidth token.column token.visible

theorem Laid.rendered {tabWidth number : Nat} {ending : Option LineEnd} {body : List Char}
    {tokens : List Token} (laid : Laid tabWidth number ending 1 body tokens)
    (free : BreakFree body) {token : Token} (member : token ∈ tokens) :
    token.Rendered tabWidth := by
  have shows := laid.shows free member
  obtain ⟨prior, next, rfl⟩ := List.append_of_mem member
  obtain ⟨start, reach⟩ := laid.place free
  refine ⟨by omega, shows, ?_⟩
  rw [reach, one_add_lineWidth, columnAfter_append, ← one_add_lineWidth, ← start]

namespace Token.Rendered

variable {tabWidth : Nat} {token : Token} {marks words front word : List Char} {limit : Nat}

/-- A comment of one word, or of marks only, cannot be wrapped. -/
private theorem isUnbreakable_of_single (rendered : token.Rendered tabWidth)
    (cut : CommentText token.visible marks words) (single : ' ' ∉ words)
    (long : limit < token.endColumn) : token.isUnbreakable limit = true := by
  have space := lastSpaceEnd_le marks single
  have placed := rendered.placed
  rw [endColumn] at long
  rw [← isUnbreakable_bare rendered.shows]
  simp only [isUnbreakable, bare, decide_eq_true_eq, cut.takeWhile_eq]
  rw [cut.split]
  omega

/-- A comment of several words is taken for unbreakable when the limit is below the text indent, the
characters of the last word and the columns that tabs add among all words, taken together. -/
theorem isUnbreakable_iff (rendered : token.Rendered tabWidth)
    (cut : CommentText token.visible marks words) (last : LastWord words front word) :
    token.isUnbreakable limit = true ↔
      limit < textIndent tabWidth token.column marks + word.length +
        tabSurplus tabWidth (textIndent tabWidth token.column marks + 1) words := by
  have start := textIndent_add_one tabWidth rendered.placed marks
  have reach := rendered.reach
  rw [cut.split, columnAfter_append, ← start,
    columnAfter_eq_tabSurplus tabWidth (Nat.le_add_left 1 _) words] at reach
  have count : words.length = front.length + 1 + word.length := by
    rw [last.split, List.length_append, List.length_cons]
    omega
  have placed := rendered.placed
  rw [← isUnbreakable_bare rendered.shows]
  simp only [isUnbreakable, bare, decide_eq_true_eq, cut.takeWhile_eq]
  rw [cut.split, last.lastSpaceEnd_eq]
  omega

end Token.Rendered

private theorem Token.breakFree_visible (token : Token) : BreakFree token.visible := by
  intro c member
  simpa using List.mem_takeWhile_imp member

/-- Any line end, or none, may follow the text of a comment. -/
private theorem Token.Shows.isUnbreakable_ending {token : Token} (shows : token.Shows)
    (ending : Option LineEnd) (limit : Nat) :
    isUnbreakable { token with content := token.visible ++ ending.elim [] LineEnd.chars } limit =
      token.isUnbreakable limit := by
  have same : visible { token with content := token.visible ++ ending.elim [] LineEnd.chars } =
      token.visible := visible_eq token.breakFree_visible rfl
  rw [← isUnbreakable_bare shows, ← isUnbreakable_bare ⟨ending, by rw [same]⟩, bare, same]
  rfl

/-- A line that is read in one step is one token, if that owns its line end. -/
theorem Line.tokens_of_step {tabWidth number : Nat} {mode final : Mode} {kind : TokenKind}
    {c : Char} {rest : List Char} (step : Step.next mode true c rest = ⟨kind, rest.length, final⟩)
    (owns : Part.ownsEnd final ⟨kind, c :: rest, none⟩ = true) (ending : Option LineEnd) :
    (Line.tokens tabWidth number mode ⟨c :: rest, ending⟩).1 =
      [⟨kind, c :: rest ++ ending.elim [] LineEnd.chars, number, 1,
        renderedWidth tabWidth 1 (c :: rest)⟩] := by
  have parts : splitOnto mode true [] (c :: rest) = ([⟨kind, c :: rest, none⟩], final) := by
    rw [splitOnto, step, List.take_length, List.drop_length, splitOnto]
  cases ending with
  | none => simp only [Line.tokens, Line.parts, parts]; rfl
  | some ending =>
    simp only [Line.tokens, Line.parts, parts, endParts, owns, if_true]
    rfl

namespace TokenStream

/-- The tokens of a source are in their places. -/
theorem rendered_of_mem {source : List Char} {tabWidth : Nat} {token : Token}
    (member : token ∈ (ofSource source tabWidth).tokens.toList) : token.Rendered tabWidth := by
  obtain ⟨lines, groups, cut, flat, paged⟩ := ofSource_paged source tabWidth
  obtain ⟨before, after, split⟩ := List.append_of_mem member
  obtain ⟨index, line, _, present, laid⟩ := paged.token (flat.symm.trans split)
  have free : BreakFree line.body := (cut.of_mem (List.mem_of_getElem? present)).1
  exact laid.rendered free (by simp)

/-- Unbreakable comments, exactly. Take any token of a source and cut its text into marks and words.
If it has a single word, or none, and ends beyond the limit, it is unbreakable. If it has several
words and no tab among them, it is unbreakable exactly when its last word, put at the text indent,
ends beyond the limit. Neither answer depends on the line end that the token may own. -/
theorem ofSource_isUnbreakable (source : List Char) (tabWidth limit : Nat) (token : Token)
    (member : token ∈ (ofSource source tabWidth).tokens.toList) (marks words : List Char)
    (cut : CommentText token.visible marks words) :
    (' ' ∉ words → limit < token.endColumn → token.isUnbreakable limit = true) ∧
      (∀ front word, LastWord words front word → '\t' ∉ words →
        (token.isUnbreakable limit = true ↔
          limit < textIndent tabWidth token.column marks + word.length)) ∧
      ∀ ending : Option LineEnd, Token.isUnbreakable
          { token with content := token.visible ++ ending.elim [] LineEnd.chars } limit =
        token.isUnbreakable limit := by
  have rendered := rendered_of_mem member
  refine ⟨rendered.isUnbreakable_of_single cut, ?_, ?_⟩
  · intro front word last plain
    rw [rendered.isUnbreakable_iff cut last, tabSurplus_plain _ plain, Nat.add_zero]
  · intro ending
    exact rendered.shows.isUnbreakable_ending ending limit

/-- A comment whose marks end with a tab: its last word takes columns 5 and 6 when it is wrapped. -/
theorem ofSource_isUnbreakable_tab :
    let token : Token := ⟨.comment, ['/', '/', '\t', 'a', ' ', 'b', 'c', '\n'], 1, 1, 8⟩
    token ∈ (ofSource ['/', '/', '\t', 'a', ' ', 'b', 'c', '\n'] 4).tokens.toList ∧
      CommentText token.visible ['/', '/', '\t'] ['a', ' ', 'b', 'c'] ∧
      LastWord ['a', ' ', 'b', 'c'] ['a'] ['b', 'c'] ∧
      token.isUnbreakable 5 = true ∧ token.isUnbreakable 6 = false := by
  intro token
  have member : token ∈ (ofSource ['/', '/', '\t', 'a', ' ', 'b', 'c', '\n'] 4).tokens.toList := by
    have lines : Line.ofText ['/', '/', '\t', 'a', ' ', 'b', 'c', '\n'] =
        [⟨['/', '/', '\t', 'a', ' ', 'b', 'c'], some .lf⟩] := by decide
    have step : Step.next .code true '/' ['/', '\t', 'a', ' ', 'b', 'c'] =
        ⟨.comment, 6, .code⟩ := by decide
    rw [ofSource_tokens, lines, tokenGroups, Line.tokens_of_step step rfl]
    decide
  have cut : CommentText token.visible ['/', '/', '\t'] ['a', ' ', 'b', 'c'] :=
    ⟨by decide, List.all_eq_true.mp rfl, by rintro c ⟨⟩; rfl⟩
  have last : LastWord ['a', ' ', 'b', 'c'] ['a'] ['b', 'c'] := ⟨rfl, by decide⟩
  have decision (limit : Nat) :=
    (ofSource_isUnbreakable _ 4 limit token member _ _ cut).2.1 _ _ last
  refine ⟨member, cut, last, (decision 5 (by decide)).mpr (by decide), ?_⟩
  rw [← Bool.not_eq_true, decision 6 (by decide)]
  decide

end TokenStream

end LineWidth
