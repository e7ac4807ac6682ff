import LineWidth.Proofs.CommentWrapping
import LineWidth.Proofs.DocComments
import Mathlib.Data.List.Forall2

/-! # One source under several tab widths

The tab width says where tokens stand and how wide they are. It decides nothing else: lines are cut
and classified before anything is measured, so two runs that differ in the width alone place the
same parts. They are compared part by part, with a relation of the two start columns as the
invariant of the line.
-/

namespace LineWidth

/-- Whether two tokens are the same piece of a source, wherever it is placed. -/
structure Token.SamePiece (first second : Token) : Prop where
  kind : first.kind = second.kind
  content : first.content = second.content
  line : first.line = second.line

/-- Whether a token starts no earlier than another one and takes no fewer columns. -/
structure Token.Widens (plain token : Token) : Prop where
  column : plain.column ≤ token.column
  length : plain.length ≤ token.length

section Placing

variable {narrow wide number : Nat} {R : Token → Token → Prop}

/-- Two placings of the same parts are related token by token, if each part's tokens are related
from related columns and leave related columns behind. -/
private theorem forall₂_placeOnto {C : Nat → Nat → Prop} {parts : List Part}
    (step : ∀ part ∈ parts, ∀ first second, C first second →
      R ⟨part.kind, part.content, number, first, renderedWidth narrow first part.text⟩
          ⟨part.kind, part.content, number, second, renderedWidth wide second part.text⟩ ∧
        C (first + renderedWidth narrow first part.text)
          (second + renderedWidth wide second part.text))
    {first second : Nat} (start : C first second) :
    List.Forall₂ R (placeOnto narrow number first [] parts)
      (placeOnto wide number second [] parts) := by
  induction parts generalizing first second with
  | nil => exact .nil
  | cons part rest ih =>
    obtain ⟨related, next⟩ := step part (List.mem_cons_self ..) first second start
    rw [placeOnto_cons, placeOnto_cons]
    apply List.Forall₂.cons related
    apply ih _ next
    exact fun other member => step other (List.mem_cons_of_mem _ member)

/-- What holds of the tokens of every line, from every mode, holds of all tokens. -/
private theorem forall₂_tokenGroups (lines : List Line) (mode : Mode)
    (each : ∀ (line : Line) number mode,
      List.Forall₂ R (line.tokens narrow number mode).1 (line.tokens wide number mode).1) :
    List.Forall₂ R (tokenGroups narrow number mode lines).flatten
      (tokenGroups wide number mode lines).flatten := by
  induction lines generalizing number mode with
  | nil => exact .nil
  | cons line rest ih =>
    rw [tokenGroups, tokenGroups, List.flatten_cons, List.flatten_cons]
    exact List.rel_append (each line number mode) (ih _)

end Placing

namespace Line

variable (line : Line) (number : Nat) (mode : Mode)

private theorem tokens_samePiece (narrow wide : Nat) :
    List.Forall₂ Token.SamePiece (line.tokens narrow number mode).1
      (line.tokens wide number mode).1 := by
  apply forall₂_placeOnto (C := fun _ _ => True) _ trivial
  exact fun part _ first second _ => ⟨⟨rfl, rfl, rfl⟩, trivial⟩

/-- No character takes less than one column, so columns and widths only grow. -/
private theorem tokens_widens (tabWidth : Nat) :
    List.Forall₂ Token.Widens (line.tokens 0 number mode).1
      (line.tokens tabWidth number mode).1 := by
  apply forall₂_placeOnto (C := fun first second => first ≤ second ∧ 1 ≤ second) _
    ⟨Nat.le_refl 1, Nat.le_refl 1⟩
  rintro part - first second ⟨le, placed⟩
  have plain : renderedWidth 0 first part.text = part.text.length := if_pos (.inl rfl)
  have room := length_le_renderedWidth tabWidth second part.text placed
  rw [plain]
  exact ⟨⟨le, room⟩, by omega, by omega⟩

/-- Without tabs a line looks the same under every tab width. -/
private theorem tokens_tabFree {line : Line} (visible : line.text ≠ []) (plain : '\t' ∉ line.body)
    (narrow wide : Nat) :
    (line.tokens narrow number mode).1 = (line.tokens wide number mode).1 := by
  rw [← List.forall₂_eq_eq_eq]
  apply forall₂_placeOnto (C := Eq) _ rfl
  rintro part member column _ rfl
  have free : '\t' ∉ part.text := by
    intro within
    apply plain
    rw [← (line.parts_covers mode visible).flatMap_text]
    exact List.mem_flatMap_of_mem member within
  have same : renderedWidth narrow column part.text = renderedWidth wide column part.text := by
    rw [renderedWidth, renderedWidth, if_pos (.inr free), if_pos (.inr free)]
  rw [same]
  exact ⟨rfl, rfl⟩

end Line

/-- With a stop in every column a tab takes one column, like any other character. -/
private theorem renderedWidth_one (column : Nat) (text : List Char) :
    renderedWidth 1 column text = text.length := by
  have single (column : Nat) (c : Char) : advance 1 column c = column + 1 := by
    rw [advance, Nat.mod_one]
    split_ifs <;> rfl
  have loop (column : Nat) : text.foldl (advance 1) column = column + text.length := by
    induction text generalizing column with
    | nil => rfl
    | cons c rest ih =>
      rw [List.foldl_cons, single, ih, List.length_cons]
      omega
  rw [renderedWidth, loop, Nat.add_sub_cancel_left, ite_self]

/-- A tab goes on to a stop that is at most the tab width away. -/
private theorem advance_tab {tabWidth column : Nat} (tabs : 1 ≤ tabWidth) (placed : 1 ≤ column) :
    advance tabWidth column '\t' ≡ 1 [MOD tabWidth] ∧
      advance tabWidth column '\t' ≤ column + tabWidth := by
  constructor
  · rw [advance_eq tabWidth column '\t' placed, if_pos ⟨rfl, tabs⟩]
    exact (nextStop_isLeast tabs placed).1.2
  · rw [advance, if_pos ⟨rfl, tabs⟩]
    omega

/-- The column after a text and one more character is one step from the column after the text. -/
private theorem add_renderedWidth_concat {tabWidth column : Nat} (placed : 1 ≤ column)
    (text : List Char) (c : Char) :
    column + renderedWidth tabWidth column (text ++ [c]) =
      advance tabWidth (column + renderedWidth tabWidth column text) c := by
  rw [add_renderedWidth _ _ _ placed, add_renderedWidth _ _ _ placed, ← foldl_advance _ _ _ placed,
    ← foldl_advance _ _ _ placed, List.foldl_append]
  rfl

namespace TokenStream

variable (source : List Char)

private theorem ofSource_tabFree (tabWidth : Nat) {index : Nat} {line : Line}
    (present : (Line.ofText source)[index]? = some line) (plain : '\t' ∉ line.body) :
    onLine (ofSource source tabWidth).tokens.toList (1 + index) =
      onLine (ofSource source 0).tokens.toList (1 + index) := by
  have visible := ((Line.ofText_cut source).of_mem (List.mem_of_getElem? present)).2
  rw [(ofSource_middle source tabWidth present).1, (ofSource_middle source 0 present).1]
  exact Line.tokens_tabFree _ _ visible plain tabWidth 0

private theorem ofSource_zero_eq_one : ofSource source 0 = ofSource source 1 := by
  have each (line : Line) (number : Nat) (mode : Mode) :
      List.Forall₂ Eq (line.tokens 0 number mode).1 (line.tokens 1 number mode).1 := by
    apply forall₂_placeOnto (C := Eq) _ rfl
    rintro part - column _ rfl
    have same : renderedWidth 0 column part.text = renderedWidth 1 column part.text := by
      rw [renderedWidth_one, renderedWidth, if_pos (.inl rfl)]
    rw [same]
    exact ⟨rfl, rfl⟩
  have tokens : (ofSource source 0).tokens = (ofSource source 1).tokens := by
    rw [← Array.toList_inj, ofSource_tokens, ofSource_tokens, ← List.forall₂_eq_eq_eq]
    exact forall₂_tokenGroups _ _ each
  exact congrArg (TokenStream.mk · _) tokens

/-- The tab width moves tokens and does nothing else, and it moves them only to the right. Under any
two widths a source has the same pieces, in the same order. Compared with width 0, no token starts
earlier or is narrower, and a line without tabs has the very same tokens. Width 1 is width 0. Under
a positive width, the column right after a tab is a stop, no further away than one tab width from
the tab's own column, and the rest of the token is rendered from there. -/
theorem ofSource_tabWidth :
    (∀ narrow wide, (ofSource source narrow).lineEnd = (ofSource source wide).lineEnd ∧
      List.Forall₂ Token.SamePiece (ofSource source narrow).tokens.toList
        (ofSource source wide).tokens.toList) ∧
    (∀ tabWidth, List.Forall₂ Token.Widens (ofSource source 0).tokens.toList
      (ofSource source tabWidth).tokens.toList) ∧
    (∃ lines, Line.Cut source lines ∧ ∀ tabWidth (index : Nat) (line : Line),
      lines[index]? = some line → '\t' ∉ line.body →
      onLine (ofSource source tabWidth).tokens.toList (1 + index) =
        onLine (ofSource source 0).tokens.toList (1 + index)) ∧
    ofSource source 0 = ofSource source 1 ∧
    ∀ tabWidth, 1 ≤ tabWidth → ∀ token ∈ (ofSource source tabWidth).tokens.toList,
      ∀ before after, token.visible = before ++ '\t' :: after →
      let own := token.column + renderedWidth tabWidth token.column before
      let next := token.column + renderedWidth tabWidth token.column (before ++ ['\t'])
      own < next ∧ next ≤ own + tabWidth ∧ next ≡ 1 [MOD tabWidth] ∧
        token.column + token.length = next + renderedWidth tabWidth next after := by
  refine ⟨?_, ?_, ⟨_, Line.ofText_cut source, ?_⟩, ofSource_zero_eq_one source, ?_⟩
  · intro narrow wide
    rw [ofSource_tokens, ofSource_tokens]
    exact ⟨rfl, forall₂_tokenGroups _ _ fun line number mode =>
      line.tokens_samePiece number mode narrow wide⟩
  · intro tabWidth
    rw [ofSource_tokens, ofSource_tokens]
    exact forall₂_tokenGroups _ _ fun line number mode => line.tokens_widens number mode tabWidth
  · exact fun tabWidth index line present plain => ofSource_tabFree source tabWidth present plain
  · intro tabWidth tabs token member before after split own next
    obtain ⟨placed, -, reach⟩ := rendered_of_mem member
    have ownPlaced : 1 ≤ own := Nat.le_add_right_of_le placed
    have step : next = advance tabWidth own '\t' := add_renderedWidth_concat placed before '\t'
    obtain ⟨stop, near⟩ := advance_tab tabs ownPlaced
    have later := lt_advance tabWidth own '\t'
    rw [← step] at stop near later
    refine ⟨later, near, stop, ?_⟩
    rw [reach, split, List.append_cons, columnAfter_append, ← add_renderedWidth _ _ _ placed]
    exact (add_renderedWidth _ _ _ (by omega)).symm

/-- A tab inside a comment, at width 8: it stands in column 4 and leads to column 9. The line below
has no tab and is the same as at width 0. -/
theorem ofSource_tabWidth_comment :
    let source := ['/', '/', 'a', '\t', 'b', '\n', '/', '/']
    let token : Token := ⟨.comment, ['/', '/', 'a', '\t', 'b', '\n'], 1, 1, 9⟩
    token ∈ (ofSource source 8).tokens.toList ∧
      token.visible = ['/', '/', 'a'] ++ '\t' :: ['b'] ∧
      token.column + renderedWidth 8 token.column ['/', '/', 'a'] = 4 ∧
      9 ≡ 1 [MOD 8] ∧ 9 ≤ 4 + 8 ∧ token.column + token.length = 9 + 1 ∧
      onLine (ofSource source 8).tokens.toList 2 = onLine (ofSource source 0).tokens.toList 2 := by
  intro source token
  have lines : Line.ofText source =
      [⟨['/', '/', 'a', '\t', 'b'], some .lf⟩, ⟨['/', '/'], none⟩] := by decide
  have member : token ∈ (ofSource source 8).tokens.toList := by
    have step : Step.next .code true '/' ['/', 'a', '\t', 'b'] = ⟨.comment, 4, .code⟩ := by decide
    rw [ofSource_tokens, lines, tokenGroups, Line.tokens_of_step step rfl]
    exact List.mem_append_left _ (List.mem_singleton.mpr (by decide))
  obtain ⟨-, -, ⟨_, cut, tabFree⟩, -, stops⟩ := ofSource_tabWidth source
  obtain ⟨-, near, stop, reach⟩ :=
    stops 8 (by decide) token member ['/', '/', 'a'] ['b'] (by decide)
  refine ⟨member, by decide, by decide, stop, near, reach, tabFree 8 1 ⟨['/', '/'], none⟩ ?_ ?_⟩
  · rw [← cut.ofText_eq, lines]
    rfl
  · decide

end TokenStream

end LineWidth
