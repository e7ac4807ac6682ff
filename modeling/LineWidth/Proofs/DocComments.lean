import LineWidth.Proofs.DocLines
import Mathlib.Data.List.Chain

/-! # The structure of doc comments

A doc comment may go on over many lines, so its structure is one of the whole stream. `DocTraced`
keeps of every line where it starts and stops and which kinds of tokens it has, and it composes
along the lines. Its openings and closings alternate, and the last of them in front of a token tells
whether the token is inside.
-/

namespace LineWidth

/-- Tokens that may stand one after the other inside and outside of doc comments. -/
inductive DocTraced : Bool → List Token → Bool → Prop
  | nil {inside : Bool} : DocTraced inside [] inside
  | cons {inside after : Bool} {token : Token} {tokens : List Token}
      (kind : token.kind ∈ docKinds inside)
      (tail : DocTraced (token.kind.docAfter inside) tokens after) :
      DocTraced inside (token :: tokens) after

/-- The openings and closings of doc comments among some tokens. -/
def docMarks (tokens : List Token) : List TokenKind :=
  (tokens.map Token.kind).filter fun kind => kind = .docOpen ∨ kind = .docClose

/-- The mark that leads to the inside, or to the outside, of a doc comment. -/
def docMark : Bool → TokenKind
  | true => .docOpen
  | false => .docClose

/-- The tokens leave a doc comment open. -/
def LeavesDocOpen (tokens : List Token) : Prop := (docMarks tokens).getLast? = some .docOpen

section Traced

variable {inside middle after : Bool} {tokens first second : List Token}

private theorem DocTokens.traced {fresh : Bool} (line : DocTokens inside fresh tokens after) :
    DocTraced inside tokens after := by
  induction line with
  | nil => exact .nil
  | plain kind other tail ih => exact .cons kind ih
  | star kind tail ih => exact .cons (by rw [kind]; decide) (by rwa [kind])
  | text kind visible inner next tail ih => exact .cons (by rw [kind]; decide) (by rwa [kind])

private theorem DocTraced.append (head : DocTraced inside first middle)
    (tail : DocTraced middle second after) : DocTraced inside (first ++ second) after := by
  induction head with
  | nil => exact tail
  | cons kind _ ih => exact .cons kind (ih tail)

private theorem DocTraced.split (traced : DocTraced inside (first ++ second) after) :
    ∃ middle, DocTraced inside first middle ∧ DocTraced middle second after := by
  induction first generalizing inside with
  | nil => exact ⟨inside, .nil, traced⟩
  | cons token first ih =>
    cases traced with
    | cons kind tail =>
      obtain ⟨middle, head, tail⟩ := ih tail
      exact ⟨middle, .cons kind head, tail⟩

/-- A token that may stand where it stands is a mark that changes the side, or changes nothing. -/
private theorem docMarks_cons {token : Token} (kind : token.kind ∈ docKinds inside)
    (tokens : List Token) :
    (token.kind.docAfter inside = !inside ∧
        docMarks (token :: tokens) = docMark (!inside) :: docMarks tokens) ∨
      (token.kind.docAfter inside = inside ∧ docMarks (token :: tokens) = docMarks tokens) := by
  by_cases opens : token.kind = .docOpen
  · cases inside with
    | true => simp [opens, docKinds] at kind
    | false => exact .inl ⟨by simp [opens, TokenKind.docAfter], by simp [docMarks, opens, docMark]⟩
  by_cases closes : token.kind = .docClose
  · cases inside with
    | true => exact .inl ⟨by simp [closes, TokenKind.docAfter], by simp [docMarks, closes, docMark]⟩
    | false => simp [closes, docKinds] at kind
  · refine .inr ⟨?_, by simp [docMarks, opens, closes]⟩
    unfold TokenKind.docAfter
    split
    · contradiction
    · contradiction
    · rfl

/-- Openings and closings alternate, also with the mark that led to where the tokens start, and the
last of them leads to where they end. -/
private theorem DocTraced.alternates (traced : DocTraced inside tokens after) :
    (docMark inside :: docMarks tokens).IsChain (· ≠ ·) ∧
      (docMark inside :: docMarks tokens).getLast? = some (docMark after) := by
  induction traced with
  | nil => exact ⟨.singleton _, rfl⟩
  | @cons inside after token tokens kind tail ih =>
    rcases docMarks_cons kind tokens with ⟨side, marks⟩ | ⟨side, marks⟩
    · rw [side] at ih
      rw [marks, List.isChain_cons_cons, List.getLast?_cons_cons]
      exact ⟨⟨by cases inside <;> decide, ih.1⟩, ih.2⟩
    · rwa [side, ← marks] at ih

/-- The last mark tells where the tokens stop. -/
private theorem DocTraced.leavesDocOpen_iff (traced : DocTraced false tokens after) :
    LeavesDocOpen tokens ↔ after = true := by
  have last := traced.alternates.2
  rw [List.getLast?_cons, Option.some_inj] at last
  unfold LeavesDocOpen
  generalize (docMarks tokens).getLast? = mark at last ⊢
  cases mark with
  | none => cases after <;> simp_all [docMark]
  | some mark => cases after <;> simp_all [docMark]

/-- Every token is of a kind that may stand where it stands. -/
private theorem DocTraced.of_split {token : Token}
    (traced : DocTraced false (first ++ token :: second) after) :
    (LeavesDocOpen first → token.kind ∈ [.whitespace, .docStar, .docText, .docClose]) ∧
      (token.kind = .docStar ∨ token.kind = .docText → LeavesDocOpen first) := by
  obtain ⟨inside, head, tail⟩ := traced.split
  cases tail with
  | cons kind _ =>
    rw [head.leavesDocOpen_iff]
    cases inside with
    | true => exact ⟨fun _ => kind, fun _ => rfl⟩
    | false =>
      refine ⟨nofun, ?_⟩
      rintro (star | text)
      · simp [star, docKinds] at kind
      · simp [text, docKinds] at kind

end Traced

/-- The tokens of lines trace doc comments from the mode before the lines to the mode after them. -/
private theorem tokenGroups_docTraced (tabWidth number : Nat) (mode : Mode) (lines : List Line) :
    DocTraced (mode == .doc) (tokenGroups tabWidth number mode lines).flatten
      (modeAfter mode lines == .doc) := by
  induction lines generalizing number mode with
  | nil => exact .nil
  | cons line lines ih =>
    rw [tokenGroups, List.flatten_cons]
    exact (line.docTokens tabWidth number mode).traced.append (ih _ _)

/-- The tokens on the lines above a line. -/
def aboveLine (tokens : List Token) (number : Nat) : List Token :=
  tokens.filter fun token => token.line < number

private theorem aboveLine_split {first second : List (List Token)} {group : List Token}
    {number : Nat} (own : ∀ token ∈ group, token.line = number)
    (lower : ∀ token ∈ first.flatten, token.line < number)
    (upper : ∀ token ∈ second.flatten, number < token.line) :
    aboveLine (first ++ group :: second).flatten number = first.flatten := by
  have before : first.flatten.filter (fun token => token.line < number) = first.flatten :=
    List.filter_eq_self.mpr fun token member => by simpa using lower token member
  have whole : group.filter (fun token => token.line < number) = [] :=
    List.filter_eq_nil_iff.mpr fun token member => by simp [own token member]
  have after : second.flatten.filter (fun token => token.line < number) = [] :=
    List.filter_eq_nil_iff.mpr fun token member => by simpa using (upper token member).le
  unfold aboveLine
  rw [List.flatten_append, List.flatten_cons, List.filter_append, List.filter_append, before, whole,
    after, List.nil_append, List.append_nil]

/-- The tokens of a line and of those above it are found by the number of the line. -/
private theorem tokenGroups_middle {tabWidth number : Nat} {mode : Mode} {earlier later : List Line}
    {line : Line} (visible : ∀ other ∈ earlier ++ line :: later, other.text ≠ []) :
    onLine (tokenGroups tabWidth number mode (earlier ++ line :: later)).flatten
        (number + earlier.length) =
        (line.tokens tabWidth (number + earlier.length) (modeAfter mode earlier)).1 ∧
      aboveLine (tokenGroups tabWidth number mode (earlier ++ line :: later)).flatten
        (number + earlier.length) = (tokenGroups tabWidth number mode earlier).flatten := by
  have head := @tokenGroups_paged tabWidth number mode earlier fun other member =>
    visible other (by simp [member])
  have own := @Line.tokens_laid tabWidth (number + earlier.length) (modeAfter mode earlier) line
    (visible line (by simp))
  have tail := @tokenGroups_paged tabWidth (number + earlier.length + 1)
    (line.parts (modeAfter mode earlier)).2 later fun other member =>
      visible other (by simp [member])
  rw [tokenGroups_append, tokenGroups]
  constructor
  · exact onLine_split (fun _ => own.line_eq) (fun _ member => (head.line_bounds member).2)
      fun _ member => (tail.line_bounds member).1
  · exact aboveLine_split (fun _ => own.line_eq) (fun _ member => (head.line_bounds member).2)
      fun _ member => (tail.line_bounds member).1

/-- The tokens of a physical line are found in it from the mode that the lines above it leave. -/
theorem TokenStream.ofSource_middle (source : List Char) (tabWidth : Nat) {index : Nat}
    {line : Line} (present : (Line.ofText source)[index]? = some line) :
    let earlier := (Line.ofText source).take index
    onLine (ofSource source tabWidth).tokens.toList (1 + index) =
        (line.tokens tabWidth (1 + index) (modeAfter .code earlier)).1 ∧
      aboveLine (ofSource source tabWidth).tokens.toList (1 + index) =
        (tokenGroups tabWidth 1 .code earlier).flatten := by
  obtain ⟨inside, rfl⟩ := List.getElem?_eq_some_iff.mp present
  have cut := List.take_append_drop index (Line.ofText source)
  rw [List.drop_eq_getElem_cons inside] at cut
  have visible : ∀ line ∈ Line.ofText source, line.text ≠ [] :=
    fun _ member => ((Line.ofText_cut source).of_mem member).2
  rw [← cut] at visible
  have middle := @tokenGroups_middle tabWidth 1 .code _ _ _ visible
  rwa [cut, ← ofSource_tokens, List.length_take_of_le inside.le] at middle

/-- A physical line has the tokens that are found in it from a mode, which is the mode inside a doc
comment exactly if the lines above leave one open. -/
private theorem TokenStream.ofSource_line (source : List Char) (tabWidth : Nat) {index : Nat}
    {line : Line} (present : (Line.ofText source)[index]? = some line) :
    ∃ mode, onLine (ofSource source tabWidth).tokens.toList (1 + index) =
        (line.tokens tabWidth (1 + index) mode).1 ∧
      (LeavesDocOpen (aboveLine (ofSource source tabWidth).tokens.toList (1 + index)) ↔
        mode = .doc) := by
  obtain ⟨own, above⟩ := ofSource_middle source tabWidth present
  refine ⟨modeAfter .code ((Line.ofText source).take index), own, ?_⟩
  rw [above, (tokenGroups_docTraced tabWidth 1 .code _).leavesDocOpen_iff, beq_iff_eq]

/-- Doc comments are well formed in every stream. Openings and closings alternate, an opening first.
Inside stand only blanks, stars, texts and the closing, and stars and texts stand nowhere else. A
star has only blanks before it, on a line that starts inside, and a line that starts inside has one
exactly if its first text that is not blank starts with `*` and not with `*/`. A text starts with no
blank and holds no `*/`, and behind it comes the closing or the end of its line. -/
theorem TokenStream.ofSource_docComments (source : List Char) (tabWidth : Nat) :
    let tokens := (ofSource source tabWidth).tokens.toList
    (docMarks tokens).IsChain (· ≠ ·) ∧ (docMarks tokens).head? ≠ some .docClose ∧
      (∀ before token after, tokens = before ++ token :: after →
        (LeavesDocOpen before → token.kind ∈ [.whitespace, .docStar, .docText, .docClose]) ∧
        (token.kind = .docStar ∨ token.kind = .docText → LeavesDocOpen before) ∧
        (token.kind = .docStar → LeavesDocOpen (aboveLine tokens token.line) ∧
          ∀ earlier ∈ onLine before token.line, earlier.kind = .whitespace) ∧
        (token.kind = .docText →
          (∃ c rest, token.content = c :: rest ∧ isBlank c = false) ∧
          ¬ ['*', '/'] <:+: token.content ∧
          (onLine after token.line = [] ∨ ∃ close more,
            onLine after token.line = close :: more ∧ close.kind = .docClose))) ∧
      ∃ lines, Line.Cut source lines ∧ ∀ index line, lines[index]? = some line →
        ((∃ token ∈ onLine tokens (index + 1), token.kind = .docStar) ↔
          LeavesDocOpen (aboveLine tokens (index + 1)) ∧ StartsStar line.body) := by
  intro tokens
  have traced : DocTraced false tokens (modeAfter .code (Line.ofText source) == .doc) := by
    have groups := tokenGroups_docTraced tabWidth 1 .code (Line.ofText source)
    rwa [← ofSource_tokens] at groups
  obtain ⟨first, alternate⟩ := List.isChain_cons.mp traced.alternates.1
  refine ⟨alternate, fun closes => first _ closes rfl, ?_, Line.ofText source,
    Line.ofText_cut source, ?_⟩
  · intro before token after split
    have flat : (tokenGroups tabWidth 1 .code (Line.ofText source)).flatten =
        before ++ token :: after := by rw [← ofSource_tokens, ← split]
    obtain ⟨index, line, atLine, present, _⟩ := (tokenGroups_ofText_paged .code source).token flat
    obtain ⟨mode, own, starts⟩ := ofSource_line source tabWidth present
    have docTokens := line.docTokens tabWidth (1 + index) mode
    rw [← own, ← atLine, show (ofSource source tabWidth).tokens.toList = _ from split,
      onLine_append_cons] at docTokens
    obtain ⟨inner, outer⟩ := (split ▸ traced).of_split
    refine ⟨inner, outer, ?_, docTokens.of_text⟩
    intro star
    obtain ⟨inside, _, blanks⟩ := docTokens.of_star star
    rw [atLine]
    exact ⟨starts.mpr (beq_iff_eq.mp inside), atLine ▸ blanks⟩
  · intro index line present
    obtain ⟨mode, own, starts⟩ := ofSource_line source tabWidth present
    rw [Nat.add_comm index, own, starts, Line.exists_docStar_iff]

end LineWidth
