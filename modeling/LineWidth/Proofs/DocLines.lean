import LineWidth.Proofs.Regions
import LineWidth.Proofs.TokenLayout
import Mathlib.Data.List.DropRight

/-! # Doc comments on a line

What a step of the lexer does about doc comments depends on the mode and on whether only blanks were
read on the line so far. `Step.DocMove` lists the ways a step can go, and `DocTokens` says what
follows for the tokens of a line: which kinds stand inside and outside of a doc comment, where a
star stands, and what the text of a doc comment looks like. A line has a star exactly if it starts
inside a doc comment and its first text starts with a `*` that closes nothing.
-/

namespace LineWidth

/-- Whether a token belongs to a doc comment, blanks apart. -/
def TokenKind.isDoc : TokenKind → Bool
  | .docOpen | .docStar | .docText | .docClose => true
  | _ => false

/-- What one step of the lexer does about doc comments. Outside of them it may open one; inside it
takes blanks, a star that only blanks precede, text up to a close or the end of the line, or a
close. -/
inductive Step.DocMove (fresh : Bool) (c : Char) (rest : List Char) : Mode → Step → Prop
  | outside {mode : Mode} {step : Step} (before : mode ≠ .doc) (kind : step.kind.isDoc = false)
      (after : step.mode ≠ .doc) : DocMove fresh c rest mode step
  | opening {mode : Mode} (before : mode ≠ .doc) : DocMove fresh c rest mode ⟨.docOpen, 2, .doc⟩
  | blank (blank : isBlank c = true) :
      DocMove fresh c rest .doc ⟨.whitespace, (rest.takeWhile isBlank).length, .doc⟩
  | star (first : fresh = true) (star : c = '*') (inside : rest.head? ≠ some '/') :
      DocMove fresh c rest .doc ⟨.docStar, 0, .doc⟩
  | text {more : Nat} (visible : isBlank c = false) (noStar : fresh = true → c ≠ '*')
      (inner : ¬ ['*', '/'] <:+: c :: rest.take more)
      (stop : rest.drop more = [] ∨ ∃ left, rest.drop more = '*' :: '/' :: left) :
      DocMove fresh c rest .doc ⟨.docText, more, .doc⟩
  | closing (star : c = '*') (slash : rest.head? = some '/') :
      DocMove fresh c rest .doc ⟨.docClose, 1, .code⟩

section Close

variable {text : List Char} {offset size : Nat}

/-- There is no close in front of the one that is found. -/
private theorem infix_of_closeOffset (found : closeOffset offset text = some size) :
    ∃ inner left, text = inner ++ '*' :: '/' :: left ∧ size = offset + inner.length ∧
      ¬ ['*', '/'] <:+: inner := by
  induction text generalizing offset with
  | nil => simp [closeOffset] at found
  | cons c text ih =>
    unfold closeOffset at found
    split_ifs at found with closes
    · obtain ⟨rfl, slash⟩ := closes
      obtain ⟨left, rfl⟩ := List.head?_eq_some_iff.mp slash
      exact ⟨[], left, rfl, by simpa using found.symm, by simp⟩
    · obtain ⟨inner, left, rfl, rfl, free⟩ := ih found
      refine ⟨c :: inner, left, rfl, by simp; omega, ?_⟩
      rw [List.infix_cons_iff, not_or]
      refine ⟨?_, free⟩
      intro close
      apply closes
      cases inner with
      | nil => simp [List.cons_prefix_cons] at close
      | cons d inner => simpa [List.cons_prefix_cons, eq_comm] using close

private theorem infix_of_closeOffset_none (missing : closeOffset offset text = none) :
    ¬ ['*', '/'] <:+: text := by
  induction text generalizing offset with
  | nil => simp
  | cons c text ih =>
    unfold closeOffset at missing
    split_ifs at missing with closes
    rw [List.infix_cons_iff, not_or]
    refine ⟨?_, ih missing⟩
    intro close
    apply closes
    obtain ⟨same, slash⟩ := List.cons_prefix_cons.mp close
    exact ⟨same.symm, singleton_prefix_iff.mp slash⟩

end Close

section Step

variable {fresh : Bool} {c : Char} {rest : List Char}

/-- A step in a string stays outside of doc comments. -/
private theorem Step.string_docMove {mode : Mode} (before : mode ≠ .doc) (quote : Quote)
    (ended : Option Nat) : DocMove fresh c rest mode (Step.string quote rest ended) := by
  cases ended with
  | none => exact .outside before rfl nofun
  | some size => exact .outside before rfl nofun

/-- A step in code opens a doc comment or stays outside of them. -/
private theorem Step.code_docMove : DocMove fresh c rest .code (Step.code c rest) := by
  have plain {kind : TokenKind} {more : Nat} {mode : Mode} (other : kind.isDoc = false)
      (after : mode ≠ .doc) : DocMove fresh c rest .code ⟨kind, more, mode⟩ :=
    .outside nofun other after
  unfold Step.code
  split
  · exact plain rfl nofun
  split
  · exact plain rfl nofun
  split
  · exact .opening nofun
  split
  · cases closeOffset 0 (rest.drop 1) with
    | some offset => exact plain rfl nofun
    | none => exact plain rfl nofun
  split
  · apply plain
    · simp only [lineCommentKind]
      split_ifs <;> rfl
    · nofun
  cases Quote.ofChar? c with
  | some quote =>
    apply Step.string_docMove
    nofun
  | none =>
    dsimp only
    split_ifs
    · exact plain rfl nofun
    · exact plain rfl nofun
    · apply plain
      · unfold nameKind
        split_ifs <;> rfl
      · nofun
    · exact plain rfl nofun
    · exact plain rfl nofun

private theorem Step.block_docMove : DocMove fresh c rest .block (Step.block c rest) := by
  unfold Step.block
  split
  · exact .outside nofun rfl nofun
  · cases closeOffset 0 (c :: rest) with
    | some offset => exact .outside nofun rfl nofun
    | none => exact .outside nofun rfl nofun

private theorem Step.doc_docMove : DocMove fresh c rest .doc (Step.doc fresh c rest) := by
  unfold Step.doc
  split_ifs with blank close star
  · exact .blank blank
  · exact .closing close.1 close.2
  · exact .star star.2 star.1 fun slash => close ⟨star.1, slash⟩
  · have visible : isBlank c = false := by simpa using blank
    have noStar : fresh = true → c ≠ '*' := fun first same => star ⟨same, first⟩
    have start : ¬ ['*', '/'] <+: c :: rest := by
      intro opens
      obtain ⟨same, slash⟩ := List.cons_prefix_cons.mp opens
      exact close ⟨same.symm, singleton_prefix_iff.mp slash⟩
    cases found : closeOffset 0 rest with
    | some offset =>
      obtain ⟨inner, left, rfl, rfl, free⟩ := infix_of_closeOffset found
      rw [Option.getD_some, Nat.zero_add]
      refine .text visible noStar ?_ (.inr ⟨left, List.drop_left⟩)
      rw [List.take_left, List.infix_cons_iff, not_or]
      refine ⟨fun opens => start ?_, free⟩
      exact opens.trans (List.prefix_append (c :: inner) _)
    | none =>
      refine .text visible noStar ?_ (.inl List.drop_length)
      rw [Option.getD_none, List.take_length, List.infix_cons_iff, not_or]
      exact ⟨start, infix_of_closeOffset_none found⟩

/-- Every step of the lexer is one of these moves. -/
private theorem Step.next_docMove (mode : Mode) :
    DocMove fresh c rest mode (Step.next mode fresh c rest) := by
  cases mode with
  | code => exact Step.code_docMove
  | block => exact Step.block_docMove
  | doc => exact Step.doc_docMove
  | quoted quote =>
    apply Step.string_docMove
    nofun

end Step

/-- Whether a doc comment is open behind a token of some kind. -/
def TokenKind.docAfter (inside : Bool) : TokenKind → Bool
  | .docOpen => true
  | .docClose => false
  | _ => inside

/-- The kinds of tokens that may stand inside, or outside, of a doc comment. -/
def docKinds : Bool → List TokenKind
  | true => [.whitespace, .docStar, .docText, .docClose]
  | false =>
    [.openTag, .whitespace, .comment, .directive, .docOpen, .use, .namespaceSeparator, .identifier,
      .variable, .number, .constantString, .punctuation]

/-- The tokens of the rest of a line: whether it starts inside a doc comment, whether only blanks
stand in front of it on its line, and whether it stops inside a doc comment. -/
inductive DocTokens : Bool → Bool → List Token → Bool → Prop
  | nil {inside fresh : Bool} : DocTokens inside fresh [] inside
  | plain {inside fresh after : Bool} {token : Token} {tokens : List Token}
      (kind : token.kind ∈ docKinds inside) (other : token.kind ≠ .docStar ∧ token.kind ≠ .docText)
      (tail : DocTokens (token.kind.docAfter inside) (fresh && token.kind == .whitespace) tokens
        after) :
      DocTokens inside fresh (token :: tokens) after
  | star {after : Bool} {token : Token} {tokens : List Token} (kind : token.kind = .docStar)
      (tail : DocTokens true false tokens after) : DocTokens true true (token :: tokens) after
  | text {fresh after : Bool} {token : Token} {tokens : List Token} (kind : token.kind = .docText)
      (visible : ∃ c rest, token.content = c :: rest ∧ isBlank c = false)
      (inner : ¬ ['*', '/'] <:+: token.content)
      (next : tokens = [] ∨ ∃ close more, tokens = close :: more ∧ close.kind = .docClose)
      (tail : DocTokens true false tokens after) : DocTokens true fresh (token :: tokens) after

/-- The end of a line completes no close. -/
private theorem not_infix_append_ending {text : List Char} (free : ¬ ['*', '/'] <:+: text)
    (own : Option LineEnd) : ¬ ['*', '/'] <:+: text ++ own.elim [] LineEnd.chars := by
  cases own with
  | none => simpa using free
  | some ending =>
    have ends : AtLineEnd ending.chars := by simpa using ending.atLineEnd []
    induction text with
    | nil =>
      intro close
      have star : '*' ∈ ending.chars := close.subset (by simp)
      cases ending <;> simp [LineEnd.chars] at star
    | cons c text ih =>
      rw [List.infix_cons_iff, not_or] at free
      rw [List.cons_append, List.infix_cons_iff, not_or]
      refine ⟨?_, ih free.2⟩
      rw [← List.cons_append, Option.elim_some, ends.prefix_iff (by decide)]
      exact free.1

/-- Inside a doc comment a close is a part of its own. -/
private theorem Scanned.head_close {fresh : Bool} {left : List Char} {parts : List Part}
    {final : Mode} (scanned : Scanned .doc fresh ('*' :: '/' :: left) parts final) :
    ∃ more, parts = ⟨.docClose, ['*', '/'], none⟩ :: more := by
  cases scanned with
  | cons taken tail =>
    subst taken
    exact ⟨_, rfl⟩

private theorem whitespace_mem_docKinds (inside : Bool) : .whitespace ∈ docKinds inside := by
  cases inside <;> decide

private theorem DocTokens.of_kind {inside fresh after : Bool} {token : Token} {tokens : List Token}
    {kind : TokenKind} (same : token.kind = kind)
    (allowed : kind ∈ docKinds inside ∧ kind ≠ .docStar ∧ kind ≠ .docText)
    (tail : DocTokens (kind.docAfter inside) (fresh && kind == .whitespace) tokens after) :
    DocTokens inside fresh (token :: tokens) after := by
  subst same
  exact .plain allowed.1 allowed.2 tail

private theorem mem_docKinds_false {kind : TokenKind} (other : kind.isDoc = false) :
    (kind ∈ docKinds false ∧ kind ≠ .docStar ∧ kind ≠ .docText) ∧ kind.docAfter false = false := by
  cases kind <;> simp_all [TokenKind.isDoc, docKinds, TokenKind.docAfter]

/-- The token of a step stands in front of those that follow. It may own the line end. -/
private theorem Step.DocMove.docTokens {fresh after : Bool} {c : Char} {rest : List Char}
    {mode : Mode}
    {step : Step} (move : Step.DocMove fresh c rest mode step) {token : Token} {tokens : List Token}
    {own : Option LineEnd} (kind : token.kind = step.kind)
    (content : token.content = c :: rest.take step.more ++ own.elim [] LineEnd.chars)
    (next : step.kind = .docText → step.mode = .doc →
      (rest.drop step.more = [] ∨ ∃ left, rest.drop step.more = '*' :: '/' :: left) →
      tokens = [] ∨ ∃ close more, tokens = close :: more ∧ close.kind = .docClose)
    (tail : DocTokens (step.mode == .doc) (fresh && step.kind == .whitespace) tokens after) :
    DocTokens (mode == .doc) fresh (token :: tokens) after := by
  cases move with
  | outside before other now =>
    obtain ⟨allowed, same⟩ := mem_docKinds_false other
    rw [beq_eq_false_iff_ne.mpr now] at tail
    rw [beq_eq_false_iff_ne.mpr before]
    exact .of_kind kind allowed (by rwa [same])
  | opening before =>
    rw [beq_eq_false_iff_ne.mpr before]
    exact .of_kind kind (by decide) tail
  | blank blank => exact .of_kind kind ⟨whitespace_mem_docKinds _, nofun, nofun⟩ tail
  | star first star inside =>
    subst first
    exact .star kind tail
  | text visible noStar inner stop =>
    have tail : DocTokens true false tokens after := Bool.and_false fresh ▸ tail
    refine .text kind ⟨c, _, content, visible⟩ ?_ (next rfl rfl stop) tail
    rw [content]
    exact not_infix_append_ending inner own
  | closing star slash => exact .of_kind kind (by decide) tail

/-- The tokens of scanned parts, with the line end given to them. -/
private theorem Scanned.docTokens {tabWidth number : Nat} {mode final : Mode} {fresh : Bool}
    {body : List Char} {parts : List Part} (scanned : Scanned mode fresh body parts final)
    (ending : Option LineEnd) (column : Nat) :
    DocTokens (mode == .doc) fresh
      (placeOnto tabWidth number column [] (withEnd final ending parts)) (final == .doc) := by
  induction scanned generalizing column with
  | @nil mode fresh =>
    cases ending with
    | none => exact .nil
    | some ending => exact .plain (whitespace_mem_docKinds _) ⟨nofun, nofun⟩ .nil
  | @cons mode fresh c rest parts final step taken tail ih =>
    have move : Step.DocMove fresh c rest mode step := taken ▸ Step.next_docMove mode
    -- Text that goes on to the end of its line is the last token, for it owns the line end.
    by_cases keeps : ending = none ∨ parts ≠ [] ∨
        Part.ownsEnd final ⟨step.kind, c :: rest.take step.more, none⟩ = false
    · rw [withEnd_cons keeps, placeOnto_cons]
      refine move.docTokens rfl rfl ?_ (ih _)
      intro text inside stop
      rw [inside] at tail
      rcases stop with nothing | ⟨left, close⟩
      · rw [nothing] at tail
        cases tail
        have unended : ending = none := by simpa [Part.ownsEnd, text] using keeps
        rw [unended]
        exact .inl rfl
      · rw [close] at tail
        obtain ⟨more, rfl⟩ := tail.head_close
        rw [withEnd_cons (.inr (.inr rfl)), placeOnto_cons]
        exact .inr ⟨_, _, rfl, rfl⟩
    · push Not at keeps
      obtain ⟨ended, rfl, owns⟩ := keeps
      obtain ⟨ending, rfl⟩ := Option.ne_none_iff_exists'.mp ended
      obtain ⟨_, rfl⟩ := tail.eq_nil
      have given : withEnd step.mode (some ending) [⟨step.kind, c :: rest.take step.more, none⟩] =
          [⟨step.kind, c :: rest.take step.more, some ending⟩] := by
        simp [withEnd, endParts, owns]
      rw [given, placeOnto_cons]
      exact move.docTokens rfl rfl (fun _ _ _ => .inl rfl) .nil

/-- The tokens of a line that is read from some mode. -/
theorem Line.docTokens (tabWidth number : Nat) (mode : Mode) (line : Line) :
    DocTokens (mode == .doc) true (line.tokens tabWidth number mode).1
      ((line.parts mode).2 == .doc) := by
  obtain ⟨parts, final, scanned, split⟩ := line.parts_scanned mode
  rw [Line.tokens, split]
  exact scanned.docTokens line.ending 1

section Line

variable {inside fresh after : Bool} {prior next : List Token} {token : Token}

/-- Only blanks precede a star on its line, and the line starts inside a doc comment. -/
theorem DocTokens.of_star (line : DocTokens inside fresh (prior ++ token :: next) after)
    (star : token.kind = .docStar) :
    inside = true ∧ fresh = true ∧ ∀ earlier ∈ prior, earlier.kind = .whitespace := by
  induction prior generalizing inside fresh with
  | nil =>
    cases line with
    | plain kind other tail => exact absurd star other.1
    | star kind tail => exact ⟨rfl, rfl, by simp⟩
    | text kind visible inner next tail => simp [star] at kind
  | cons first prior ih =>
    cases line with
    | plain kind other tail =>
      obtain ⟨inner, blanks, rest⟩ := ih tail
      obtain ⟨fresh, blank⟩ := Bool.and_eq_true_iff.mp blanks
      have blank : first.kind = .whitespace := by simpa using blank
      rw [blank] at inner
      exact ⟨inner, fresh, by simpa [blank] using rest⟩
    | star kind tail => exact absurd (ih tail).2.1 (by decide)
    | text kind visible inner next tail => exact absurd (ih tail).2.1 (by decide)

/-- The text of a doc comment starts with no blank, holds no close, and stops before one or with its
line. -/
theorem DocTokens.of_text (line : DocTokens inside fresh (prior ++ token :: next) after)
    (text : token.kind = .docText) :
    (∃ c rest, token.content = c :: rest ∧ isBlank c = false) ∧
      ¬ ['*', '/'] <:+: token.content ∧
      (next = [] ∨ ∃ close more, next = close :: more ∧ close.kind = .docClose) := by
  induction prior generalizing inside fresh with
  | nil =>
    cases line with
    | plain kind other tail => exact absurd text other.2
    | star kind tail => simp [text] at kind
    | text kind visible inner next tail => exact ⟨visible, inner, next⟩
  | cons first prior ih =>
    cases line with
    | plain kind other tail => exact ih tail
    | star kind tail => exact ih tail
    | text kind visible inner next tail => exact ih tail

end Line

/-- A text in front of which blanks are skipped, and which then starts with a star that closes no
comment. -/
def StartsStar (text : List Char) : Prop :=
  ['*'] <+: text.dropWhile isBlank ∧ ¬ ['*', '/'] <+: text.dropWhile isBlank

section Star

variable {fresh : Bool} {c : Char} {rest : List Char}

private theorem startsStar_blank (blank : isBlank c = true) :
    StartsStar (c :: rest) ↔ StartsStar (rest.drop (rest.takeWhile isBlank).length) := by
  have same : rest.drop (rest.takeWhile isBlank).length = rest.dropWhile isBlank := by
    have whole : (rest.takeWhile isBlank ++ rest.dropWhile isBlank).drop
        (rest.takeWhile isBlank).length = rest.dropWhile isBlank := List.drop_left
    rwa [List.takeWhile_append_dropWhile] at whole
  unfold StartsStar
  rw [same, List.dropWhile_cons_of_pos blank, List.dropWhile_idempotent]

private theorem startsStar_visible (visible : isBlank c = false) :
    StartsStar (c :: rest) ↔ c = '*' ∧ rest.head? ≠ some '/' := by
  unfold StartsStar
  rw [List.dropWhile_cons_of_neg (by simp [visible]), List.cons_prefix_cons, List.cons_prefix_cons,
    singleton_prefix_iff]
  simp only [List.nil_prefix, and_true, eq_comm]
  tauto

/-- A star is scanned exactly where blanks in front of it reach back to a start inside a doc
comment. -/
private theorem Scanned.docStar_mem_iff {mode final : Mode} {body : List Char} {parts : List Part}
    (scanned : Scanned mode fresh body parts final) :
    .docStar ∈ parts.map Part.kind ↔ mode = .doc ∧ fresh = true ∧ StartsStar body := by
  induction scanned with
  | nil => simp [StartsStar]
  | @cons mode fresh c rest parts final step taken tail ih =>
    have move : Step.DocMove fresh c rest mode step := taken ▸ Step.next_docMove mode
    rw [List.map_cons, List.mem_cons, ih]
    clear ih taken tail
    cases move with
    | outside before other after =>
      have own : .docStar ≠ step.kind := fun same => by simp [← same, TokenKind.isDoc] at other
      simp [own, after, before]
    | opening before => simp [before]
    | blank blank => simp [startsStar_blank blank]
    | star first star inside =>
      subst star
      simp [first, startsStar_visible (show isBlank '*' = false by decide), inside]
    | text visible noStar inner stop =>
      have other : ¬ (fresh = true ∧ StartsStar (c :: rest)) := by
        rintro ⟨first, starts⟩
        exact noStar first ((startsStar_visible visible).mp starts).1
      simp [other]
    | closing star slash =>
      subst star
      simp [startsStar_visible (show isBlank '*' = false by decide), slash]

end Star

/-- The line end brings in no kind but whitespace. -/
private theorem mem_kinds_withEnd {kind : TokenKind} (visible : kind ≠ .whitespace) (mode : Mode)
    (ending : Option LineEnd) (parts : List Part) :
    kind ∈ (withEnd mode ending parts).map Part.kind ↔ kind ∈ parts.map Part.kind := by
  cases ending with
  | none => rfl
  | some ending =>
    rcases withEnd_cases mode ending parts with ⟨init, last, rfl, _, given⟩ | ⟨_, given⟩
    · rw [given, List.map_append, List.map_append]
      rfl
    · simp [given, visible]

theorem map_kind_placeOnto (tabWidth number column : Nat) (parts : List Part) :
    (placeOnto tabWidth number column [] parts).map Token.kind = parts.map Part.kind := by
  induction parts generalizing column with
  | nil => rfl
  | cons part parts ih => rw [placeOnto_cons, List.map_cons, List.map_cons, ih]

/-- A line has a star exactly if it starts inside a doc comment and with a star, blanks apart. -/
theorem Line.exists_docStar_iff (tabWidth number : Nat) (mode : Mode) (line : Line) :
    (∃ token ∈ (line.tokens tabWidth number mode).1, token.kind = .docStar) ↔
      mode = .doc ∧ StartsStar line.body := by
  obtain ⟨parts, final, scanned, split⟩ := line.parts_scanned mode
  rw [← List.mem_map, Line.tokens, split, map_kind_placeOnto, mem_kinds_withEnd (by decide),
    scanned.docStar_mem_iff]
  simp

end LineWidth
