import LineWidth.Proofs.DocLines
import LineWidth.Proofs.SettingSpellings
import LineWidth.Proofs.TokenOrigin
import Mathlib.Data.List.Chain

/-! # The classes of tokens

Every kind of token has a class of texts, said here by characters and words and not by the order in
which the lexer tries its branches, and a class of characters that would make a token longer. Main
result: what a token shows belongs to the class of its kind, no character that would continue it
stands behind it, a line comment reaches to the end of its line and is a directive exactly if a mark
says so, and no two whitespace tokens stand side by side on a line.
-/

namespace LineWidth

/-- A text that starts with a character of one class and goes on with characters of another. -/
def IsRun (starts goesOn : Char → Bool) (text : List Char) : Prop :=
  ∃ first rest, text = first :: rest ∧ starts first = true ∧ ∀ c ∈ rest, goesOn c = true

/-- The texts that a kind of token may show. -/
def TokenKind.Admits : TokenKind → List Char → Prop
  | .openTag, text => Text.lower text = "<?php".toList
  | .whitespace, text => ∀ c ∈ text, c = ' ' ∨ c = '\t' ∨ c = '\x0c' ∨ c = '\x0b'
  | .docOpen, text => text = "/**".toList
  | .docStar, text => text = "*".toList
  | .docClose, text => text = "*/".toList
  | .use, text => Text.lower text = "use".toList
  | .identifier, text =>
    IsRun isNameStart isNamePart text ∧ Text.lower text ≠ "use".toList ∧
      text.head?.any Text.isDecimal = false
  | .variable, text => ∃ name, text = '$' :: name ∧ IsRun isNameStart isNamePart name
  | .number, text => IsRun Text.isDecimal isNumberPart text
  | .namespaceSeparator, text => text = "\\".toList
  | .punctuation, text => ∃ c, text = [c] ∧ isBlank c = false ∧ isNameStart c = false ∧
      Text.isDecimal c = false ∧ c ≠ '\\' ∧ Quote.ofChar? c = none
  | .comment, text | .directive, text | .docText, text | .constantString, text => text ≠ []

/-- The characters that would make a token of some kind longer. -/
def TokenKind.continues : TokenKind → Char → Bool
  | .whitespace => isBlank
  | .use | .identifier | .variable => isNamePart
  | .number => isNumberPart
  | _ => fun _ => false

/-- The two ways a line comment starts. -/
def OpensLineComment (text : List Char) : Prop := "//".toList <+: text ∨ "#".toList <+: text

/-- A mark, in any case of its letters, follows slashes and hashes and then white space. -/
def IsDirective (text : List Char) : Prop :=
  ∃ signs spaces words, text = signs ++ spaces ++ words ∧ (∀ c ∈ signs, c = '/' ∨ c = '#') ∧
    (∀ c ∈ spaces, Text.isSpace c = true) ∧
    ("phpcs:".toList <+: Text.lower words ∨ "linegauge:".toList <+: Text.lower words)

/-- What a step in some mode says about the text that it takes and the rest of the line. -/
structure Classed (kind : TokenKind) (mode : Mode) (text left : List Char) : Prop where
  admits : kind.Admits text
  stops : ∀ c, left.head? = some c → kind.continues c = false
  toEnd : mode ≠ .block → kind = .comment ∨ kind = .directive → OpensLineComment text →
    left = [] ∧ (kind = .directive ↔ IsDirective text)
  opens : kind = .directive → mode = .code ∧ OpensLineComment text

section Directive

variable {text words : List Char}

private theorem noSign_of_isSpace {c : Char} (space : Text.isSpace c = true) :
    (c == '/' || c == '#') = false := by
  rw [← Bool.not_eq_true, Bool.or_eq_true, beq_iff_eq, beq_iff_eq]
  rintro (rfl | rfl) <;> revert space <;> decide

/-- A mark starts with a letter, which is no slash, no hash and no white space. -/
private theorem head_of_mark (marked : "phpcs:".toList <+: Text.lower words ∨
    "linegauge:".toList <+: Text.lower words) :
    ∃ c rest, words = c :: rest ∧ (c == '/' || c == '#') = false ∧ Text.isSpace c = false := by
  cases words with
  | nil => simp [Text.lower] at marked
  | cons c rest =>
    refine ⟨c, rest, rfl, ?_⟩
    have letter : 'p' = c.toLower ∨ 'l' = c.toLower := by
      simp only [Text.lower, List.map_cons, String.reduceToList, List.cons_prefix_cons] at marked
      exact marked.imp And.left And.left
    refine ⟨?_, ?_⟩
    · rw [← Bool.not_eq_true, Bool.or_eq_true, beq_iff_eq, beq_iff_eq]
      rintro (rfl | rfl) <;> revert letter <;> decide
    · rw [← Bool.not_eq_true]
      intro space
      rw [Text.toLower_of_isSpace space] at letter
      rcases letter with rfl | rfl <;> revert space <;> decide

/-- The kind of a line comment is told by its marks. -/
private theorem lineCommentKind_eq_directive_iff :
    lineCommentKind text = .directive ↔ IsDirective text := by
  have marked (words : List Char) : directiveMarks.any (·.isPrefixOf (Text.lower words)) = true ↔
      "phpcs:".toList <+: Text.lower words ∨ "linegauge:".toList <+: Text.lower words := by
    simp [directiveMarks, List.isPrefixOf_iff_prefix]
  have kind : lineCommentKind text = .directive ↔ directiveMarks.any (·.isPrefixOf (Text.lower
      ((text.dropWhile fun c => c == '/' || c == '#').dropWhile Text.isSpace))) = true := by
    simp only [lineCommentKind]
    split_ifs with holds <;> simp [holds]
  rw [kind, marked]
  constructor
  · intro starts
    refine ⟨text.takeWhile fun c => c == '/' || c == '#',
      (text.dropWhile fun c => c == '/' || c == '#').takeWhile Text.isSpace, _, ?_, ?_, ?_, starts⟩
    · rw [List.append_assoc, List.takeWhile_append_dropWhile, List.takeWhile_append_dropWhile]
    · intro c member
      simpa using List.mem_takeWhile_imp member
    · intro c member
      exact List.mem_takeWhile_imp member
  · rintro ⟨signs, spaces, words, rfl, allSigns, allSpaces, starts⟩
    obtain ⟨c, rest, rfl, noSign, noSpace⟩ := head_of_mark starts
    have signed : ∀ d ∈ signs, (d == '/' || d == '#') = true := by simpa using allSigns
    have signsEnd : ∀ d ∈ (spaces ++ c :: rest).head?, (d == '/' || d == '#') = false := by
      intro d first
      cases spaces with
      | nil =>
        obtain rfl := Option.some.inj first
        exact noSign
      | cons space spaces =>
        obtain rfl := Option.some.inj first
        exact noSign_of_isSpace (allSpaces space (List.mem_cons_self ..))
    have spacesEnd : ∀ d ∈ (c :: rest).head?, Text.isSpace d = false := by
      intro d first
      obtain rfl := Option.some.inj first
      exact noSpace
    rwa [List.append_assoc, Text.dropWhile_padded signed signsEnd,
      Text.dropWhile_padded allSpaces spacesEnd]

end Directive

section Step

variable {kind : TokenKind} {mode : Mode} {text left rest : List Char} {c : Char}

/-- A kind that no line comment has. -/
private theorem Classed.plain (other : kind ≠ .comment ∧ kind ≠ .directive)
    (admits : kind.Admits text) (stops : ∀ c, left.head? = some c → kind.continues c = false) :
    Classed kind mode text left where
  admits := admits
  stops := stops
  toEnd _ comment := absurd comment (not_or.mpr other)
  opens directive := absurd directive other.2

/-- A part that takes all characters of a class after its first one. -/
private theorem Classed.run {member : Char → Bool} (other : kind ≠ .comment ∧ kind ≠ .directive)
    (continues : kind.continues = member) (admits : kind.Admits (c :: rest.takeWhile member)) :
    Classed kind mode (c :: rest.take (rest.takeWhile member).length)
      (rest.drop (rest.takeWhile member).length) := by
  have taken : rest.take (rest.takeWhile member).length = rest.takeWhile member :=
    (List.prefix_iff_eq_take.mp (List.takeWhile_prefix _)).symm
  have dropped : rest.drop (rest.takeWhile member).length = rest.dropWhile member := by
    have left := @List.drop_left _ (rest.takeWhile member) (rest.dropWhile member)
    rwa [List.takeWhile_append_dropWhile] at left
  rw [taken, dropped]
  refine .plain other admits fun d first => ?_
  have stopped := List.head?_dropWhile_not member rest
  rw [first] at stopped
  rw [continues]
  exact stopped

/-- A part of a kind whose tokens nothing continues. -/
private theorem Classed.fixed (other : kind ≠ .comment ∧ kind ≠ .directive)
    (continues : kind.continues = fun _ => false) (admits : kind.Admits text) :
    Classed kind mode text left :=
  .plain other admits fun c _ => congrFun continues c

/-- A comment that does not start as line comments do, unless it goes on from an earlier line. -/
private theorem Classed.inner (fresh : mode ≠ .block → ¬ OpensLineComment text)
    (visible : text ≠ []) :
    Classed .comment mode text left where
  admits := visible
  stops _ _ := rfl
  toEnd outside _ opens := absurd opens (fresh outside)
  opens directive := by cases directive

private theorem isRun_takeWhile {starts goesOn : Char → Bool} (first : starts c = true) :
    IsRun starts goesOn (c :: rest.takeWhile goesOn) :=
  ⟨c, _, rfl, first, fun _ => List.mem_takeWhile_imp⟩

/-- Blanks are whitespace as far as they go, in every mode that looks for them. -/
private theorem Classed.blanks (blank : isBlank c = true) :
    Classed .whitespace mode (c :: rest.take (rest.takeWhile isBlank).length)
      (rest.drop (rest.takeWhile isBlank).length) := by
  refine .run (by decide) rfl fun d member => ?_
  have blanks : isBlank d = true := by
    rcases List.mem_cons.mp member with rfl | member
    · exact blank
    · exact List.mem_takeWhile_imp member
  simpa [isBlank, or_assoc] using blanks

/-- A string is a constant, closed or not. -/
private theorem Step.string_classed (quote : Quote) (ended : Option Nat) :
    Classed (Step.string quote rest ended).kind mode
      (c :: rest.take (Step.string quote rest ended).more)
      (rest.drop (Step.string quote rest ended).more) := by
  have kind : (Step.string quote rest ended).kind = .constantString := by cases ended <;> rfl
  rw [kind]
  exact .fixed (by decide) rfl (List.cons_ne_nil _ _)

/-- A name is the keyword or an identifier, and never starts with a digit. -/
private theorem nameKind_classed (name : isNameStart c = true)
    (noDigit : Text.isDecimal c = false) :
    Classed (nameKind (c :: rest.takeWhile isNamePart)) mode
      (c :: rest.take (rest.takeWhile isNamePart).length)
      (rest.drop (rest.takeWhile isNamePart).length) := by
  unfold nameKind
  split_ifs with use
  · exact .run (by decide) rfl (beq_iff_eq.mp use)
  · refine .run (by decide) rfl ⟨isRun_takeWhile name, fun same => use (beq_iff_eq.mpr same), ?_⟩
    simpa using noDigit

/-- A line comment takes the rest of its line. -/
private theorem lineCommentKind_classed (opens : OpensLineComment (c :: rest)) :
    Classed (lineCommentKind (c :: rest)) .code (c :: rest.take rest.length)
      (rest.drop rest.length) := by
  have kinds : lineCommentKind (c :: rest) = .directive ∨
      lineCommentKind (c :: rest) = .comment := by
    simp only [lineCommentKind]
    split_ifs
    · exact .inl rfl
    · exact .inr rfl
  rw [List.take_length, List.drop_length]
  refine ⟨?_, by simp, fun _ _ _ => ⟨rfl, lineCommentKind_eq_directive_iff⟩, fun _ => ⟨rfl, opens⟩⟩
  rcases kinds with kind | kind <;> rw [kind] <;> exact List.cons_ne_nil _ _

/-- A block comment does not start as line comments do. -/
private theorem not_opensLineComment_block {after : List Char} {more : Nat} (taken : 1 ≤ more) :
    ¬ OpensLineComment ('/' :: ('*' :: after).take more) := by
  obtain ⟨more, rfl⟩ := Nat.exists_eq_add_of_le' taken
  simp [OpensLineComment, List.cons_prefix_cons]

/-- What starts a name also continues one. -/
private theorem isNamePart_of_isNameStart (start : isNameStart c = true) : isNamePart c = true := by
  simp only [isNameStart, isNamePart, Bool.or_eq_true, beq_iff_eq] at start ⊢
  rcases start with (letter | rfl) | wide
  · right
    have small : c.toNat < 0x80 := by
      have cases : (decide ('A'.val ≤ c.val ∧ c.val ≤ 'Z'.val) ||
          decide ('a'.val ≤ c.val) && decide (c.val ≤ 'z'.val)) = true := letter
      simp only [Bool.or_eq_true, Bool.and_eq_true, decide_eq_true_eq,
        UInt32.le_iff_toNat_le] at cases
      have bound : c.val.toNat ≤ 122 := cases.elim (fun upper => upper.2.trans (by decide))
        fun lower => lower.2
      exact Nat.lt_of_le_of_lt bound (by decide)
    simp [Text.isWord, small, Char.isAlphanum, letter]
  · right
    decide
  · exact .inl wide

/-- A dollar sign takes the whole name behind it. -/
private theorem Classed.sigil (name : rest.head?.any isNameStart = true) :
    Classed .variable mode ('$' :: rest.take (rest.takeWhile isNamePart).length)
      (rest.drop (rest.takeWhile isNamePart).length) := by
  obtain ⟨first, head, start⟩ := (Option.any_eq_true _ _).mp name
  obtain ⟨after, rfl⟩ := List.head?_eq_some_iff.mp head
  refine .run (by decide) rfl ⟨_, rfl, ?_⟩
  rw [List.takeWhile_cons_of_pos (isNamePart_of_isNameStart start)]
  exact isRun_takeWhile start

/-- Every step in code takes a text of its class, as far as the class goes. -/
private theorem Step.code_classed :
    Classed (Step.code c rest).kind .code (c :: rest.take (Step.code c rest).more)
      (rest.drop (Step.code c rest).more) := by
  unfold Step.code
  by_cases tag : c = '<' ∧ isOpenTagTail rest
  · rw [if_pos tag]
    refine .fixed (by decide) rfl ?_
    have letters : Text.lower (rest.take 4) = "?php".toList := beq_iff_eq.mp tag.2
    rw [TokenKind.Admits, tag.1, Text.lower, List.map_cons]
    exact congrArg ('<' :: ·) letters
  rw [if_neg tag]
  by_cases blank : isBlank c = true
  · rw [if_pos blank]
    exact .blanks blank
  rw [if_neg blank]
  by_cases doc : c = '/' ∧ "**".toList.isPrefixOf rest ∧ ¬ "**/".toList.isPrefixOf rest
  · rw [if_pos doc]
    obtain ⟨rfl, opens, -⟩ := doc
    obtain ⟨after, rfl⟩ := List.isPrefixOf_iff_prefix.mp opens
    exact .fixed (by decide) rfl (by simp [TokenKind.Admits])
  rw [if_neg doc]
  by_cases block : c = '/' ∧ rest.head? = some '*'
  · rw [if_pos block]
    obtain ⟨rfl, star⟩ := block
    obtain ⟨after, rfl⟩ := List.head?_eq_some_iff.mp star
    have outside {more : Nat} (taken : 1 ≤ more) : Classed .comment .code
        ('/' :: ('*' :: after).take more) (('*' :: after).drop more) :=
      .inner (fun _ => not_opensLineComment_block taken) (List.cons_ne_nil _ _)
    cases closeOffset 0 (('*' :: after).drop 1) with
    | some offset => exact outside (Nat.le_add_left ..)
    | none => exact outside (by simp)
  rw [if_neg block]
  by_cases line : (c = '/' ∧ rest.head? = some '/') ∨ (c = '#' ∧ rest.head? ≠ some '[')
  · rw [if_pos line]
    refine lineCommentKind_classed ?_
    rcases line with ⟨rfl, slash⟩ | ⟨rfl, -⟩
    · obtain ⟨after, rfl⟩ := List.head?_eq_some_iff.mp slash
      exact .inl (by simp [List.cons_prefix_cons])
    · exact .inr (by simp [List.cons_prefix_cons])
  rw [if_neg line]
  cases quoted : Quote.ofChar? c with
  | some quote => exact Step.string_classed quote _
  | none =>
    dsimp only
    split_ifs with sigil number name separator
    · obtain ⟨rfl, name⟩ := sigil
      exact .sigil name
    · exact .run (by simp) rfl (isRun_takeWhile number)
    · exact nameKind_classed name (by simpa using number)
    · exact .fixed (by decide) rfl (by simp [TokenKind.Admits, separator])
    · exact .fixed (by decide) rfl ⟨c, rfl, by simpa using blank, by simpa using name,
        by simpa using number, separator, quoted⟩

private theorem Step.block_classed :
    Classed (Step.block c rest).kind .block (c :: rest.take (Step.block c rest).more)
      (rest.drop (Step.block c rest).more) := by
  unfold Step.block
  split_ifs with blank
  · exact .blanks blank
  · cases closeOffset 0 (c :: rest) with
    | some offset => exact .inner (by simp) (List.cons_ne_nil _ _)
    | none => exact .inner (by simp) (List.cons_ne_nil _ _)

private theorem Step.doc_classed (fresh : Bool) :
    Classed (Step.doc fresh c rest).kind .doc (c :: rest.take (Step.doc fresh c rest).more)
      (rest.drop (Step.doc fresh c rest).more) := by
  unfold Step.doc
  split_ifs with blank close star
  · exact .blanks blank
  · obtain ⟨rfl, slash⟩ := close
    obtain ⟨after, rfl⟩ := List.head?_eq_some_iff.mp slash
    exact .fixed (by decide) rfl (by simp [TokenKind.Admits])
  · obtain ⟨rfl, -⟩ := star
    exact .fixed (by decide) rfl (by simp [TokenKind.Admits])
  · exact .fixed (by simp) rfl (List.cons_ne_nil _ _)

/-- In every mode a step takes a text of the class of its kind, as far as the class goes. -/
private theorem Step.next_classed (mode : Mode) (fresh : Bool) (c : Char) (rest : List Char) :
    Classed (Step.next mode fresh c rest).kind mode
      (c :: rest.take (Step.next mode fresh c rest).more)
      (rest.drop (Step.next mode fresh c rest).more) := by
  cases mode with
  | code => exact Step.code_classed
  | block => exact Step.block_classed
  | doc => exact Step.doc_classed fresh
  | quoted quote => exact Step.string_classed quote _

end Step

/-- Two kinds of tokens that may stand side by side on a line. -/
def TokenKind.MayMeet (first second : TokenKind) : Prop :=
  first = .whitespace → second ≠ .whitespace

section Neighbours

variable {mode final : Mode} {fresh : Bool} {body : List Char} {parts : List Part}

/-- A text whose first part is whitespace starts with a blank. -/
private theorem Scanned.exists_blank (scanned : Scanned mode fresh body parts final)
    (first : (parts.map Part.kind).head? = some .whitespace) :
    ∃ c, body.head? = some c ∧ isBlank c = true := by
  cases scanned with
  | nil => cases first
  | @cons _ _ c rest _ _ step taken tail =>
    have kind : step.kind = .whitespace := Option.some.inj first
    have admits := (Step.next_classed mode fresh c rest).admits
    rw [← taken, kind] at admits
    exact ⟨c, rfl, by simpa [isBlank, or_assoc] using admits c (List.mem_cons_self ..)⟩

/-- Whitespace is taken as far as it goes, so what follows it on the line is something else. -/
private theorem Scanned.isChain_kinds (scanned : Scanned mode fresh body parts final) :
    (parts.map Part.kind).IsChain TokenKind.MayMeet := by
  induction scanned with
  | nil => exact .nil
  | @cons mode fresh c rest parts final step taken tail ih =>
    rw [List.map_cons, List.isChain_cons]
    refine ⟨?_, ih⟩
    intro kind next here there
    obtain ⟨d, behind, blank⟩ := tail.exists_blank (there ▸ next)
    have stops := (Step.next_classed mode fresh c rest).stops
    rw [← taken, show step.kind = .whitespace from here] at stops
    have apart : isBlank d = false := stops d behind
    rw [blank] at apart
    cases apart

/-- A line end becomes a part of its own only behind a part that is not whitespace. -/
private theorem isChain_withEnd (chain : (parts.map Part.kind).IsChain TokenKind.MayMeet)
    (mode : Mode) (ending : Option LineEnd) :
    ((withEnd mode ending parts).map Part.kind).IsChain TokenKind.MayMeet := by
  cases ending with
  | none => exact chain
  | some ending =>
    rcases withEnd_cases mode ending parts with ⟨init, last, rfl, -, given⟩ | ⟨keeps, given⟩
    · rw [given, List.map_append]
      rw [List.map_append] at chain
      exact chain
    · rw [given, List.map_append, List.isChain_append]
      refine ⟨chain, .singleton _, ?_⟩
      intro kind last _ _ here
      rw [Option.mem_def, List.getLast?_map, Option.map_eq_some_iff] at last
      obtain ⟨part, last, rfl⟩ := last
      obtain ⟨init, rfl⟩ := List.getLast?_eq_some_iff.mp last
      have owns := keeps init part rfl
      rw [Part.ownsEnd, here] at owns
      cases owns

variable {tabWidth number : Nat}

private theorem Line.isChain_tokens (mode : Mode) (line : Line) :
    (line.tokens tabWidth number mode).1.IsChain fun first second =>
      first.kind.MayMeet second.kind := by
  obtain ⟨parts, final, scanned, split⟩ := line.parts_scanned mode
  rw [← List.isChain_map Token.kind, Line.tokens, split, map_kind_placeOnto]
  exact isChain_withEnd scanned.isChain_kinds final line.ending

/-- Side by side on a line, no two tokens are whitespace. -/
private theorem isChain_tokenGroups (mode : Mode) {lines : List Line}
    (visible : ∀ line ∈ lines, line.text ≠ []) :
    (tokenGroups tabWidth number mode lines).flatten.IsChain fun first second =>
      first.line = second.line → first.kind.MayMeet second.kind := by
  induction lines generalizing number mode with
  | nil => exact .nil
  | cons line lines ih =>
    have later := fun other member => visible other (List.mem_cons_of_mem line member)
    rw [tokenGroups, List.flatten_cons, List.isChain_append]
    refine ⟨(line.isChain_tokens mode).imp fun _ _ apart _ => apart, ih _ later, ?_⟩
    -- the last token of the line and the first one behind it have different numbers
    intro last atEnd first atStart same
    have own := (line.tokens_laid mode (visible line (List.mem_cons_self ..))).line_eq
      (List.mem_of_getLast? atEnd)
    have bounds := (tokenGroups_paged _ lines later).line_bounds (List.mem_of_mem_head? atStart)
    omega

end Neighbours

/-- Line breaks continue no token. -/
private theorem TokenKind.continues_of_break (kind : TokenKind) {c : Char}
    (breaks : c = '\r' ∨ c = '\n') :
    kind.continues c = false := by
  rcases breaks with rfl | rfl <;> cases kind <;> decide

/-- Tokens are sound and as long as they can be. What a token shows stands at its place in the
source and belongs to the class of its kind, and no character behind it would continue it. A comment
that starts as line comments do, and not inside a block comment, reaches to the end of its line and
is a directive exactly if a mark makes it one; every directive is such a comment, and stands in
code. Side by side on a line, no two tokens are whitespace. -/
theorem TokenStream.ofSource_classes (source : List Char) (tabWidth : Nat) :
    let tokens := (ofSource source tabWidth).tokens.toList
    (∀ before token after, tokens = before ++ token :: after →
      ∃ behind, source.drop (contentLength before) = token.visible ++ behind ∧
        token.kind.Admits token.visible ∧
        (∀ c, behind.head? = some c → token.kind.continues c = false) ∧
        (Scanner.before source (contentLength before) ≠ .comment false →
          token.kind = .comment ∨ token.kind = .directive → OpensLineComment token.visible →
          AtLineEnd behind ∧ (token.kind = .directive ↔ IsDirective token.visible)) ∧
        (token.kind = .directive →
          Scanner.before source (contentLength before) = .code ∧
            OpensLineComment token.visible)) ∧
      ∀ before first second after, tokens = before ++ first :: second :: after →
        first.line = second.line → ¬ (first.kind = .whitespace ∧ second.kind = .whitespace) := by
  intro tokens
  refine ⟨?_, ?_⟩
  · intro before token after split
    have origin := ofSource_origin split
    generalize Scanner.before source (contentLength before) = scanner at origin ⊢
    generalize source.drop (contentLength before) = ahead at origin ⊢
    cases origin with
    | bare kind visible ends =>
      refine ⟨ahead, by rw [visible, List.nil_append], ?_, ?_, ?_, ?_⟩
      · rw [kind, visible]
        exact List.forall_mem_nil _
      · exact fun c first => token.kind.continues_of_break (ends c first)
      · rw [kind]
        rintro - (other | other) <;> cases other
      · rw [kind]
        intro other
        cases other
    | @step mode fresh c rest tail step taken kind visible ends =>
      have classed := Step.next_classed mode fresh c rest
      rw [← taken, ← kind, ← visible] at classed
      refine ⟨rest.drop step.more ++ tail, ?_, classed.admits, ?_, ?_, ?_⟩
      · rw [visible, List.cons_append, List.cons_append, ← List.append_assoc,
          List.take_append_drop]
      · intro d first
        cases left : rest.drop step.more with
        | nil =>
          rw [left, List.nil_append] at first
          exact token.kind.continues_of_break (ends d first)
        | cons e more =>
          rw [left] at first classed
          exact classed.stops d first
      · intro outside comment opens
        have notBlock : mode ≠ .block := by
          rintro rfl
          exact outside rfl
        obtain ⟨left, told⟩ := classed.toEnd notBlock comment opens
        rw [left]
        exact ⟨ends, told⟩
      · intro directive
        obtain ⟨rfl, opens⟩ := classed.opens directive
        exact ⟨rfl, opens⟩
  · intro before first second after split same
    have chain := @isChain_tokenGroups tabWidth 1 .code (Line.ofText source) fun _ member =>
      ((Line.ofText_cut source).of_mem member).2
    rw [← ofSource_tokens, show (ofSource source tabWidth).tokens.toList = _ from split,
      List.isChain_append_cons_cons] at chain
    rintro ⟨here, there⟩
    exact chain.2.1 same here there

end LineWidth
