import LineWidth.Proofs.Regions
import Mathlib.Data.List.TakeWhile

/-! # Every step of the lexer stays in one region

The lexer splits one line at a time and carries a mode; the scanner of `Regions` reads the whole
source. One step of the lexer in any mode takes a part that the scanner reads inside one region, and
leaves the scanner where the lexer's new mode says. At the end of a line the two may differ for a
moment: the scanner is still in a line comment, or behind a backslash that escapes the line break.
-/

namespace LineWidth

/-- The kinds of tokens whose text may lie in a region. -/
def Region.kinds : Region → List TokenKind
  | .code =>
    [.openTag, .whitespace, .use, .namespaceSeparator, .identifier, .variable, .number,
      .punctuation]
  | .lineComment => [.comment, .directive]
  | .comment false => [.comment, .whitespace]
  | .comment true => [.docOpen, .docStar, .docText, .docClose, .whitespace]
  | .string _ => [.constantString]

/-- Whether a region is a single token on each line: so are line comments and strings. -/
def Region.undivided : Region → Bool
  | .lineComment | .string _ => true
  | .code | .comment _ => false

@[simp] theorem Region.undivided_code : Region.code.undivided = false := rfl

@[simp] theorem Region.undivided_comment (doc : Bool) :
    (Region.comment doc).undivided = false := rfl

/-- The marks of some code points of a region, of which only the first may open it. -/
def Region.marks (region : Region) (opens : Bool) : Nat → List Mark
  | 0 => []
  | count + 1 => ⟨region, opens⟩ :: List.replicate count ⟨region, false⟩

/-- Where the scanner stands when the lexer is in a mode. -/
def Mode.scanner : Mode → Scanner
  | .code => .code
  | .block => .comment false
  | .doc => .comment true
  | .quoted quote => .string quote false

/-- Where the scanner may stand at the end of a line that leaves the lexer in a mode: still in a
line comment, or behind a backslash that escapes the line break. -/
inductive Mode.Rests : Mode → Scanner → Prop
  | same {mode : Mode} : Rests mode mode.scanner
  | lineComment : Rests .code .lineComment
  | escaped {quote : Quote} : Rests (.quoted quote) (.string quote true)

/-- A text of some kind that the scanner reads inside one region, to its end or that of the line if
the region is undivided. -/
structure Piece (region : Region) (opens : Bool) (kind : TokenKind) (scanner : Scanner)
    (text ahead : List Char) (next : Scanner) : Prop where
  admitted : kind ∈ region.kinds
  reads : Reads ahead scanner text (region.marks opens text.length) next
  ends : region.undivided = true → next = .code ∨ AtLineEnd ahead

/-- A step of the lexer is read inside one region, and unless the line is over it leaves the scanner
where the mode says and outside of strings. -/
def Step.Simulated (step : Step) (mode : Mode) (c : Char) (rest tail : List Char) : Prop :=
  ∃ region opens next,
    Piece region opens step.kind mode.scanner (c :: rest.take step.more)
      (rest.drop step.more ++ tail) next ∧
    (region.undivided = true → mode.scanner = .code ∨ mode.isQuoted = true) ∧
    step.mode.Rests next ∧
    (next = step.mode.scanner ∧ step.mode.isQuoted = false ∨ rest.drop step.more = [])

/-- A class without the four characters that may open something is plain. -/
private theorem isPlain_of_class {member : Char → Bool}
    (excludes : member '/' = false ∧ member '#' = false ∧ member '\'' = false ∧ member '"' = false)
    {c : Char} (within : member c = true) : isPlain c = true := by
  obtain ⟨slash, hash, single, double⟩ := excludes
  have apart {d : Char} (outside : member d = false) : c ≠ d := by
    rintro rfl
    rw [within] at outside
    cases outside
  simp [isPlain, Quote.ofChar?, apart slash, apart hash, apart single, apart double]

/-- A comment that is read up to and with its close. -/
private theorem Reads.close {doc : Bool} {inner ahead : List Char}
    (reads : Reads (['*', '/'] ++ ahead) (.comment doc) inner
      (List.replicate inner.length ⟨.comment doc, false⟩) (.comment doc)) :
    Reads ahead (.comment doc) (inner ++ ['*', '/'])
      (List.replicate (inner ++ ['*', '/']).length ⟨.comment doc, false⟩) .code := by
  rw [List.length_append, List.replicate_add]
  exact reads.append reads_close

section Step

variable {step : Step} {mode : Mode} {region : Region} {opens : Bool} {next : Scanner}
  {kind : TokenKind} {c : Char} {rest taken left tail : List Char}

/-- A step is simulated when the characters that it takes are read inside one region. -/
private theorem Step.Simulated.intro (whole : rest = taken ++ left)
    (more : step.more = taken.length) (admitted : step.kind ∈ region.kinds)
    (reads : Reads (left ++ tail) mode.scanner (c :: taken)
      (⟨region, opens⟩ :: List.replicate taken.length ⟨region, false⟩) next)
    (starts : region.undivided = true → mode.scanner = .code ∨ mode.isQuoted = true)
    (ends : region.undivided = true → next = .code ∨ AtLineEnd (left ++ tail))
    (rests : step.mode.Rests next)
    (settled : next = step.mode.scanner ∧ step.mode.isQuoted = false ∨ left = []) :
    step.Simulated mode c rest tail := by
  subst whole
  unfold Step.Simulated
  rw [more, List.take_left, List.drop_left]
  exact ⟨region, opens, next, ⟨admitted, reads, ends⟩, starts, rests, settled⟩

/-- A step over plain characters stays in code. -/
private theorem Step.Simulated.of_plain (whole : rest = taken ++ left)
    (admitted : kind ∈ Region.code.kinds) (plain : ∀ d ∈ c :: taken, isPlain d = true) :
    Step.Simulated ⟨kind, taken.length, .code⟩ .code c rest tail :=
  .intro whole rfl admitted
    (.replicate fun d member ahead => Scanner.read_code_plain (plain d member) ahead) (by simp)
    (by simp) .same (.inl ⟨rfl, rfl⟩)

/-- A run of characters of a class that starts with a plain character is plain. -/
private theorem Step.Simulated.of_class {member : Char → Bool} (admitted : kind ∈ Region.code.kinds)
    (first : isPlain c = true)
    (excludes : member '/' = false ∧ member '#' = false ∧ member '\'' = false ∧
      member '"' = false) :
    Step.Simulated ⟨kind, (rest.takeWhile member).length, .code⟩ .code c rest tail := by
  refine .of_plain List.takeWhile_append_dropWhile.symm admitted fun d within => ?_
  rcases List.mem_cons.mp within with rfl | within
  · exact first
  · exact isPlain_of_class excludes (List.mem_takeWhile_imp within)

/-- A step inside a comment that does not leave it. -/
private theorem Step.Simulated.of_inner {doc : Bool} (standing : mode.scanner = .comment doc)
    (whole : rest = taken ++ left) (admitted : kind ∈ (Region.comment doc).kinds)
    (reads : Reads (left ++ tail) (.comment doc) (c :: taken)
      (List.replicate (c :: taken).length ⟨.comment doc, false⟩) (.comment doc)) :
    Step.Simulated ⟨kind, taken.length, mode⟩ mode c rest tail := by
  have outside : mode.isQuoted = false := by
    cases mode <;> simp_all [Mode.scanner, Mode.isQuoted]
  have within : Reads (left ++ tail) mode.scanner (c :: taken)
      (⟨.comment doc, false⟩ :: List.replicate taken.length ⟨.comment doc, false⟩)
      (.comment doc) := by
    rw [standing]
    exact reads
  exact .intro whole rfl admitted within (by simp) (by simp) (standing ▸ .same)
    (.inl ⟨standing.symm, outside⟩)

/-- Blanks in a comment do not end it. -/
private theorem Step.Simulated.of_blanks {doc : Bool} (standing : mode.scanner = .comment doc)
    (blank : isBlank c = true) :
    Step.Simulated ⟨.whitespace, (rest.takeWhile isBlank).length, mode⟩ mode c rest tail := by
  refine .of_inner standing List.takeWhile_append_dropWhile.symm (by cases doc <;> decide)
    (.replicate fun d within ahead => ?_)
  have blanks : isBlank d = true := by
    rcases List.mem_cons.mp within with rfl | within
    · exact blank
    · exact List.mem_takeWhile_imp within
  apply Scanner.read_comment_inner
  rintro rfl
  exact absurd blanks (by decide)

/-- A string that opens in code is closed on its line or goes on behind it. -/
private theorem Step.simulated_open {quote : Quote} (ends : AtLineEnd tail)
    (opened : Scanner.code.read c (rest ++ tail) = (⟨.string quote, true⟩, .string quote false)) :
    (Step.string quote rest (quoteEnd quote.char 0 rest)).Simulated .code c rest tail := by
  cases found : quoteEnd quote.char 0 rest with
  | some size =>
    obtain ⟨inner, left, rfl, rfl, reads⟩ := reads_of_quoteEnd found
    rw [List.append_assoc] at opened
    exact .intro rfl (Nat.zero_add _) (List.mem_singleton_self _) (.cons opened (reads _))
      (fun _ => .inl rfl) (fun _ => .inl rfl) .same (.inl ⟨rfl, rfl⟩)
  | none =>
    obtain ⟨escaped, reads⟩ := reads_of_quoteEnd_none found
    refine .intro (List.append_nil _).symm rfl (List.mem_singleton_self _)
      (.cons opened (reads tail)) (fun _ => .inl rfl) (fun _ => .inr ends) ?_ (.inr rfl)
    cases escaped with
    | false => exact .same
    | true => exact .escaped

/-- A string that goes on from an earlier line is closed on its line or goes on behind it. -/
private theorem Step.simulated_resumed {quote : Quote} (ends : AtLineEnd tail) :
    (Step.string quote rest ((quoteEnd quote.char 0 (c :: rest)).map (· - 1))).Simulated
      (.quoted quote) c rest tail := by
  cases found : quoteEnd quote.char 0 (c :: rest) with
  | some size =>
    obtain ⟨inner, left, whole, rfl, reads⟩ := reads_of_quoteEnd found
    cases inner with
    | nil => cases reads []
    | cons first inner =>
      obtain ⟨rfl, rfl⟩ := List.cons.inj whole
      exact .intro rfl (by simp [Step.string]) (List.mem_singleton_self _) (reads _)
        (fun _ => .inr rfl) (fun _ => .inl rfl) .same (.inl ⟨rfl, rfl⟩)
  | none =>
    obtain ⟨escaped, reads⟩ := reads_of_quoteEnd_none found
    refine .intro (List.append_nil _).symm rfl (List.mem_singleton_self _) (reads tail)
      (fun _ => .inr rfl) (fun _ => .inr ends) ?_ (.inr rfl)
    cases escaped with
    | false => exact .same
    | true => exact .escaped

/-- A block comment that opens on a line is closed there or goes on behind it. -/
private theorem Step.simulated_block {after : List Char} (ends : AtLineEnd tail)
    (opened : Scanner.code.read '/' ('*' :: after ++ tail) =
      (⟨.comment false, true⟩, .opening false)) :
    Step.Simulated (match closeOffset 0 after with
      | some offset => ⟨.comment, offset + 3, .code⟩
      | none => ⟨.comment, ('*' :: after).length, .block⟩) .code '/' ('*' :: after) tail := by
  cases found : closeOffset 0 after with
  | some offset =>
    obtain ⟨inner, left, rfl, rfl, reads⟩ := reads_of_closeOffset false found
    have inside := (reads tail).close
    rw [← List.cons_append, List.append_assoc] at opened
    exact .intro (List.cons_append ..).symm (by simp) (List.mem_cons_self ..)
      (.cons opened (.cons rfl inside)) (by simp) (by simp) .same (.inl ⟨rfl, rfl⟩)
  | none =>
    have inside := reads_of_closeOffset_none false found ends
    exact .intro (List.append_nil _).symm rfl (List.mem_cons_self ..)
      (.cons opened (.cons rfl inside)) (by simp) (by simp) .same (.inl ⟨rfl, rfl⟩)

/-- A doc comment opens with three characters. -/
private theorem Step.simulated_doc {after : List Char} (ends : AtLineEnd tail)
    (opened : Scanner.code.read '/' ('*' :: '*' :: after ++ tail) =
      (⟨.comment true, true⟩, .opening true)) (inside : after.head? ≠ some '/') :
    Step.Simulated ⟨.docOpen, 2, .doc⟩ .code '/' ('*' :: '*' :: after) tail := by
  have star : (Scanner.comment true).read '*' (after ++ tail) =
      (⟨.comment true, false⟩, .comment true) := by
    refine Scanner.read_comment fun close => inside ?_
    rw [← singleton_prefix_iff, ends.prefix_iff (by decide), singleton_prefix_iff] at close
    exact close.2
  have whole : '*' :: '*' :: after = ['*', '*'] ++ after := rfl
  exact .intro whole rfl (by decide) (.cons opened (.cons rfl (.cons star .nil))) (by simp)
    (by simp) .same (.inl ⟨rfl, rfl⟩)

/-- Every step in code is read inside one region. -/
private theorem Step.code_simulated (free : BreakFree rest) (ends : AtLineEnd tail) :
    (Step.code c rest).Simulated .code c rest tail := by
  have read := @Scanner.read_code c rest tail ends
  unfold Step.code
  by_cases tag : c = '<' ∧ isOpenTagTail rest
  · rw [if_pos tag]
    have letters : (rest.take 4).map Char.toLower = "?php".toList := by
      simpa [isOpenTagTail, Text.lower] using tag.2
    have four : (rest.take 4).length = 4 := by
      simpa using congrArg List.length letters
    rw [← four]
    refine .of_plain (List.take_append_drop 4 rest).symm (by decide) fun d member => ?_
    rcases List.mem_cons.mp member with rfl | member
    · rw [tag.1]
      decide
    · have letter : "?php".toList.contains d.toLower = true := by
        rw [← letters, List.contains_iff_mem]
        exact List.mem_map_of_mem member
      exact @isPlain_of_class (fun d => "?php".toList.contains d.toLower) (by decide) d letter
  rw [if_neg tag]
  by_cases blank : isBlank c = true
  · rw [if_pos blank]
    exact .of_class (by decide) (isPlain_of_class (by decide) blank) (by decide)
  rw [if_neg blank]
  by_cases doc : c = '/' ∧ "**".toList.isPrefixOf rest ∧ ¬ "**/".toList.isPrefixOf rest
  · rw [if_pos doc]
    simp only [List.isPrefixOf_iff_prefix] at doc
    obtain ⟨rfl, ⟨after, rfl⟩, noClose⟩ := doc
    have inside : ¬ ['/'] <+: after := by simpa [List.cons_prefix_cons] using noClose
    exact Step.simulated_doc ends (by simpa [inside] using read)
      fun slash => inside (singleton_prefix_iff.mpr slash)
  rw [if_neg doc]
  by_cases block : c = '/' ∧ rest.head? = some '*'
  · rw [if_pos block]
    rw [if_pos block] at read
    obtain ⟨rfl, star⟩ := block
    have plain : decide ("**".toList <+: rest ∧ ¬ "**/".toList <+: rest) = false := by
      simpa [List.isPrefixOf_iff_prefix] using doc
    simp only [plain] at read
    obtain ⟨after, rfl⟩ := List.head?_eq_some_iff.mp star
    exact Step.simulated_block ends read
  rw [if_neg block]
  rw [if_neg block] at read
  by_cases line : (c = '/' ∧ rest.head? = some '/') ∨ (c = '#' ∧ rest.head? ≠ some '[')
  · rw [if_pos line]
    rw [if_pos line] at read
    have inside : Reads tail .lineComment rest (List.replicate rest.length ⟨.lineComment, false⟩)
        .lineComment := .replicate fun d member ahead => by simp [Scanner.read, free d member]
    have kind : lineCommentKind (c :: rest) ∈ Region.lineComment.kinds := by
      simp only [lineCommentKind]
      split_ifs <;> decide
    exact .intro (List.append_nil _).symm rfl kind (.cons read inside) (fun _ => .inl rfl)
      (fun _ => .inr ends) .lineComment (.inr rfl)
  rw [if_neg line]
  rw [if_neg line] at read
  cases quoted : Quote.ofChar? c with
  | some quote =>
    rw [quoted] at read
    obtain rfl : c = quote.char := by
      unfold Quote.ofChar? at quoted
      split_ifs at quoted with single double
      · obtain rfl := Option.some.inj quoted
        exact single
      · obtain rfl := Option.some.inj quoted
        exact double
    exact Step.simulated_open ends read
  | none =>
    dsimp only
    split_ifs with sigil number name separator
    · exact .of_class (by decide) (by simp [sigil.1]; decide) (by decide)
    · exact .of_class (by decide) (isPlain_of_class (by decide) number) (by decide)
    · exact .of_class (by unfold nameKind; split_ifs <;> decide)
        (isPlain_of_class (by decide) name) (by decide)
    · exact .of_plain (List.nil_append _).symm (by decide) (by simp [separator]; decide)
    · rw [quoted] at read
      exact .intro (List.nil_append _).symm rfl (by decide) (.cons read .nil) (by simp) (by simp)
        .same (.inl ⟨rfl, rfl⟩)

/-- A step in a block comment stays in it or closes it. -/
private theorem Step.block_simulated (ends : AtLineEnd tail) :
    (Step.block c rest).Simulated .block c rest tail := by
  unfold Step.block
  split_ifs with blank
  · exact .of_blanks rfl blank
  · cases found : closeOffset 0 (c :: rest) with
    | some offset =>
      obtain ⟨inner, left, whole, rfl, reads⟩ := reads_of_closeOffset false found
      have inside := (reads tail).close
      obtain ⟨taken, same⟩ : ∃ taken, inner ++ ['*', '/'] = c :: taken := by
        cases inner with
        | nil => exact ⟨['/'], by simp_all⟩
        | cons first inner => exact ⟨inner ++ ['*', '/'], by simp_all⟩
      rw [same] at whole inside
      have count := congrArg List.length same
      simp only [List.length_append, List.length_cons, List.length_nil] at count
      exact .intro (List.cons.inj whole).2 (by simp; omega) (List.mem_cons_self ..) inside
        (by simp) (by simp) .same (.inl ⟨rfl, rfl⟩)
    | none =>
      exact .of_inner rfl (List.append_nil _).symm (by decide)
        (reads_of_closeOffset_none false found ends)

/-- A step in a doc comment stays in it or closes it. -/
private theorem Step.doc_simulated (fresh : Bool) (ends : AtLineEnd tail) :
    (Step.doc fresh c rest).Simulated .doc c rest tail := by
  unfold Step.doc
  split_ifs with blank close star
  · exact .of_blanks rfl blank
  · obtain ⟨rfl, slash⟩ := close
    obtain ⟨left, rfl⟩ := List.head?_eq_some_iff.mp slash
    exact .intro (List.singleton_append ..).symm rfl (by decide) reads_close (by simp) (by simp)
      .same (.inl ⟨rfl, rfl⟩)
  all_goals
    have here : (Scanner.comment true).read c (rest ++ tail) =
        (⟨.comment true, false⟩, .comment true) := by
      apply Scanner.read_comment
      rwa [← singleton_prefix_iff, ends.prefix_iff (by decide), singleton_prefix_iff]
  · exact .of_inner rfl (List.nil_append _).symm (by decide) (.cons here .nil)
  · cases found : closeOffset 0 rest with
    | some offset =>
      obtain ⟨inner, left, rfl, rfl, reads⟩ := reads_of_closeOffset true found
      rw [List.append_assoc, List.append_assoc] at here
      rw [List.append_assoc, Nat.zero_add]
      exact .of_inner rfl rfl (by decide) (.cons here (reads tail))
    | none =>
      exact .of_inner rfl (List.append_nil _).symm (by decide)
        (.cons here (reads_of_closeOffset_none true found ends))

/-- In every mode a step is read inside one region. -/
theorem Step.next_simulated (mode : Mode) (fresh : Bool) (free : BreakFree rest)
    (ends : AtLineEnd tail) : (Step.next mode fresh c rest).Simulated mode c rest tail := by
  cases mode with
  | code => exact Step.code_simulated free ends
  | block => exact Step.block_simulated ends
  | doc => exact Step.doc_simulated fresh ends
  | quoted quote => exact Step.simulated_resumed ends

end Step

end LineWidth
