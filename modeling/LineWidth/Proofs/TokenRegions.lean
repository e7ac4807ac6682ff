import LineWidth.Proofs.StepRegions
import LineWidth.Proofs.TokenLayout

/-! # Tokens and regions

The lexer reads a source line by line and carries only a mode from one line to the next; the scanner
of `Regions` reads the source as one text. `Traced` runs the two side by side over the tokens of a
text. Main result: at the start of every line the carried mode is where the scanner stands, and what
a token shows lies in one region that admits the kind of the token.
-/

namespace LineWidth

/-- Tokens of a text that the scanner reads one after the other: the visible text of each one inside
one region, and then its line end. -/
inductive Traced (ahead : List Char) : Scanner → List Char → List Token → Scanner → Prop
  | nil {scanner : Scanner} : Traced ahead scanner [] [] scanner
  | cons {region : Region} {opens : Bool} {scanner middle next final : Scanner} {token : Token}
      {tokens : List Token} {breaks rest : List Char} {marks : List Mark}
      (content : token.content = token.visible ++ breaks)
      (broken : ∀ c ∈ breaks, c = '\r' ∨ c = '\n')
      (piece : Piece region opens token.kind scanner token.visible (breaks ++ (rest ++ ahead))
        middle)
      (starts : region.undivided = true → scanner = .code ∨ token.column = 1)
      (ended : Reads (rest ++ ahead) middle breaks marks next)
      (tail : Traced ahead next rest tokens final) :
      Traced ahead scanner (token.content ++ rest) (token :: tokens) final

/-- The number of code points of some tokens, line ends included. -/
def contentLength (tokens : List Token) : Nat := (tokens.flatMap Token.content).length

@[simp] theorem contentLength_cons (token : Token) (tokens : List Token) :
    contentLength (token :: tokens) = token.content.length + contentLength tokens := by
  simp [contentLength]

section Traced

variable {ahead text first second : List Char} {scanner middle final : Scanner}
  {tokens firstTokens secondTokens : List Token}

private theorem Traced.append (head : Traced (second ++ ahead) scanner first firstTokens middle)
    (tail : Traced ahead middle second secondTokens final) :
    Traced ahead scanner (first ++ second) (firstTokens ++ secondTokens) final := by
  induction head with
  | nil => exact tail
  | @cons _ _ _ _ _ _ _ _ breaks rest _ content broken piece starts ended _ ih =>
    rw [← List.append_assoc rest] at piece ended
    rw [List.append_assoc]
    exact .cons content broken piece starts ended (ih tail)

/-- Traced tokens are read as one text. -/
theorem Traced.reads (traced : Traced ahead scanner text tokens final) :
    ∃ marks, Reads ahead scanner text marks final := by
  induction traced with
  | nil => exact ⟨[], .nil⟩
  | cons content broken piece starts ended tail ih =>
    obtain ⟨marks, reads⟩ := ih
    rw [content]
    exact ⟨_, (piece.reads.append ended).append reads⟩

/-- A token in its place: what is read before it, its visible text, and what is read after that. -/
private theorem Traced.split {before after : List Token} {token : Token}
    (traced : Traced ahead scanner text (before ++ token :: after) final) :
    ∃ region opens start stop rest earlier later,
      text = before.flatMap Token.content ++ token.visible ++ rest ∧
      Reads (token.visible ++ rest ++ ahead) scanner (before.flatMap Token.content) earlier start ∧
      Piece region opens token.kind start token.visible (rest ++ ahead) stop ∧
      (region.undivided = true → start = .code ∨ token.column = 1) ∧
      Reads ahead stop rest later final := by
  induction before generalizing scanner text with
  | nil =>
    cases traced with
    | @cons region opens _ middle next _ _ _ breaks rest marks content _ piece starts ended tail =>
      obtain ⟨later, reads⟩ := tail.reads
      refine ⟨region, opens, scanner, middle, breaks ++ rest, [], _, ?_, .nil, ?_, starts,
        ended.append reads⟩
      · rw [List.flatMap_nil, List.nil_append, content, List.append_assoc]
      · rwa [List.append_assoc]
  | cons first before ih =>
    cases traced with
    | @cons region opens _ middle next _ _ _ breaks rest marks content _ piece starts ended tail =>
      obtain ⟨region, opens, start, stop, left, earlier, later, rfl, reads, inside⟩ := ih tail
      have head := piece.reads.append ended
      rw [← content, List.append_assoc, List.append_assoc] at head
      have whole := Reads.append (by simpa using head) reads
      exact ⟨region, opens, start, stop, left, _, later, by simp, whole, inside⟩

/-- Every code point that is no line break is shown by a token. -/
private theorem Traced.exists_token (traced : Traced ahead scanner text tokens final)
    {position : Nat}
    {c : Char} (present : text[position]? = some c) (visible : c ≠ '\r' ∧ c ≠ '\n') :
    ∃ before token after, tokens = before ++ token :: after ∧
      contentLength before ≤ position ∧
      position < contentLength before + token.visible.length := by
  induction traced generalizing position with
  | nil => simp at present
  | @cons _ _ _ _ _ _ token tokens breaks rest _ content broken piece starts ended tail ih =>
    by_cases here : position < token.content.length
    · rw [List.getElem?_append_left here] at present
      refine ⟨[], token, tokens, rfl, by simp [contentLength], ?_⟩
      by_contra beyond
      rw [content, List.getElem?_append_right (by simpa [contentLength] using beyond)] at present
      rcases broken c (List.mem_of_getElem? present) with same | same
      · exact visible.1 same
      · exact visible.2 same
    · rw [List.getElem?_append_right (by omega)] at present
      obtain ⟨before, other, after, rfl, low, high⟩ := ih present
      refine ⟨token :: before, other, after, rfl, ?_, ?_⟩
      · rw [contentLength_cons]
        omega
      · rw [contentLength_cons]
        omega

end Traced

/-- A line break takes the scanner to where the mode says. -/
private theorem Mode.Rests.read_break {mode : Mode} {scanner : Scanner} (rests : mode.Rests scanner)
    {c : Char} (breaks : c = '\r' ∨ c = '\n') (ahead : List Char) :
    ∃ mark, scanner.read c ahead = (mark, mode.scanner) := by
  cases rests with
  | lineComment => exact ⟨⟨.code, false⟩, if_pos breaks⟩
  | escaped => exact ⟨_, rfl⟩
  | same =>
    cases mode with
    | code =>
      have plain : isPlain c = true := by rcases breaks with rfl | rfl <;> decide
      exact ⟨_, Scanner.read_code_plain plain ahead⟩
    | block => exact ⟨_, Scanner.read_comment_inner (by rcases breaks with rfl | rfl <;> decide) _⟩
    | doc => exact ⟨_, Scanner.read_comment_inner (by rcases breaks with rfl | rfl <;> decide) _⟩
    | quoted quote =>
      refine ⟨_, Scanner.read_string (by rcases breaks with rfl | rfl <;> decide) ?_ _⟩
      cases quote <;> rcases breaks with rfl | rfl <;> decide

/-- So does a whole line end. -/
private theorem Mode.Rests.reads_ending {mode : Mode} {scanner : Scanner}
    (rests : mode.Rests scanner) (ending : LineEnd) (ahead : List Char) :
    ∃ marks, Reads ahead scanner ending.chars marks mode.scanner := by
  cases ending with
  | lf =>
    obtain ⟨mark, here⟩ := rests.read_break (.inr rfl) ahead
    exact ⟨[mark], .cons here .nil⟩
  | cr =>
    obtain ⟨mark, here⟩ := rests.read_break (.inl rfl) ahead
    exact ⟨[mark], .cons here .nil⟩
  | crlf =>
    obtain ⟨first, here⟩ := rests.read_break (.inl rfl) ('\n' :: ahead)
    obtain ⟨second, there⟩ := (Mode.Rests.same).read_break (.inr rfl) ahead
    exact ⟨[first, second], .cons here (.cons there .nil)⟩

section Line

variable {ahead text rest : List Char} {scanner next final : Scanner} {region : Region}
  {opens : Bool} {kind : TokenKind} {tokens : List Token} {number column length : Nat}

/-- A token without a line end, in front of tokens that are traced. -/
private theorem Traced.keep (free : BreakFree text)
    (piece : Piece region opens kind scanner text (rest ++ ahead) next)
    (starts : region.undivided = true → scanner = .code ∨ column = 1)
    (tail : Traced ahead next rest tokens final) :
    Traced ahead scanner (text ++ rest) (⟨kind, text, number, column, length⟩ :: tokens)
      final := by
  have shown : Token.visible ⟨kind, text, number, column, length⟩ = text :=
    @Token.visible_eq _ text none free (by simp)
  exact .cons (by rw [shown, List.append_nil]) (by simp) (by rwa [shown]) starts .nil tail

/-- A token that owns the end of its line. -/
private theorem Traced.own {mode : Mode} {ending : LineEnd} (free : BreakFree text)
    (piece : Piece region opens kind scanner text (ending.chars ++ ahead) next)
    (starts : region.undivided = true → scanner = .code ∨ column = 1)
    (rests : mode.Rests next) :
    Traced ahead scanner (text ++ ending.chars)
      [⟨kind, text ++ ending.chars, number, column, length⟩] mode.scanner := by
  have shown : Token.visible ⟨kind, text ++ ending.chars, number, column, length⟩ = text :=
    @Token.visible_eq _ text (some ending) free rfl
  obtain ⟨marks, ended⟩ := rests.reads_ending ending ahead
  have traced := @Traced.cons ahead region opens scanner next mode.scanner mode.scanner
    ⟨kind, text ++ ending.chars, number, column, length⟩ [] ending.chars [] marks (by rw [shown])
    ending.mem_chars (by rwa [shown]) starts ended .nil
  simpa using traced

/-- The parts of a body, with the end of the line given to them, become traced tokens. A line end
takes the scanner to the mode after the line. -/
private theorem Scanned.traced {tabWidth : Nat} {mode final : Mode} {fresh : Bool}
    {body : List Char}
    {parts : List Part} {ending : Option LineEnd} (scanned : Scanned mode fresh body parts final)
    (free : BreakFree body) (whole : ending = none → ahead = []) (rests : mode.Rests scanner)
    (settled : body ≠ [] → scanner = mode.scanner ∧ (mode.isQuoted = true → column = 1)) :
    ∃ next, Traced ahead scanner (body ++ ending.elim [] LineEnd.chars)
      (placeOnto tabWidth number column [] (withEnd final ending parts)) next ∧
      (ending ≠ none → next = final.scanner) := by
  have ends : AtLineEnd (ending.elim [] LineEnd.chars ++ ahead) := by
    cases ending with
    | none => simpa [whole rfl] using AtLineEnd.nil
    | some ending => exact ending.atLineEnd ahead
  induction scanned generalizing scanner column with
  | @nil mode fresh =>
    cases ending with
    | none => exact ⟨scanner, .nil, by simp⟩
    | some ending =>
      have bare : Piece .code false .whitespace scanner [] (ending.chars ++ ahead) scanner :=
        ⟨by decide, .nil, by simp⟩
      exact ⟨mode.scanner, .own .nil bare (by simp) rests, fun _ => rfl⟩
  | @cons mode fresh c rest parts final step taken tail ih =>
    obtain ⟨rfl, first⟩ := settled (List.cons_ne_nil _ _)
    obtain ⟨region, opens, next, piece, starts, nextRests, nextSettled⟩ :=
      taken ▸ Step.next_simulated mode fresh (breakFree_cons.mp free).2 ends
    have cut : c :: rest = (c :: rest.take step.more) ++ rest.drop step.more := by simp
    rw [cut] at free ⊢
    clear cut
    generalize c :: rest.take step.more = text at *
    generalize rest.drop step.more = left at *
    obtain ⟨textFree, leftFree⟩ := breakFree_append.mp free
    have starts : region.undivided = true → mode.scanner = .code ∨ column = 1 :=
      fun undivided => (starts undivided).imp_right first
    -- The line end goes to this part only when it is the last one and may own it.
    by_cases keeps : ending = none ∨ parts ≠ [] ∨ Part.ownsEnd final ⟨step.kind, text, none⟩ = false
    · have nextStarts : left ≠ [] → next = step.mode.scanner ∧ (step.mode.isQuoted = true →
          column + renderedWidth tabWidth column text = 1) := by
        intro more
        obtain ⟨same, outside⟩ := nextSettled.resolve_right more
        exact ⟨same, by simp [outside]⟩
      obtain ⟨last, traced, closed⟩ := ih leftFree nextRests nextStarts
      have kept : Part.content ⟨step.kind, text, none⟩ = text := List.append_nil text
      rw [withEnd_cons keeps, placeOnto_cons, List.append_assoc, kept]
      exact ⟨last, traced.keep textFree (by rwa [List.append_assoc]) starts, closed⟩
    · push Not at keeps
      obtain ⟨ended, rfl, owns⟩ := keeps
      obtain ⟨ending, rfl⟩ := Option.ne_none_iff_exists'.mp ended
      obtain ⟨rfl, rfl⟩ := tail.eq_nil
      have given : withEnd step.mode (some ending) [⟨step.kind, text, none⟩] =
          [⟨step.kind, text, some ending⟩] := by
        simp [withEnd, endParts, owns]
      rw [given, placeOnto_cons, List.append_nil]
      exact ⟨step.mode.scanner, .own textFree piece starts nextRests, fun _ => rfl⟩

end Line

/-- The tokens of a line are traced, and a line end takes the scanner to the mode of the next
line. -/
theorem Line.traced (tabWidth number : Nat) (mode : Mode) {line : Line} {ahead : List Char}
    (free : BreakFree line.body) (whole : line.ending = none → ahead = []) :
    ∃ next, Traced ahead mode.scanner line.text (line.tokens tabWidth number mode).1 next ∧
      (line.ending ≠ none → next = (line.parts mode).2.scanner) := by
  obtain ⟨parts, final, scanned, split⟩ := line.parts_scanned mode
  rw [Line.tokens, split]
  exact scanned.traced free whole .same fun _ => ⟨rfl, fun _ => rfl⟩

/-- The tokens of a whole source are traced. -/
private theorem Line.Cut.traced {source : List Char} {lines : List Line}
    (cut : Line.Cut source lines) (tabWidth number : Nat) (mode : Mode) :
    ∃ final, Traced [] mode.scanner source (tokenGroups tabWidth number mode lines).flatten
      final := by
  induction cut generalizing number mode with
  | nil => exact ⟨_, .nil⟩
  | @last body visible free =>
    obtain ⟨final, traced, _⟩ := @Line.traced tabWidth number mode ⟨body, none⟩ [] free fun _ => rfl
    exact ⟨final, by simpa [tokenGroups, Line.text, Line.endChars] using traced⟩
  | @line body rest ending lines free _ tail ih =>
    obtain ⟨next, traced, closed⟩ :=
      @Line.traced tabWidth number mode ⟨body, some ending⟩ rest free (by simp)
    obtain rfl := closed (by simp)
    obtain ⟨final, later⟩ := ih (number + 1) (Line.parts mode ⟨body, some ending⟩).2
    refine ⟨final, ?_⟩
    rw [tokenGroups, List.flatten_cons]
    exact Traced.append (by simpa [Line.text, Line.endChars] using traced) later

/-- At the start of every line the scanner stands where the carried mode says. -/
private theorem Line.Cut.reads {source : List Char} {lines : List Line}
    (cut : Line.Cut source lines)
    {earlier later : List Line} {line : Line} (split : lines = earlier ++ line :: later)
    (mode : Mode) :
    ∃ marks, Reads ((line :: later).flatMap Line.text) mode.scanner (earlier.flatMap Line.text)
      marks (modeAfter mode earlier).scanner := by
  induction cut generalizing earlier mode with
  | nil => simp at split
  | @last body visible free =>
    obtain rfl : earlier = [] := by cases earlier <;> simp_all
    exact ⟨[], .nil⟩
  | @line body rest ending lines free _ tail ih =>
    cases earlier with
    | nil => exact ⟨[], .nil⟩
    | cons first earlier =>
      obtain ⟨rfl, rfl⟩ := List.cons.inj split
      obtain ⟨marks, reads⟩ := ih rfl (Line.parts mode ⟨body, some ending⟩).2
      obtain ⟨next, traced, closed⟩ :=
        @Line.traced 0 0 mode ⟨body, some ending⟩ rest free (by simp)
      obtain rfl := closed (by simp)
      obtain ⟨firstMarks, here⟩ := traced.reads
      rw [← tail.flatMap_text] at here
      have whole := Reads.append (by simpa using here) reads
      exact ⟨_, whole⟩

/-- Whether the code points from `start` to before `stop` lie in one region, which none of them but
the first one opens. -/
def Region.Spans (region : Region) (source : List Char) (start stop : Nat) : Prop :=
  ∀ position, start ≤ position → position < stop →
    ∃ opens, (Scanner.marks source)[position]? = some ⟨region, opens⟩ ∧
      (opens = true → position = start)

private theorem Region.getElem?_marks {region : Region} {opens : Bool} {count offset : Nat}
    (small : offset < count) :
    ∃ flag, (region.marks opens count)[offset]? = some ⟨region, flag⟩ ∧
      (flag = true → offset = 0) := by
  cases count with
  | zero => omega
  | succ count =>
    cases offset with
    | zero => exact ⟨opens, rfl, fun _ => rfl⟩
    | succ offset =>
      have inside : offset < count := by omega
      exact ⟨false, by simp [Region.marks, inside], by simp⟩

/-- A text that is read inside one region is spanned by it. -/
private theorem Region.spans_of_reads {region : Region} {opens : Bool}
    {before text rest : List Char} {earlier later : List Mark} {first last final : Scanner}
    (toStart : Reads (text ++ rest) .code before earlier first)
    (inside : Reads rest first text (region.marks opens text.length) last)
    (after : Reads [] last rest later final) :
    region.Spans (before ++ text ++ rest) before.length (before.length + text.length) := by
  intro position low high
  have toStop := toStart.append inside
  have marked := (Reads.append (by simpa using toStop) after).marks_eq
  have length := toStart.length_eq
  obtain ⟨flag, present, opening⟩ :=
    @Region.getElem?_marks region opens text.length (position - before.length) (by omega)
  refine ⟨flag, ?_, fun opened => ?_⟩
  · rw [marked, List.getElem?_append_left, List.getElem?_append_right (by omega), length, present]
    rw [toStop.length_eq, List.length_append]
    exact high
  · have atStart := opening opened
    omega

/-- The lexer refines the scanner. At the start of every line the carried mode says where the
scanner stands; every code point but those of line ends is shown by a token; and what a token shows
lies in one region, which no code point but its first may open and to which its kind belongs. A line
comment or a string is a single token on each of its lines: the token starts in code or with its
line, and it stops where the scanner is back in code or where the line ends. -/
theorem TokenStream.ofSource_regions (source : List Char) (tabWidth : Nat) :
    ∃ lines, Line.Cut source lines ∧
      (∀ earlier line later, lines = earlier ++ line :: later →
        Scanner.before source (earlier.flatMap Line.text).length =
          (lexOnto tabWidth 1 .code #[] earlier).2.scanner) ∧
      (∀ position c, source[position]? = some c → c ≠ '\r' ∧ c ≠ '\n' →
        ∃ before token after, (ofSource source tabWidth).tokens.toList = before ++ token :: after ∧
          contentLength before ≤ position ∧
          position < contentLength before + token.visible.length) ∧
      ∀ before token after, (ofSource source tabWidth).tokens.toList = before ++ token :: after →
        ∃ region : Region, token.kind ∈ region.kinds ∧
          region.Spans source (contentLength before)
            (contentLength before + token.visible.length) ∧
          (region.undivided = true →
            (token.column = 1 ∨ Scanner.before source (contentLength before) = .code) ∧
            (Scanner.before source (contentLength before + token.visible.length) = .code ∨
              AtLineEnd (source.drop (contentLength before + token.visible.length)))) := by
  have cut := Line.ofText_cut source
  obtain ⟨final, traced⟩ := cut.traced tabWidth 1 .code
  rw [← ofSource_tokens, Mode.scanner] at traced
  refine ⟨Line.ofText source, cut, ?_, fun position c => traced.exists_token, ?_⟩
  · intro earlier line later split
    obtain ⟨marks, reads⟩ := cut.reads split .code
    have whole : source = earlier.flatMap Line.text ++ (line :: later).flatMap Line.text := by
      rw [← List.flatMap_append, ← split, cut.flatMap_text]
    rw [whole, (lexOnto_eq tabWidth 1 .code #[] earlier).2]
    exact reads.before_eq
  · intro before token after split
    rw [split] at traced
    obtain ⟨region, opens, first, last, rest, earlier, later, rfl, toStart, piece, starts, after⟩ :=
      traced.split
    simp only [List.append_nil] at toStart piece
    refine ⟨region, piece.admitted, region.spans_of_reads toStart piece.reads after, ?_⟩
    intro undivided
    have toStop := (toStart.append piece.reads).before_eq
    rw [List.length_append] at toStop
    have standing := toStart.before_eq
    rw [← List.append_assoc] at standing
    have left : (before.flatMap Token.content ++ token.visible ++ rest).drop
        (contentLength before + token.visible.length) = rest :=
      List.drop_left' (List.length_append ..)
    rw [contentLength] at *
    rw [standing, toStop, left]
    exact ⟨(starts undivided).symm, piece.ends undivided⟩

end LineWidth
