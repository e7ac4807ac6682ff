import LineWidth.Proofs.LineParts

/-! # The regions of a source

The reference for what is code, comment and string: a scanner that reads a whole source code point
by code point and does not know about lines. It marks every code point with the region that it lies
in. What it does with a text depends on the text that follows, so reading is always stated with that
text ahead; reading then composes over concatenation.
-/

namespace LineWidth

/-- The kinds of regions; a comment that is no line comment is a doc comment or a block comment. -/
inductive Region where
  | code
  | lineComment
  | comment (doc : Bool)
  | string (quote : Quote)
deriving DecidableEq, Repr

/-- The region of a code point, and whether the code point opens it. Code is not opened. -/
structure Mark where
  region : Region
  opens : Bool
deriving DecidableEq, Repr

/-- Where the scanner stands before a code point. -/
inductive Scanner where
  | code
  | lineComment
  /-- Between the two characters of `/*`. -/
  | opening (doc : Bool)
  | comment (doc : Bool)
  /-- Between the two characters of `*/`. -/
  | closing (doc : Bool)
  | string (quote : Quote) (escaped : Bool)
deriving DecidableEq, Repr

namespace Scanner

/-- Read one code point, with the text after it ahead. -/
def read (scanner : Scanner) (c : Char) (ahead : List Char) : Mark × Scanner :=
  match scanner with
  | .code =>
    if "/*".toList <+: c :: ahead then
      let doc : Bool := "/**".toList <+: c :: ahead ∧ ¬ "/**/".toList <+: c :: ahead
      (⟨.comment doc, true⟩, .opening doc)
    else if "//".toList <+: c :: ahead ∨ (c = '#' ∧ ¬ "#[".toList <+: c :: ahead) then
      (⟨.lineComment, true⟩, .lineComment)
    else
      match Quote.ofChar? c with
      | some quote => (⟨.string quote, true⟩, .string quote false)
      | none => (⟨.code, false⟩, .code)
  | .lineComment =>
    if c = '\r' ∨ c = '\n' then (⟨.code, false⟩, .code) else (⟨.lineComment, false⟩, .lineComment)
  | .opening doc => (⟨.comment doc, false⟩, .comment doc)
  | .comment doc =>
    (⟨.comment doc, false⟩, if "*/".toList <+: c :: ahead then .closing doc else .comment doc)
  | .closing doc => (⟨.comment doc, false⟩, .code)
  | .string quote true => (⟨.string quote, false⟩, .string quote false)
  | .string quote false =>
    (⟨.string quote, false⟩,
      if c = '\\' then .string quote true
      else if c = quote.char then .code
      else .string quote false)

/-- Read a text that `ahead` follows: the marks of its code points, and where the scanner stands
after them. -/
def readText (ahead : List Char) : Scanner → List Char → List Mark × Scanner
  | scanner, [] => ([], scanner)
  | scanner, c :: rest =>
    let (mark, next) := scanner.read c (rest ++ ahead)
    let (marks, last) := readText ahead next rest
    (mark :: marks, last)

/-- The marks of all code points of a source. -/
def marks (source : List Char) : List Mark := (readText [] .code source).1

/-- Where the scanner stands before the code point at a position of a source. -/
def before (source : List Char) (position : Nat) : Scanner :=
  (readText (source.drop position) .code (source.take position)).2

end Scanner

/-- Reading a text that `ahead` follows marks it and takes the scanner from one place to another. -/
inductive Reads (ahead : List Char) : Scanner → List Char → List Mark → Scanner → Prop
  | nil {scanner : Scanner} : Reads ahead scanner [] [] scanner
  | cons {scanner middle next : Scanner} {c : Char} {rest : List Char} {mark : Mark}
      {marks : List Mark} (here : scanner.read c (rest ++ ahead) = (mark, middle))
      (tail : Reads ahead middle rest marks next) :
      Reads ahead scanner (c :: rest) (mark :: marks) next

section Reads

variable {scanner middle next : Scanner} {text first second ahead : List Char}
  {marks firstMarks secondMarks : List Mark}

private theorem Reads.readText_eq (reads : Reads ahead scanner text marks next) :
    scanner.readText ahead text = (marks, next) := by
  induction reads with
  | nil => rfl
  | cons here tail ih => simp only [Scanner.readText, here, ih]

theorem Reads.marks_eq (reads : Reads [] .code text marks next) : Scanner.marks text = marks := by
  rw [Scanner.marks, reads.readText_eq]

theorem Reads.before_eq (reads : Reads ahead .code text marks next) :
    Scanner.before (text ++ ahead) text.length = next := by
  rw [Scanner.before, List.drop_left, List.take_left, reads.readText_eq]

/-- Reading composes: the first text is read with the second one ahead. -/
theorem Reads.append (head : Reads (second ++ ahead) scanner first firstMarks middle)
    (tail : Reads ahead middle second secondMarks next) :
    Reads ahead scanner (first ++ second) (firstMarks ++ secondMarks) next := by
  induction head with
  | nil => exact tail
  | cons here _ ih =>
    rw [← List.append_assoc] at here
    exact .cons here (ih tail)

/-- Every code point has a mark. -/
theorem Reads.length_eq (reads : Reads ahead scanner text marks next) :
    marks.length = text.length := by
  induction reads with
  | nil => rfl
  | cons here tail ih => rw [List.length_cons, List.length_cons, ih]

/-- Characters that leave the scanner where it stands all get the same mark. -/
theorem Reads.replicate {mark : Mark}
    (stays : ∀ c ∈ text, ∀ ahead, scanner.read c ahead = (mark, scanner)) :
    Reads ahead scanner text (List.replicate text.length mark) scanner := by
  induction text with
  | nil => exact .nil
  | cons c rest ih =>
    exact .cons (stays c (List.mem_cons_self ..) _)
      (ih fun other member => stays other (List.mem_cons_of_mem _ member))

end Reads

/-- The source is over, or a line break comes next. -/
def AtLineEnd (ahead : List Char) : Prop := ∀ c, ahead.head? = some c → c = '\r' ∨ c = '\n'

theorem AtLineEnd.nil : AtLineEnd [] := by simp [AtLineEnd]

theorem LineEnd.atLineEnd (ending : LineEnd) (ahead : List Char) :
    AtLineEnd (ending.chars ++ ahead) := by
  cases ending <;> simp [AtLineEnd, LineEnd.chars]

/-- What a line starts with does not depend on what follows the line. -/
theorem AtLineEnd.prefix_iff {pattern text ahead : List Char} (ends : AtLineEnd ahead)
    (free : BreakFree pattern) : pattern <+: text ++ ahead ↔ pattern <+: text := by
  induction pattern generalizing text with
  | nil => simp
  | cons c pattern ih =>
    obtain ⟨⟨notReturn, notNewline⟩, patternFree⟩ := breakFree_cons.mp free
    cases text with
    | nil =>
      cases ahead with
      | nil => rfl
      | cons d ahead =>
        have breaks := ends d rfl
        rw [List.nil_append, List.cons_prefix_cons]
        simp
        grind
    | cons d text =>
      rw [List.cons_append, List.cons_prefix_cons, List.cons_prefix_cons, ih patternFree]

theorem singleton_prefix_iff {c : Char} {text : List Char} :
    [c] <+: text ↔ text.head? = some c := by
  cases text <;> simp [List.cons_prefix_cons, eq_comm]

section Code

variable {c : Char} {rest ahead : List Char}

/-- Inside a line, code is read by looking at the line only. -/
theorem Scanner.read_code (ends : AtLineEnd ahead) :
    Scanner.code.read c (rest ++ ahead) =
      if c = '/' ∧ rest.head? = some '*' then
        let doc : Bool := "**".toList <+: rest ∧ ¬ "**/".toList <+: rest
        (⟨.comment doc, true⟩, .opening doc)
      else if (c = '/' ∧ rest.head? = some '/') ∨ (c = '#' ∧ rest.head? ≠ some '[') then
        (⟨.lineComment, true⟩, .lineComment)
      else
        match Quote.ofChar? c with
        | some quote => (⟨.string quote, true⟩, .string quote false)
        | none => (⟨.code, false⟩, .code) := by
  have start {pattern : List Char} (free : BreakFree pattern) :
      pattern <+: c :: (rest ++ ahead) ↔ pattern <+: c :: rest :=
    @AtLineEnd.prefix_iff pattern (c :: rest) ahead ends free
  have block : "/*".toList <+: c :: rest ↔ c = '/' ∧ rest.head? = some '*' := by
    simp [List.cons_prefix_cons, singleton_prefix_iff, eq_comm]
  have doc (slash : c = '/') : ("/**".toList <+: c :: rest ↔ "**".toList <+: rest) ∧
      ("/**/".toList <+: c :: rest ↔ "**/".toList <+: rest) := by
    simp [List.cons_prefix_cons, slash]
  have line : "//".toList <+: c :: rest ↔ c = '/' ∧ rest.head? = some '/' := by
    simp [List.cons_prefix_cons, singleton_prefix_iff, eq_comm]
  have hash : c = '#' ∧ ¬ "#[".toList <+: c :: rest ↔ c = '#' ∧ rest.head? ≠ some '[' := by
    simp +contextual [List.cons_prefix_cons, singleton_prefix_iff]
  unfold Scanner.read
  simp only [start (show BreakFree "/*".toList by decide),
    start (show BreakFree "/**".toList by decide), start (show BreakFree "/**/".toList by decide),
    start (show BreakFree "//".toList by decide), start (show BreakFree "#[".toList by decide),
    block, line, hash]
  split_ifs with opens
  · simp only [doc opens.1]
  · rfl
  · rfl

/-- A character that opens nothing, whatever follows it. -/
def isPlain (c : Char) : Bool := c ≠ '/' ∧ c ≠ '#' ∧ (Quote.ofChar? c).isNone

theorem Scanner.read_code_plain (plain : isPlain c = true) (ahead : List Char) :
    Scanner.code.read c ahead = (⟨.code, false⟩, .code) := by
  simp only [isPlain, decide_eq_true_eq, Option.isNone_iff_eq_none] at plain
  obtain ⟨noSlash, noHash, noQuote⟩ := plain
  simp [Scanner.read, List.cons_prefix_cons, Ne.symm noSlash, noHash, noQuote]

end Code

section Comment

variable {doc : Bool} {text ahead : List Char} {offset size : Nat}

/-- A character of a comment that does not start its close. -/
theorem Scanner.read_comment {c : Char} (inside : ¬ (c = '*' ∧ ahead.head? = some '/')) :
    (Scanner.comment doc).read c ahead = (⟨.comment doc, false⟩, .comment doc) := by
  have stays : ¬ "*/".toList <+: c :: ahead := by
    simpa [List.cons_prefix_cons, singleton_prefix_iff, eq_comm] using inside
  simp only [Scanner.read, if_neg stays]

theorem Scanner.read_comment_inner {c : Char} (inside : c ≠ '*') (ahead : List Char) :
    (Scanner.comment doc).read c ahead = (⟨.comment doc, false⟩, .comment doc) :=
  Scanner.read_comment fun close => inside close.1

/-- The close of a comment ends it. -/
theorem reads_close :
    Reads ahead (.comment doc) ['*', '/'] [⟨.comment doc, false⟩, ⟨.comment doc, false⟩] .code :=
  .cons (by simp [Scanner.read, List.cons_prefix_cons]; rfl) (.cons rfl .nil)

/-- Up to its first close a comment is read without leaving it. -/
theorem reads_of_closeOffset (doc : Bool) (found : closeOffset offset text = some size) :
    ∃ inner rest, text = inner ++ ['*', '/'] ++ rest ∧ size = offset + inner.length ∧
      ∀ ahead, Reads (['*', '/'] ++ rest ++ ahead) (.comment doc) inner
        (List.replicate inner.length ⟨.comment doc, false⟩) (.comment doc) := by
  induction text generalizing offset with
  | nil => simp [closeOffset] at found
  | cons c text ih =>
    unfold closeOffset at found
    split_ifs at found with closes
    · obtain ⟨rfl, slash⟩ := closes
      obtain ⟨rest, rfl⟩ := List.head?_eq_some_iff.mp slash
      exact ⟨[], rest, rfl, by simpa using found.symm, fun _ => .nil⟩
    · obtain ⟨inner, rest, rfl, rfl, reads⟩ := ih found
      refine ⟨c :: inner, rest, rfl, by simp; omega, fun ahead =>
        .cons (Scanner.read_comment ?_) (reads ahead)⟩
      cases inner with
      | nil => simp
      | cons first inner => simpa using closes

/-- A comment without a close on its line is not left on that line. -/
theorem reads_of_closeOffset_none (doc : Bool) (missing : closeOffset offset text = none)
    (ends : AtLineEnd ahead) :
    Reads ahead (.comment doc) text (List.replicate text.length ⟨.comment doc, false⟩)
      (.comment doc) := by
  induction text generalizing offset with
  | nil => exact .nil
  | cons c text ih =>
    unfold closeOffset at missing
    split_ifs at missing with closes
    refine .cons (Scanner.read_comment ?_) (ih missing)
    rwa [← singleton_prefix_iff, ends.prefix_iff (by decide), singleton_prefix_iff]

end Comment

section String

variable {quote : Quote} {text : List Char} {offset size : Nat}

/-- A character of a string that neither ends it nor escapes the next one. -/
theorem Scanner.read_string {c : Char} (plain : c ≠ '\\') (other : c ≠ quote.char)
    (ahead : List Char) : (Scanner.string quote false).read c ahead =
      (⟨.string quote, false⟩, .string quote false) := by
  simp [Scanner.read, plain, other]

/-- Up to its first closing quote a string is read as one region, and it ends there. -/
theorem reads_of_quoteEnd (found : quoteEnd quote.char offset text = some size) :
    ∃ inner rest, text = inner ++ rest ∧ size = offset + inner.length ∧
      ∀ ahead, Reads ahead (.string quote false) inner
        (List.replicate inner.length ⟨.string quote, false⟩) .code := by
  fun_induction quoteEnd quote.char offset text with
  | case1 => simp at found
  | case2 => simp at found
  | case3 offset escaped text ih =>
    obtain ⟨inner, rest, rfl, rfl, reads⟩ := ih found
    exact ⟨'\\' :: escaped :: inner, rest, rfl, by simp; omega, fun ahead =>
      .cons rfl (.cons rfl (reads ahead))⟩
  | case4 offset text =>
    have closes (ahead : List Char) : (Scanner.string quote false).read quote.char ahead =
        (⟨.string quote, false⟩, .code) := by cases quote <;> rfl
    exact ⟨[quote.char], text, rfl, by simpa using found.symm, fun ahead =>
      .cons (closes _) .nil⟩
  | case5 offset c text notLast notEscape other ih =>
    have plain : c ≠ '\\' := by cases text <;> simp_all
    obtain ⟨inner, rest, rfl, rfl, reads⟩ := ih found
    exact ⟨c :: inner, rest, rfl, by simp; omega, fun ahead =>
      .cons (Scanner.read_string plain other _) (reads ahead)⟩

/-- A string without a closing quote on its line is not left on that line; a backslash at the end of
the line escapes the line break. -/
theorem reads_of_quoteEnd_none (missing : quoteEnd quote.char offset text = none) :
    ∃ escaped, ∀ ahead, Reads ahead (.string quote false) text
      (List.replicate text.length ⟨.string quote, false⟩) (.string quote escaped) := by
  fun_induction quoteEnd quote.char offset text with
  | case1 => exact ⟨false, fun _ => .nil⟩
  | case2 => exact ⟨true, fun _ => .cons rfl .nil⟩
  | case3 offset escaped text ih =>
    obtain ⟨last, reads⟩ := ih missing
    exact ⟨last, fun ahead => .cons rfl (.cons rfl (reads ahead))⟩
  | case4 => simp at missing
  | case5 offset c text notLast notEscape other ih =>
    have plain : c ≠ '\\' := by cases text <;> simp_all
    obtain ⟨last, reads⟩ := ih missing
    exact ⟨last, fun ahead => .cons (Scanner.read_string plain other _) (reads ahead)⟩

end String

end LineWidth
