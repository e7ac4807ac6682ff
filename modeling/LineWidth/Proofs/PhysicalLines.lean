import LineWidth.Source.Line
import Mathlib.Data.List.Basic

/-! # The physical lines of a source

`Line.Cut` says what it means to cut a source at its line ends without mentioning the fold that does
it: no body holds a line break, `\r` is an end of its own only where no `\n` follows, and a line
lacks an end only when it is the last one and not empty. Every source has exactly one such cut, and
`Line.ofText` computes it. The number of lines, the line end that is detected and the lines of two
sources put together are then read off the cut.
-/

namespace LineWidth

/-- A text without `\r` and `\n`. -/
def BreakFree (text : List Char) : Prop := ∀ c ∈ text, c ≠ '\r' ∧ c ≠ '\n'

instance (text : List Char) : Decidable (BreakFree text) := List.decidableBAll _ text

theorem BreakFree.nil : BreakFree [] := by simp [BreakFree]

@[simp] theorem breakFree_cons {c : Char} {rest : List Char} :
    BreakFree (c :: rest) ↔ (c ≠ '\r' ∧ c ≠ '\n') ∧ BreakFree rest := by
  simp [BreakFree]

@[simp] theorem breakFree_append {first second : List Char} :
    BreakFree (first ++ second) ↔ BreakFree first ∧ BreakFree second := by
  simp only [BreakFree, List.forall_mem_append]

theorem BreakFree.middle {first second third : List Char}
    (free : BreakFree (first ++ second ++ third)) : BreakFree second :=
  (breakFree_append.mp (breakFree_append.mp free).1).2

theorem LineEnd.chars_ne_nil (ending : LineEnd) : ending.chars ≠ [] := by
  cases ending <;> simp [LineEnd.chars]

theorem LineEnd.chars_injective {first second : LineEnd} (same : first.chars = second.chars) :
    first = second := by
  cases first <;> cases second <;> simp_all [LineEnd.chars]

theorem LineEnd.mem_chars (ending : LineEnd) : ∀ c ∈ ending.chars, c = '\r' ∨ c = '\n' := by
  cases ending <;> simp [LineEnd.chars]

/-- Every line end starts with a line break. -/
theorem LineEnd.exists_chars (ending : LineEnd) :
    ∃ c rest, ending.chars = c :: rest ∧ (c = '\r' ∨ c = '\n') := by
  cases ending <;> simp [LineEnd.chars]

/-- No text without breaks stands at the start of a line end. -/
theorem BreakFree.eq_nil_of_append {text rest : List Char} {ending : LineEnd}
    (free : BreakFree text) (same : text ++ rest = ending.chars) : text = [] := by
  cases text with
  | nil => rfl
  | cons first text =>
    obtain ⟨c, chars, starts, breaks⟩ := ending.exists_chars
    rw [starts, List.cons_append] at same
    obtain ⟨rfl, _⟩ := List.cons.inj same
    exact absurd breaks (by simp [(breakFree_cons.mp free).1])

namespace Line

/-- All characters of a line. -/
def text (line : Line) : List Char := line.body ++ line.endChars

/-- The source is the lines one after the other, each one cut off at its own end. -/
inductive Cut : List Char → List Line → Prop
  | nil : Cut [] []
  | last {body : List Char} (visible : body ≠ []) (free : BreakFree body) : Cut body [⟨body, none⟩]
  | line {body rest : List Char} {ending : LineEnd} {lines : List Line} (free : BreakFree body)
      (whole : ending = .cr → rest.head? ≠ some '\n') (tail : Cut rest lines) :
      Cut (body ++ ending.chars ++ rest) (⟨body, some ending⟩ :: lines)

/-- A source that starts with `\n` starts with an empty line. -/
private theorem Cut.of_newline {source rest : List Char} {lines : List Line}
    (cut : Cut source lines) (starts : source = '\n' :: rest) :
    ∃ more, lines = ⟨[], some .lf⟩ :: more ∧ Cut rest more := by
  cases cut with
  | nil => cases starts
  | last visible free => subst starts; simp at free
  | @line body later ending more free whole tail =>
    cases body with
    | cons c body =>
      obtain ⟨rfl, _⟩ := List.cons.inj starts
      simp at free
    | nil =>
      cases ending with
      | lf =>
        obtain rfl : later = rest := by simpa [LineEnd.chars] using starts
        exact ⟨more, rfl, tail⟩
      | cr => simp [LineEnd.chars] at starts
      | crlf => simp [LineEnd.chars] at starts

/-- A cut that starts with an empty line ended by `\n` is a cut of a text that starts with `\n`. -/
private theorem Cut.to_newline {source : List Char} {lines more : List Line}
    (cut : Cut source lines) (starts : lines = ⟨[], some .lf⟩ :: more) :
    ∃ rest, source = '\n' :: rest ∧ Cut rest more := by
  cases cut with
  | nil => cases starts
  | last visible free => simp at starts
  | line free whole tail =>
    simp only [List.cons.injEq, Line.mk.injEq, Option.some.injEq] at starts
    obtain ⟨⟨rfl, rfl⟩, rfl⟩ := starts
    exact ⟨_, rfl, tail⟩

/-- One character more at the front keeps the cut. -/
private theorem Cut.push {source : List Char} {lines : List Line} (c : Char)
    (cut : Cut source lines) :
    Cut (c :: source) (push c lines) := by
  unfold Line.push
  split_ifs with newline returns
  · subst c
    exact @Cut.line [] source .lf lines .nil (by simp) cut
  · subst c
    split
    · rename_i rest
      obtain ⟨after, rfl, tail⟩ := cut.to_newline rfl
      exact @Cut.line [] after .crlf rest .nil (by simp) tail
    · rename_i other
      refine @Cut.line [] source .cr lines .nil (fun _ starts => ?_) cut
      obtain ⟨after, rfl⟩ : ∃ after, source = '\n' :: after := by
        cases source <;> simp_all
      obtain ⟨more, rfl, _⟩ := cut.of_newline rfl
      exact other more rfl
  · cases cut with
    | nil => exact .last (by simp) (by simp [newline, returns, BreakFree.nil])
    | last visible free => exact .last (by simp) (by simp [newline, returns, free])
    | @line body rest ending more free whole tail =>
      exact @Cut.line (c :: body) rest ending more (by simp [newline, returns, free]) whole tail

/-- The lines of a source are a cut of it. -/
theorem ofText_cut (source : List Char) : Cut source (ofText source) := by
  induction source with
  | nil => exact .nil
  | cons c rest ih => exact ih.push c

/-- Characters that are no line breaks go to the line that is already open. -/
private theorem foldr_push_body {body : List Char} (free : BreakFree body) (text : List Char)
    (ending : Option LineEnd) (lines : List Line) :
    body.foldr Line.push (⟨text, ending⟩ :: lines) = ⟨body ++ text, ending⟩ :: lines := by
  induction body with
  | nil => rfl
  | cons c rest ih =>
    obtain ⟨⟨notReturn, notNewline⟩, restFree⟩ := breakFree_cons.mp free
    rw [List.foldr_cons, ih restFree]
    simp [Line.push, notReturn, notNewline]

/-- A whole line end starts an empty line. -/
private theorem ofText_ending {ending : LineEnd} {rest : List Char}
    (whole : ending = .cr → rest.head? ≠ some '\n') :
    ofText (ending.chars ++ rest) = ⟨[], some ending⟩ :: ofText rest := by
  cases ending with
  | lf => simp [ofText, LineEnd.chars, Line.push]
  | crlf => simp [ofText, LineEnd.chars, Line.push]
  | cr =>
    change Line.push '\r' (ofText rest) = _
    unfold Line.push
    rw [if_neg (by decide), if_pos rfl]
    split
    · rename_i more starts
      obtain ⟨after, rfl, _⟩ := (ofText_cut rest).to_newline starts
      exact absurd rfl (whole rfl)
    · rfl

/-- A body and a whole line end in front of a text are its first line. -/
private theorem ofText_line {body rest : List Char} {ending : LineEnd} (free : BreakFree body)
    (whole : ending = .cr → rest.head? ≠ some '\n') :
    ofText (body ++ ending.chars ++ rest) = ⟨body, some ending⟩ :: ofText rest := by
  have first := ofText_ending whole
  unfold ofText at first ⊢
  rw [List.append_assoc, List.foldr_append, first, foldr_push_body free, List.append_nil]

/-- A text without line ends is one line. -/
private theorem ofText_last {body : List Char} (visible : body ≠ []) (free : BreakFree body) :
    ofText body = [⟨body, none⟩] := by
  obtain ⟨init, c, rfl⟩ := (List.eq_nil_or_concat' body).resolve_left visible
  obtain ⟨initFree, lastFree⟩ := breakFree_append.mp free
  obtain ⟨⟨notReturn, notNewline⟩, _⟩ := breakFree_cons.mp lastFree
  have last : List.foldr Line.push [] [c] = [⟨[c], none⟩] := by
    simp [Line.push, notReturn, notNewline]
  rw [ofText, List.foldr_append, last, foldr_push_body initFree]

/-- A source has one cut only. -/
theorem Cut.ofText_eq {source : List Char} {lines : List Line} (cut : Cut source lines) :
    ofText source = lines := by
  induction cut with
  | nil => rfl
  | last visible free => exact ofText_last visible free
  | line free whole tail ih => rw [ofText_line free whole, ih]

example : ofText ['a', '\r', '\n', '\r', 'b'] =
    [⟨['a'], some .crlf⟩, ⟨[], some .cr⟩, ⟨['b'], none⟩] := by decide

/-- A cut loses no text. -/
theorem Cut.flatMap_text {source : List Char} {lines : List Line} (cut : Cut source lines) :
    lines.flatMap text = source := by
  induction cut with
  | nil => rfl
  | last visible free => simp [text, endChars]
  | line free whole tail ih => simp [text, endChars, ih]

/-- A line of a cut has a body without breaks, and is not empty. -/
theorem Cut.of_mem {source : List Char} {lines : List Line} (cut : Cut source lines)
    {line : Line} (member : line ∈ lines) : BreakFree line.body ∧ line.text ≠ [] := by
  induction cut with
  | nil => cases member
  | last visible free =>
    obtain rfl := List.mem_singleton.mp member
    exact ⟨free, by simp [text, visible]⟩
  | @line body rest ending more free whole tail ih =>
    rcases List.mem_cons.mp member with rfl | member
    · exact ⟨free, by simp [text, endChars, ending.chars_ne_nil]⟩
    · exact ih member

end Line

/-- The number of line ends in a text: every `\n`, and every `\r` that no `\n` follows. -/
def lineEndCount : List Char → Nat
  | [] => 0
  | c :: rest =>
    if c = '\n' ∨ (c = '\r' ∧ rest.head? ≠ some '\n') then lineEndCount rest + 1
    else lineEndCount rest

/-- Whether text follows the last line end of a source. -/
def endsOpen (source : List Char) : Bool := source.getLast?.any fun c => c ≠ '\r' ∧ c ≠ '\n'

private theorem lineEndCount_body {body : List Char} (free : BreakFree body) (rest : List Char) :
    lineEndCount (body ++ rest) = lineEndCount rest := by
  induction body with
  | nil => rfl
  | cons c body ih =>
    obtain ⟨⟨notReturn, notNewline⟩, bodyFree⟩ := breakFree_cons.mp free
    rw [List.cons_append, lineEndCount, if_neg (by simp [notReturn, notNewline]), ih bodyFree]

private theorem lineEndCount_ending {ending : LineEnd} {rest : List Char}
    (whole : ending = .cr → rest.head? ≠ some '\n') :
    lineEndCount (ending.chars ++ rest) = lineEndCount rest + 1 := by
  cases ending with
  | lf => simp [LineEnd.chars, lineEndCount]
  | cr => simp [LineEnd.chars, lineEndCount, whole rfl]
  | crlf => simp [LineEnd.chars, lineEndCount]

/-- A line end leaves nothing open, so only what follows it may. -/
theorem endsOpen_ending (text rest : List Char) (ending : LineEnd) :
    endsOpen (text ++ ending.chars ++ rest) = endsOpen rest := by
  rcases List.eq_nil_or_concat' rest with rfl | ⟨init, last, rfl⟩
  · cases ending <;> simp [endsOpen, LineEnd.chars, List.getLast?_append]
  · simp [endsOpen, ← List.append_assoc]

private theorem endsOpen_of_breakFree {body : List Char} (visible : body ≠ [])
    (free : BreakFree body) :
    endsOpen body = true := by
  obtain ⟨init, last, rfl⟩ := (List.eq_nil_or_concat' body).resolve_left visible
  obtain ⟨⟨notReturn, notNewline⟩, _⟩ := breakFree_cons.mp (breakFree_append.mp free).2
  simp [endsOpen, notReturn, notNewline]

/-- A source has one line for each line end, and one more when text follows the last of them. -/
theorem Line.Cut.length_eq {source : List Char} {lines : List Line} (cut : Line.Cut source lines) :
    lines.length = lineEndCount source + if endsOpen source then 1 else 0 := by
  induction cut with
  | nil => rfl
  | @last body visible free =>
    have none : lineEndCount body = 0 := by simpa [lineEndCount] using lineEndCount_body free []
    simp [none, endsOpen_of_breakFree visible free]
  | @line body rest ending lines free whole tail ih =>
    rw [endsOpen_ending, List.append_assoc, lineEndCount_body free, lineEndCount_ending whole,
      List.length_cons, ih]
    omega

theorem Line.Cut.eq_nil_iff {source : List Char} {lines : List Line} (cut : Line.Cut source lines) :
    lines = [] ↔ source = [] := by
  cases cut with
  | nil => simp
  | last visible free => simp [visible]
  | @line body rest ending lines free whole tail => simp [ending.chars_ne_nil]

/-- The first line end of a source is detected. -/
theorem LineEnd.detect_line {body rest : List Char} {ending : LineEnd} (free : BreakFree body)
    (whole : ending = .cr → rest.head? ≠ some '\n') :
    LineEnd.detect (body ++ ending.chars ++ rest) = ending := by
  induction body with
  | nil =>
    cases ending with
    | lf => rfl
    | cr => simp [LineEnd.chars, LineEnd.detect, whole rfl]
    | crlf => rfl
  | cons c body ih =>
    obtain ⟨⟨notReturn, notNewline⟩, bodyFree⟩ := breakFree_cons.mp free
    simpa [LineEnd.detect, notReturn, notNewline] using ih bodyFree

private theorem Line.Cut.detect_first {source body : List Char} {ending : LineEnd}
    {lines : List Line}
    (cut : Line.Cut source (⟨body, some ending⟩ :: lines)) : LineEnd.detect source = ending := by
  cases cut with
  | line free whole tail => exact LineEnd.detect_line free whole

/-- Where all line ends are equal, the detected one is that of every line that has one. -/
theorem Line.Cut.detect_eq {source : List Char} {lines : List Line} (cut : Line.Cut source lines)
    {ending : LineEnd} (uniform : ∀ line ∈ lines, line.ending = none ∨ line.ending = some ending)
    {line : Line} (member : line ∈ lines) (ended : line.ending ≠ none) :
    line.ending = some (LineEnd.detect source) := by
  have same := (uniform line member).resolve_left ended
  cases cut with
  | nil => cases member
  | last visible free =>
    rw [List.mem_singleton.mp member] at ended
    exact absurd rfl ended
  | @line body rest first lines free whole tail =>
    have top := (uniform _ (List.mem_cons_self ..)).resolve_left (by simp)
    rw [(Line.Cut.line free whole tail).detect_first, same, ← top]

/-- Two texts are cut apart where the first one ends a line and the two do not share a `\r\n`. -/
theorem Line.Cut.append {first second : List Char} {firstLines secondLines : List Line}
    (cut : Line.Cut first firstLines) (next : Line.Cut second secondLines)
    (closed : endsOpen first = false)
    (apart : first.getLast? = some '\r' → second.head? ≠ some '\n') :
    Line.Cut (first ++ second) (firstLines ++ secondLines) := by
  induction cut with
  | nil => exact next
  | last visible free =>
    rw [endsOpen_of_breakFree visible free] at closed
    cases closed
  | @line body rest ending lines free whole tail ih =>
    rw [endsOpen_ending] at closed
    rw [List.append_assoc]
    refine .line free ?_ (ih closed ?_)
    · rintro rfl
      cases rest with
      | nil => exact apart (by simp [LineEnd.chars])
      | cons c rest => exact whole rfl
    · intro last
      apply apart
      rw [List.getLast?_append, last]
      rfl

theorem Line.Cut.detect_append {first second : List Char} {firstLines secondLines : List Line}
    (cut : Line.Cut first firstLines) (next : Line.Cut second secondLines)
    (closed : endsOpen first = false)
    (apart : first.getLast? = some '\r' → second.head? ≠ some '\n') (visible : first ≠ []) :
    LineEnd.detect (first ++ second) = LineEnd.detect first := by
  have joined := cut.append next closed apart
  cases cut with
  | nil => exact absurd rfl visible
  | last _ free =>
    rw [endsOpen_of_breakFree visible free] at closed
    cases closed
  | line free whole tail => rw [joined.detect_first, (Line.Cut.line free whole tail).detect_first]

/-- A source without line breaks has no line end. -/
theorem Line.Cut.ending_eq_none {source : List Char} {lines : List Line}
    (cut : Line.Cut source lines) (free : BreakFree source) :
    ∀ line ∈ lines, line.ending = none := by
  cases cut with
  | nil => simp
  | last visible _ => simp
  | @line body rest ending lines _ whole tail =>
    obtain ⟨c, chars, starts, breaks⟩ := ending.exists_chars
    rw [starts] at free
    have apart := (breakFree_cons.mp free.middle).1
    rcases breaks with rfl | rfl
    · exact absurd rfl apart.1
    · exact absurd rfl apart.2

end LineWidth
