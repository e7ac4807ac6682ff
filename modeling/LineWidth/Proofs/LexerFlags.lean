import LineWidth.Proofs.PartialRuns

/-! # A lexer with three flags

The mode of a lexer can be kept in three flags, which are set and cleared each on its own: whether a
doc comment is open, whether a block comment is, and the quote of a string that is. And tokens can
be given one at a time, by a scan that is suspended in between and may be abandoned. `FlagLexer` is
such a lexer. It serves every sequence of requests as a lexer with a mode does, so its flags never
contradict each other (`Lexer.serveAll_state`).
-/

namespace LineWidth

/-- What is open, each kind of it kept apart. -/
structure Flags where
  inDoc : Bool := false
  inBlock : Bool := false
  quote : Option Char := none
deriving DecidableEq, Repr

/-- The flags of a mode. -/
def Mode.flags : Mode → Flags
  | .code => {}
  | .block => { inBlock := true }
  | .doc => { inDoc := true }
  | .quoted quote => { quote := some quote.char }

/-- At most one thing is open, and only a quote opens a string. -/
structure Flags.Exclusive (flags : Flags) : Prop where
  doc_block : ¬ (flags.inDoc = true ∧ flags.inBlock = true)
  doc_quote : ¬ (flags.inDoc = true ∧ flags.quote.isSome = true)
  block_quote : ¬ (flags.inBlock = true ∧ flags.quote.isSome = true)
  quote_eq : ∀ c, flags.quote = some c → c = '\'' ∨ c = '"'

private theorem Mode.flags_exclusive (mode : Mode) : mode.flags.Exclusive := by
  rcases mode with _ | _ | _ | (_ | _) <;> constructor <;> simp [Mode.flags, Quote.char]

/-- One part: its kind, the number of its characters after the first, and the flags after it. -/
structure FlagStep where
  kind : TokenKind
  more : Nat
  flags : Flags

namespace Flags

/-- Set the flag for what is opened in code. The other flags stay as they are. -/
def enter (flags : Flags) : Mode → Flags
  | .code => flags
  | .block => { flags with inBlock := true }
  | .doc => { flags with inDoc := true }
  | .quoted quote => { flags with quote := some quote.char }

/-- The next step of a line. The end of a comment clears both comment flags, the end of a string
clears the quote, and no other flag is touched. -/
def step (flags : Flags) (fresh : Bool) (c : Char) (rest : List Char) : FlagStep :=
  if flags.inDoc || flags.inBlock then
    let step := if flags.inDoc then Step.doc fresh c rest else Step.block c rest
    ⟨step.kind, step.more,
      if step.mode = .code then { flags with inDoc := false, inBlock := false } else flags⟩
  else
    match flags.quote with
    | some quote =>
      match quoteEnd quote 0 (c :: rest) with
      | some size => ⟨.constantString, size - 1, { flags with quote := none }⟩
      | none => ⟨.constantString, rest.length, flags⟩
    | none =>
      let step := Step.code c rest
      ⟨step.kind, step.more, flags.enter step.mode⟩

/-- Split a body, adding its parts in front of those already found, last part first. -/
def split (flags : Flags) (fresh : Bool) (found : List Part) (body : List Char) :
    List Part × Flags :=
  match body with
  | [] => (found, flags)
  | c :: rest =>
    let step := flags.step fresh c rest
    let part : Part := ⟨step.kind, c :: rest.take step.more, none⟩
    split step.flags (fresh && step.kind == .whitespace) (part :: found) (rest.drop step.more)
termination_by body.length

/-- Give the end of a line to its parts, which come last part first. The part of a string owns the
line end only while a quote is kept. -/
def giveEnd (flags : Flags) (ending : LineEnd) : List Part → List Part
  | [] => [⟨.whitespace, [], some ending⟩]
  | last :: earlier =>
    if last.kind ∈ [.openTag, .comment, .directive, .docText, .whitespace] ∨
        flags.quote.isSome = true ∧ last.kind = .constantString then
      { last with ending := some ending } :: earlier
    else ⟨.whitespace, [], some ending⟩ :: last :: earlier

/-- The tokens of line `number`, and the flags after it. -/
def lineTokens (tabWidth number : Nat) (flags : Flags) (line : Line) : List Token × Flags :=
  let (found, flags) := flags.split true [] line.body
  (placeOnto tabWidth number 1 [] (line.ending.elim found (flags.giveEnd · found)).reverse, flags)

end Flags

private theorem Step.block_mode (c : Char) (rest : List Char) :
    (Step.block c rest).mode = .code ∨ (Step.block c rest).mode = .block := by
  rw [Step.block]
  split
  · exact .inr rfl
  · split
    · exact .inl rfl
    · exact .inr rfl

private theorem Step.doc_mode (fresh : Bool) (c : Char) (rest : List Char) :
    (Step.doc fresh c rest).mode = .code ∨ (Step.doc fresh c rest).mode = .doc := by
  rw [Step.doc]
  split_ifs <;> simp

/-- A step with flags is a step with the mode. -/
private theorem Mode.step_flags (mode : Mode) (fresh : Bool) (c : Char) (rest : List Char) :
    mode.flags.step fresh c rest =
      ⟨(Step.next mode fresh c rest).kind, (Step.next mode fresh c rest).more,
        (Step.next mode fresh c rest).mode.flags⟩ := by
  cases mode with
  | code =>
    have entered (mode : Mode) : Flags.enter {} mode = mode.flags := by cases mode <;> rfl
    exact congrArg (FlagStep.mk _ _) (entered _)
  | block =>
    apply congrArg (FlagStep.mk _ _)
    change (if (Step.block c rest).mode = .code then _ else _) = (Step.block c rest).mode.flags
    rcases Step.block_mode c rest with left | stays
    · rw [left]
      rfl
    · rw [stays]
      rfl
  | doc =>
    apply congrArg (FlagStep.mk _ _)
    change (if (Step.doc fresh c rest).mode = .code then _ else _) =
      (Step.doc fresh c rest).mode.flags
    rcases Step.doc_mode fresh c rest with left | stays
    · rw [left]
      rfl
    · rw [stays]
      rfl
  | quoted quote =>
    simp only [Flags.step, Mode.flags, Step.next, Step.string, Bool.or_self, Bool.false_eq_true,
      if_false]
    cases quoteEnd quote.char 0 (c :: rest) <;> rfl

private theorem Mode.split_flags (mode : Mode) (fresh : Bool) (found : List Part)
    (body : List Char) :
    mode.flags.split fresh found body =
      ((splitOnto mode fresh found body).1, (splitOnto mode fresh found body).2.flags) := by
  fun_induction splitOnto mode fresh found body with
  | case1 => rw [Flags.split]
  | case2 mode fresh found c rest step part ih =>
    rw [Flags.split, Mode.step_flags]
    exact ih

private theorem Mode.giveEnd_flags (mode : Mode) (ending : LineEnd) (parts : List Part) :
    mode.flags.giveEnd ending parts = endParts mode ending parts := by
  have owned (part : Part) :
      (part.kind ∈ [.openTag, .comment, .directive, .docText, .whitespace] ∨
        mode.flags.quote.isSome = true ∧ part.kind = .constantString) ↔
      part.ownsEnd mode = true := by
    have quoted : mode.flags.quote.isSome = mode.isQuoted := by cases mode <;> rfl
    rw [quoted, Part.ownsEnd]
    cases part.kind <;> simp
  cases parts with
  | nil => rfl
  | cons last earlier => simp only [Flags.giveEnd, endParts, owned]

/-- The tokens of a line with flags are those with the mode. -/
private theorem Mode.lineTokens_flags (tabWidth number : Nat) (mode : Mode) (line : Line) :
    mode.flags.lineTokens tabWidth number line =
      ((line.tokens tabWidth number mode).1, (line.parts mode).2.flags) := by
  rw [Flags.lineTokens, Mode.split_flags, Line.tokens, Line.parts]
  cases line.ending with
  | none => rfl
  | some ending => simp only [Option.elim_some, Mode.giveEnd_flags]

/-- A scan that is suspended: the tokens that are still to be given of the line it stands on, and
the lines that it has not looked at, with the number of the first of them. -/
structure Scan where
  pending : List Token
  number : Nat
  lines : List Line

namespace Scan

/-- Look at lines up to the first one with a token, and suspend behind that token. -/
def nextLine (tabWidth : Nat) (number : Nat) (flags : Flags) :
    List Line → Option (Token × Scan) × Flags
  | [] => (none, flags)
  | line :: rest =>
    match flags.lineTokens tabWidth number line with
    | ([], after) => nextLine tabWidth (number + 1) after rest
    | (token :: pending, after) => (some (token, ⟨pending, number + 1, rest⟩), after)

/-- The next token of a scan, if there is one, and the flags after it. -/
def next (tabWidth : Nat) (flags : Flags) (scan : Scan) : Option (Token × Scan) × Flags :=
  match scan.pending with
  | [] => nextLine tabWidth scan.number flags scan.lines
  | token :: pending => (some (token, { scan with pending }), flags)

/-- Ask a scan for its next token `count` times, or until it ends. -/
def take (tabWidth : Nat) : Nat → Flags → Scan → List Token × Flags
  | 0, flags, _ => ([], flags)
  | count + 1, flags, scan =>
    match scan.next tabWidth flags with
    | (none, after) => ([], after)
    | (some (token, scan), after) =>
      let (tokens, last) := take tabWidth count after scan
      (token :: tokens, last)

private theorem next_pending (tabWidth : Nat) (flags : Flags) (token : Token) (pending : List Token)
    (number : Nat) (lines : List Line) :
    next tabWidth flags ⟨token :: pending, number, lines⟩ =
      (some (token, ⟨pending, number, lines⟩), flags) := rfl

private theorem next_line {tabWidth number : Nat} {mode : Mode} {line : Line} {token : Token}
    {pending : List Token} (rest : List Line)
    (given : (line.tokens tabWidth number mode).1 = token :: pending) :
    next tabWidth mode.flags ⟨[], number, line :: rest⟩ =
      (some (token, ⟨pending, number + 1, rest⟩), (line.parts mode).2.flags) := by
  change nextLine tabWidth number mode.flags (line :: rest) = _
  rw [nextLine, Mode.lineTokens_flags, given]

/-- A scan gives the tokens that are pending and then those of its lines. Its flags change when the
first token of a line is asked for, and then for the whole line. -/
private theorem take_eq (tabWidth count : Nat) (mode : Mode) (scan : Scan)
    (visible : ∀ line ∈ scan.lines, line.text ≠ []) :
    scan.take tabWidth count mode.flags =
      ((scan.pending ++ (tokenGroups tabWidth scan.number mode scan.lines).flatten).take count,
        (modeAfter mode (scan.lines.take (begun (count - scan.pending.length)
          (tokenGroups tabWidth scan.number mode scan.lines)))).flags) := by
  induction count generalizing mode scan with
  | zero =>
    rw [Nat.zero_sub, begun_zero]
    rfl
  | succ count ih =>
    obtain ⟨pending, number, lines⟩ := scan
    cases pending with
    | cons token pending =>
      rw [take, next_pending]
      simp only [ih mode ⟨pending, number, lines⟩ visible, List.cons_append, List.take_succ_cons,
        List.length_cons, Nat.add_sub_add_right]
    | nil =>
      cases lines with
      | nil => rfl
      | cons line rest =>
        obtain ⟨shown, visible⟩ := List.forall_mem_cons.mp visible
        have laid : Laid tabWidth number line.ending 1 line.body
            (line.tokens tabWidth number mode).1 := line.tokens_laid mode shown
        obtain ⟨token, pending, given⟩ := List.exists_cons_of_ne_nil laid.ne_nil
        rw [take, next_line rest given]
        simp only [ih (line.parts mode).2 ⟨pending, number + 1, rest⟩ visible, tokenGroups, given,
          List.nil_append, List.flatten_cons, List.cons_append, List.take_succ_cons,
          List.length_nil, Nat.sub_zero, begun_cons (Nat.succ_ne_zero count), List.length_cons,
          Nat.succ_sub_succ]
        rfl

end Scan

namespace Lexer

/-- What can be asked of a lexer between two runs or by a run: all tokens, the first of them, and
another source or tab width. -/
inductive Request where
  | all
  | first (count : Nat)
  | source (source : List Char)
  | tabWidth (tabWidth : Nat)
deriving DecidableEq, Repr

/-- The lexer after a request. -/
def serve (lexer : Lexer) : Request → Lexer
  | .all => lexer.run.2
  | .first count => (lexer.runSome count).2
  | .source source => { lexer with source }
  | .tabWidth tabWidth => { lexer with tabWidth }

/-- The lexer after requests. -/
def serveAll (lexer : Lexer) (requests : List Request) : Lexer := requests.foldl serve lexer

end Lexer

/-- A lexer that keeps flags in place of a mode. -/
structure FlagLexer where
  source : List Char
  tabWidth : Nat
  flags : Flags
deriving DecidableEq, Repr

namespace FlagLexer

/-- Start a scan, ask it for a token `count` times or until it ends, and abandon it. -/
def take (lexer : FlagLexer) (count : Nat) : List Token × FlagLexer :=
  let (tokens, flags) :=
    Scan.take lexer.tabWidth count lexer.flags ⟨[], 1, Line.ofText lexer.source⟩
  (tokens, { lexer with flags })

/-- The lexer after a request. A source has at most as many tokens as characters, so a scan that is
asked once more than that has ended. -/
def serve (lexer : FlagLexer) : Lexer.Request → FlagLexer
  | .all => (lexer.take (lexer.source.length + 1)).2
  | .first count => (lexer.take count).2
  | .source source => { lexer with source }
  | .tabWidth tabWidth => { lexer with tabWidth }

/-- The lexer after requests. -/
def serveAll (lexer : FlagLexer) (requests : List Lexer.Request) : FlagLexer :=
  requests.foldl serve lexer

end FlagLexer

namespace Lexer

/-- The lexer with flags in place of its mode. -/
def flagged (lexer : Lexer) : FlagLexer := ⟨lexer.source, lexer.tabWidth, lexer.mode.flags⟩

private theorem take_flagged (lexer : Lexer) (count : Nat) :
    lexer.flagged.take count =
      ((lexer.runSome count).1.toList, (lexer.runSome count).2.flagged) := by
  have visible : ∀ line ∈ Line.ofText lexer.source, line.text ≠ [] := fun line member =>
    ((Line.ofText_cut lexer.source).of_mem member).2
  have taken := Scan.take_eq lexer.tabWidth count lexer.mode ⟨[], 1, Line.ofText lexer.source⟩
    visible
  rw [runSome_tokens, run_tokens, runSome_lexer]
  exact congrArg (fun given => (given.1, { lexer.flagged with flags := given.2 })) taken

private theorem serve_flagged (lexer : Lexer) (request : Request) :
    lexer.flagged.serve request = (lexer.serve request).flagged := by
  cases request with
  | all =>
    have enough := Nat.le_succ_of_le lexer.size_run_le
    exact congrArg Prod.snd ((lexer.take_flagged _).trans (by rw [lexer.runSome_of_le enough]))
  | first count => exact congrArg Prod.snd (lexer.take_flagged count)
  | source source => rfl
  | tabWidth tabWidth => rfl

private theorem serveAll_flagged (lexer : Lexer) (requests : List Request) :
    lexer.flagged.serveAll requests = (lexer.serveAll requests).flagged := by
  induction requests generalizing lexer with
  | nil => rfl
  | cons request rest ih =>
    rw [FlagLexer.serveAll, List.foldl_cons, serve_flagged]
    exact ih (lexer.serve request)

/-- What a lexer does in a run of requests. Whatever has been asked of it before, all tokens or only
some, with sources and tab widths replaced in between, a lexer with three flags is where a lexer
with a mode is, and never has more than one thing open. A run that is then cut short after `count`
tokens gives the first `count` tokens of the whole run, or all if there are no more. It leaves the
mode that a whole run over just the physical lines of these tokens leaves, and so nothing changes if
no token is asked for. -/
theorem serveAll_state (source : List Char) (tabWidth : Nat) (requests : List Request) :
    let lexer := serveAll ⟨source, tabWidth, .code⟩ requests
    let flagged := FlagLexer.serveAll ⟨source, tabWidth, {}⟩ requests
    flagged = lexer.flagged ∧ flagged.flags.Exclusive ∧
    ∀ count,
      flagged.take count = ((lexer.runSome count).1.toList, (lexer.runSome count).2.flagged) ∧
      (lexer.runSome count).1.toList = lexer.run.1.toList.take count ∧
      (lexer.run.1.size ≤ count → lexer.runSome count = lexer.run) ∧
      (count = 0 → (lexer.runSome count).2 = lexer) ∧
      ∃ lines last, Line.Cut lexer.source lines ∧
        (∀ number, (∃ token ∈ (lexer.runSome count).1.toList, token.line = number) ↔
          1 ≤ number ∧ number ≤ last) ∧
        (lexer.runSome count).2 = { lexer with
          mode := (run { lexer with source := (lines.take last).flatMap Line.text }).2.mode } := by
  intro lexer flagged
  have same : flagged = lexer.flagged := serveAll_flagged ⟨source, tabWidth, .code⟩ requests
  refine ⟨same, ?_, ?_⟩
  · rw [same]
    exact lexer.mode.flags_exclusive
  · intro count
    refine ⟨?_, lexer.runSome_tokens count, lexer.runSome_of_le, ?_, ?_⟩
    · rw [same]
      exact lexer.take_flagged count
    · rintro rfl
      rw [runSome_lexer, linesBegun, begun_zero]
      rfl
    · have cut := Line.ofText_cut lexer.source
      exact ⟨_, lexer.linesBegun count, cut, lexer.exists_mem_runSome_iff count,
        lexer.runSome_lexer_eq_run count cut⟩

end Lexer

end LineWidth
