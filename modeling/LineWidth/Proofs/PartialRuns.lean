import LineWidth.Proofs.TokenLayout

/-! # Runs that are cut short

A run that is asked for a number of tokens gives the first tokens of the whole run, and it looks at
the lines of these tokens and at no other. So it leaves the mode that a whole run over just those
lines leaves, whatever part of the last line's tokens was asked for.
-/

namespace LineWidth

/-- The first lines of a source are the lines of the text that they make up. -/
private theorem Line.Cut.take {source : List Char} {lines : List Line} (cut : Line.Cut source lines)
    (count : Nat) : Line.Cut ((lines.take count).flatMap Line.text) (lines.take count) := by
  induction cut generalizing count with
  | nil =>
    rw [List.take_nil]
    exact .nil
  | @last body visible free =>
    cases count with
    | zero => exact .nil
    | succ count =>
      have text : [(⟨body, none⟩ : Line)].flatMap Line.text = body := by
        simp [Line.text, Line.endChars]
      rw [List.take_of_length_le (by simp), text]
      exact .last visible free
  | @line body rest ending lines free whole tail ih =>
    cases count with
    | zero => exact .nil
    | succ count =>
      rw [List.take_succ_cons, List.flatMap_cons]
      refine .line free ?_ (ih count)
      intro isReturn next
      apply whole isReturn
      rw [← tail.flatMap_text, ← List.take_append_drop count lines, List.flatMap_append,
        List.head?_append, next, Option.some_or]

/-- The number of groups that are begun when `count` tokens are taken from them. -/
def begun (count : Nat) : List (List Token) → Nat
  | [] => 0
  | group :: groups => if count = 0 then 0 else begun (count - group.length) groups + 1

theorem begun_zero (groups : List (List Token)) : begun 0 groups = 0 := by
  cases groups <;> rfl

theorem begun_cons {count : Nat} (wanted : count ≠ 0) (group : List Token)
    (groups : List (List Token)) :
    begun count (group :: groups) = begun (count - group.length) groups + 1 :=
  if_neg wanted

section Paged

variable {tabWidth number : Nat} {lines : List Line} {groups : List (List Token)}

/-- The tokens that are taken stand on the lines that are begun, and on each of them. -/
private theorem Paged.exists_mem_take_iff (paged : Paged tabWidth number lines groups)
    (count target : Nat) :
    (∃ token ∈ groups.flatten.take count, token.line = target) ↔
      number ≤ target ∧ target < number + begun count groups := by
  induction paged generalizing count with
  | nil => simp [begun]
  | @cons number line lines group groups laid tail ih =>
    by_cases wanted : count = 0
    · simp [wanted, begun]
    · have first : (∃ token ∈ group.take count, token.line = target) ↔ target = number := by
        constructor
        · rintro ⟨token, member, rfl⟩
          exact laid.line_eq (List.mem_of_mem_take member)
        · rintro rfl
          obtain ⟨token, member⟩ := List.exists_mem_of_ne_nil (group.take count) (by
            simp [wanted, laid.ne_nil])
          exact ⟨token, member, laid.line_eq (List.mem_of_mem_take member)⟩
      simp only [List.flatten_cons, List.take_append, List.mem_append, or_and_right, exists_or,
        first, ih, begun_cons wanted]
      omega

/-- When all tokens are taken, all lines are begun. -/
private theorem Paged.begun_of_le (paged : Paged tabWidth number lines groups) {count : Nat}
    (enough : groups.flatten.length ≤ count) : begun count groups = lines.length := by
  induction paged generalizing count with
  | nil => rfl
  | @cons number line lines group groups laid tail ih =>
    have some := List.length_pos_of_ne_nil laid.ne_nil
    rw [List.flatten_cons, List.length_append] at enough
    rw [begun_cons (by omega), ih (by omega), List.length_cons]

end Paged

/-- A run that is cut short takes tokens from the groups of the lines, and carries its mode over the
lines that it has begun. -/
private theorem lexSomeOnto_eq (tabWidth number : Nat) (mode : Mode) (count : Nat)
    (tokens : Array Token) (lines : List Line) :
    (lexSomeOnto tabWidth number mode count tokens lines).1.toList =
        tokens.toList ++ (tokenGroups tabWidth number mode lines).flatten.take count ∧
      (lexSomeOnto tabWidth number mode count tokens lines).2 =
        modeAfter mode (lines.take (begun count (tokenGroups tabWidth number mode lines))) := by
  induction lines generalizing number mode count tokens with
  | nil => exact ⟨by simp [lexSomeOnto, tokenGroups], rfl⟩
  | cons line rest ih =>
    rw [lexSomeOnto, tokenGroups]
    by_cases wanted : count = 0
    · rw [if_pos wanted, wanted]
      simp [begun_zero, modeAfter]
    · rw [if_neg wanted, begun_cons wanted]
      have done := ih (number + 1) (line.parts mode).2
        (count - (line.tokens tabWidth number mode).1.length)
        (tokens ++ (line.tokens tabWidth number mode).1.take count)
      rw [Array.toList_appendList, List.append_assoc] at done
      rw [List.flatten_cons, List.take_append]
      exact done

namespace Lexer

/-- The number of lines that a run has begun when it has given `count` tokens. -/
def linesBegun (lexer : Lexer) (count : Nat) : Nat :=
  begun count (tokenGroups lexer.tabWidth 1 lexer.mode (Line.ofText lexer.source))

theorem runSome_tokens (lexer : Lexer) (count : Nat) :
    (lexer.runSome count).1.toList = lexer.run.1.toList.take count := by
  rw [run_tokens]
  exact (lexSomeOnto_eq lexer.tabWidth 1 lexer.mode count #[] _).1

theorem runSome_lexer (lexer : Lexer) (count : Nat) :
    (lexer.runSome count).2 = { lexer with
      mode := modeAfter lexer.mode ((Line.ofText lexer.source).take (lexer.linesBegun count)) } :=
  congrArg (fun mode => { lexer with mode })
    (lexSomeOnto_eq lexer.tabWidth 1 lexer.mode count #[] _).2

/-- The tokens that a run has given stand on the lines that it has begun, and on each of them. -/
theorem exists_mem_runSome_iff (lexer : Lexer) (count number : Nat) :
    (∃ token ∈ (lexer.runSome count).1.toList, token.line = number) ↔
      1 ≤ number ∧ number ≤ lexer.linesBegun count := by
  have paged : Paged lexer.tabWidth 1 _ _ := tokenGroups_ofText_paged lexer.mode lexer.source
  rw [runSome_tokens, run_tokens, paged.exists_mem_take_iff, linesBegun]
  omega

/-- A run that is cut short leaves what a whole run over the lines that it has begun leaves. -/
theorem runSome_lexer_eq_run (lexer : Lexer) (count : Nat) {lines : List Line}
    (cut : Line.Cut lexer.source lines) :
    (lexer.runSome count).2 = { lexer with
      mode := (run { lexer with
        source := (lines.take (lexer.linesBegun count)).flatMap Line.text }).2.mode } := by
  rw [run_lexer, (cut.take _).ofText_eq, runSome_lexer, cut.ofText_eq]

/-- A run that is asked for more tokens than there are is a whole run. -/
theorem runSome_of_le (lexer : Lexer) {count : Nat} (enough : lexer.run.1.size ≤ count) :
    lexer.runSome count = lexer.run := by
  have paged : Paged lexer.tabWidth 1 _ _ := tokenGroups_ofText_paged lexer.mode lexer.source
  rw [← Array.length_toList] at enough
  apply Prod.ext
  · apply Array.toList_inj.mp
    rw [runSome_tokens, List.take_of_length_le enough]
  · rw [run_tokens] at enough
    rw [runSome_lexer, run_lexer, linesBegun, paged.begun_of_le enough, List.take_length]

end Lexer

end LineWidth
