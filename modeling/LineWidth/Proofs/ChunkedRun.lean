import LineWidth.Proofs.LineRun
import LineWidth.Proofs.PhysicalLines

/-! # Lexing in chunks

A lexer keeps the mode of its last run, so a source may be handed to it in chunks. Where chunks are
cut behind whole line ends, the runs give the tokens of one run over the whole source: the cut of a
source into lines is then made of the cuts of its chunks, and the mode is all that a line leaves to
the next one. Only line numbers start anew with every chunk.
-/

namespace LineWidth

/-- A text that stops with a line end leaves no line open. -/
private theorem endsOpen_ended {text : List Char}
    (ended : text = [] ∨ ∃ body ending, text = body ++ LineEnd.chars ending) :
    endsOpen text = false := by
  rcases ended with rfl | ⟨body, ending, rfl⟩
  · rfl
  · have closed := endsOpen_ending body [] ending
    rwa [List.append_nil] at closed

/-- The token groups of two texts that are cut apart between two lines. -/
theorem tokenGroups_ofText_join {first second : List Char} (tabWidth : Nat) (mode : Mode)
    (closed : endsOpen first = false)
    (apart : first.getLast? = some '\r' → second.head? ≠ some '\n') :
    tokenGroups tabWidth 1 mode (Line.ofText (first ++ second)) =
      tokenGroups tabWidth 1 mode (Line.ofText first) ++
        (tokenGroups tabWidth 1 (modeAfter mode (Line.ofText first)) (Line.ofText second)).map
          (List.map (Token.down (Line.ofText first).length)) := by
  have joined := (Line.ofText_cut first).append (Line.ofText_cut second) closed apart
  rw [joined.ofText_eq, tokenGroups_append, tokenGroups_down]

namespace Lexer

/-- Lexing in chunks is lexing the whole. From every mode, a run over a chunk that is empty or stops
with a line end, and then a run of the lexer that is left over a second chunk, give the tokens of
one run over both chunks, but for the line numbers of the second chunk, which are lower by the
physical lines of the first; and they end in the mode of the one run. The chunks must not share a
`\r\n`. -/
theorem run_chunks (lexer : Lexer) {second : List Char}
    (ended : lexer.source = [] ∨ ∃ body ending, lexer.source = body ++ LineEnd.chars ending)
    (apart : ¬ (lexer.source.getLast? = some '\r' ∧ second.head? = some '\n')) :
    let whole := Lexer.run { lexer with source := lexer.source ++ second }
    let next := Lexer.run { lexer.run.2 with source := second }
    ∃ lines, Line.Cut lexer.source lines ∧
      whole.1 = lexer.run.1 ++ next.1.map (Token.down lines.length) ∧
      whole.2.mode = next.2.mode := by
  intro whole next
  have closed := endsOpen_ended ended
  have apart : lexer.source.getLast? = some '\r' → second.head? ≠ some '\n' := not_and.mp apart
  have cut := Line.ofText_cut lexer.source
  refine ⟨Line.ofText lexer.source, cut, ?_, ?_⟩
  · apply Array.toList_inj.mp
    rw [Array.toList_append, Array.toList_map, run_tokens, run_tokens, run_tokens, run_lexer,
      tokenGroups_ofText_join _ _ closed apart, List.flatten_append, List.map_flatten]
  · have joined := cut.append (Line.ofText_cut second) closed apart
    simp only [whole, next, run_lexer, joined.ofText_eq, modeAfter_append]

/-- A chunk that stops behind a backslash inside a string, and the chunk with the rest of it. -/
theorem run_chunks_string :
    let first : Lexer := ⟨['x', '\\', '\r', '\n'], 4, .quoted .single⟩
    let whole := Lexer.run { first with source := ['x', '\\', '\r', '\n', '\'', '\t', 'y'] }
    let next := Lexer.run { first.run.2 with source := ['\'', '\t', 'y'] }
    ∃ lines, Line.Cut first.source lines ∧
      whole.1 = first.run.1 ++ next.1.map (Token.down lines.length) ∧
      whole.2.mode = next.2.mode :=
  run_chunks ⟨['x', '\\', '\r', '\n'], 4, .quoted .single⟩ (.inr ⟨['x', '\\'], .crlf, rfl⟩)
    (by decide)

end Lexer

end LineWidth
