import LineWidth.Token.Stream
import Mathlib.Data.List.Basic

/-! # A run of the lexer, line by line

The lexer appends the tokens of one line after the other to an array. Here its result is the list of
the lines' own token groups, together with the mode that is carried from line to line, so that a run
composes over lists of lines and the numbering of lines can be changed.
-/

namespace LineWidth

/-- The mode after lines that are read from a mode. -/
def modeAfter (mode : Mode) (lines : List Line) : Mode :=
  lines.foldl (fun mode line => (line.parts mode).2) mode

/-- The tokens of lines that are numbered from `number` on, one group for each line. -/
def tokenGroups (tabWidth : Nat) : Nat → Mode → List Line → List (List Token)
  | _, _, [] => []
  | number, mode, line :: rest =>
    (line.tokens tabWidth number mode).1 ::
      tokenGroups tabWidth (number + 1) (line.parts mode).2 rest

theorem tokenGroups_append (tabWidth number : Nat) (mode : Mode) (first second : List Line) :
    tokenGroups tabWidth number mode (first ++ second) =
      tokenGroups tabWidth number mode first ++
        tokenGroups tabWidth (number + first.length) (modeAfter mode first) second := by
  induction first generalizing number mode with
  | nil => rfl
  | cons line rest ih =>
    rw [List.cons_append, tokenGroups, tokenGroups, ih, List.cons_append, List.length_cons,
      Nat.add_right_comm, Nat.add_assoc]
    rfl

theorem modeAfter_append (mode : Mode) (first second : List Line) :
    modeAfter mode (first ++ second) = modeAfter (modeAfter mode first) second :=
  List.foldl_append

/-- The token a number of lines further down. -/
def Token.down (count : Nat) (token : Token) : Token := { token with line := token.line + count }

private theorem placeOnto_down (tabWidth number count column : Nat) (placed : List Token)
    (parts : List Part) :
    placeOnto tabWidth (number + count) column (placed.map (Token.down count)) parts =
      (placeOnto tabWidth number column placed parts).map (Token.down count) := by
  induction parts generalizing column placed with
  | nil => simp [placeOnto]
  | cons part rest ih =>
    rw [placeOnto, placeOnto, ← ih]
    rfl

/-- Only their line numbers tell tokens where their lines stand. -/
theorem tokenGroups_down (tabWidth number count : Nat) (mode : Mode) (lines : List Line) :
    tokenGroups tabWidth (number + count) mode lines =
      (tokenGroups tabWidth number mode lines).map (List.map (Token.down count)) := by
  induction lines generalizing number mode with
  | nil => rfl
  | cons line rest ih =>
    rw [tokenGroups, tokenGroups, List.map_cons, Nat.add_right_comm, ih]
    exact congrArg (· :: _) (placeOnto_down tabWidth number count 1 [] (line.parts mode).1)

/-- The lexer gives the groups of all lines, one after the other, and the mode after the lines. -/
theorem lexOnto_eq (tabWidth number : Nat) (mode : Mode) (tokens : Array Token)
    (lines : List Line) :
    (lexOnto tabWidth number mode tokens lines).1.toList =
        tokens.toList ++ (tokenGroups tabWidth number mode lines).flatten ∧
      (lexOnto tabWidth number mode tokens lines).2 = modeAfter mode lines := by
  induction lines generalizing number mode tokens with
  | nil => exact ⟨by simp [lexOnto, tokenGroups], rfl⟩
  | cons line rest ih =>
    obtain ⟨flat, last⟩ := ih (number + 1) (line.parts mode).2
      (tokens ++ (line.tokens tabWidth number mode).1)
    rw [Array.toList_appendList, List.append_assoc] at flat
    rw [tokenGroups, List.flatten_cons]
    exact ⟨flat, last⟩

theorem Lexer.run_tokens (lexer : Lexer) :
    lexer.run.1.toList =
      (tokenGroups lexer.tabWidth 1 lexer.mode (Line.ofText lexer.source)).flatten :=
  (lexOnto_eq lexer.tabWidth 1 lexer.mode #[] _).1

/-- A run changes nothing of a lexer but its mode. -/
theorem Lexer.run_lexer (lexer : Lexer) :
    lexer.run.2 = { lexer with mode := modeAfter lexer.mode (Line.ofText lexer.source) } :=
  congrArg (fun mode => { lexer with mode }) (lexOnto_eq lexer.tabWidth 1 lexer.mode #[] _).2

/-- The stream of a source is made of the groups of its physical lines. -/
theorem TokenStream.ofSource_tokens (source : List Char) (tabWidth : Nat) :
    (ofSource source tabWidth).tokens.toList =
      (tokenGroups tabWidth 1 .code (Line.ofText source)).flatten :=
  Lexer.run_tokens ⟨source, tabWidth, .code⟩

end LineWidth
