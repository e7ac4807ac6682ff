import LineWidth.Source.Width
import Mathlib.Data.Nat.ModEq
import Mathlib.Order.Bounds.Defs

/-! # Rendering a line as a whole

The lexer measures a line piece by piece, each piece from the column where the one before it ended
and with a shortcut for pieces without tabs. The reference is one rendering of the whole text from
column 1, with the tab stops said directly. The two agree because rendering composes over
concatenation; nothing here depends on how a line is split into pieces.
-/

namespace LineWidth

/-- The first tab stop after a column. The stops are `1`, `1 + tabWidth`, `1 + 2 * tabWidth`, …. -/
def nextStop (tabWidth column : Nat) : Nat := 1 + tabWidth * ((column - 1) / tabWidth + 1)

/-- The next stop is the least later column that is 1 modulo the tab width. -/
theorem nextStop_isLeast {tabWidth column : Nat} (tabs : 0 < tabWidth) (placed : 1 ≤ column) :
    IsLeast {stop | column < stop ∧ stop ≡ 1 [MOD tabWidth]} (nextStop tabWidth column) := by
  have before : column - 1 < tabWidth * ((column - 1) / tabWidth + 1) :=
    Nat.lt_mul_div_succ (column - 1) tabs
  refine ⟨⟨?_, ?_⟩, ?_⟩
  · unfold nextStop
    omega
  · simp [Nat.ModEq, nextStop]
  · rintro stop ⟨later, congruent⟩
    obtain ⟨count, same⟩ : tabWidth ∣ stop - 1 :=
      (Nat.modEq_iff_dvd' (by omega)).mp congruent.symm
    have reached : (column - 1) / tabWidth < count := by
      rw [Nat.div_lt_iff_lt_mul tabs, Nat.mul_comm, ← same]
      omega
    have stops := Nat.mul_le_mul_left tabWidth reached
    simp only [Nat.succ_eq_add_one] at stops
    unfold nextStop
    omega

/-- The column after a text that is rendered from `column` on. -/
def columnAfter (tabWidth : Nat) : Nat → List Char → Nat
  | column, [] => column
  | column, c :: rest =>
    columnAfter tabWidth
      (if c = '\t' ∧ 0 < tabWidth then nextStop tabWidth column else column + 1) rest

/-- The rendered width of a text that starts in column 1. -/
def lineWidth (tabWidth : Nat) (text : List Char) : Nat := columnAfter tabWidth 1 text - 1

@[simp] theorem lineWidth_nil (tabWidth : Nat) : lineWidth tabWidth [] = 0 := rfl

example : lineWidth 4 ['a', '\t', 'b', '\t'] = 8 := by decide

/-- Rendering composes: the second text starts where the first one ends. -/
theorem columnAfter_append (tabWidth column : Nat) (first second : List Char) :
    columnAfter tabWidth column (first ++ second) =
      columnAfter tabWidth (columnAfter tabWidth column first) second := by
  induction first generalizing column with
  | nil => rfl
  | cons c rest ih => exact ih _

/-- Counting on from a column to its next stop is what a tab does. -/
theorem advance_eq (tabWidth column : Nat) (c : Char) (placed : 1 ≤ column) :
    advance tabWidth column c =
      if c = '\t' ∧ 0 < tabWidth then nextStop tabWidth column else column + 1 := by
  unfold advance nextStop
  split_ifs with tab
  · have parts := Nat.div_add_mod (column - 1) tabWidth
    have remainder := Nat.mod_lt (column - 1) tab.2
    rw [Nat.mul_add]
    omega
  · rfl

theorem lt_advance (tabWidth column : Nat) (c : Char) : column < advance tabWidth column c := by
  unfold advance
  split_ifs with tab
  · have remainder := Nat.mod_lt (column - 1) tab.2
    omega
  · omega

/-- The loop over the characters of a text renders it. -/
theorem foldl_advance (tabWidth column : Nat) (text : List Char) (placed : 1 ≤ column) :
    text.foldl (advance tabWidth) column = columnAfter tabWidth column text := by
  induction text generalizing column with
  | nil => rfl
  | cons c rest ih =>
    have later := lt_advance tabWidth column c
    rw [List.foldl_cons, ih _ (by omega), advance_eq tabWidth column c placed, columnAfter]

/-- Every character takes at least one column. -/
theorem add_length_le_columnAfter (tabWidth column : Nat) (text : List Char) (placed : 1 ≤ column) :
    column + text.length ≤ columnAfter tabWidth column text := by
  induction text generalizing column with
  | nil => exact Nat.le_refl _
  | cons c rest ih =>
    have later := lt_advance tabWidth column c
    have tail := ih (advance tabWidth column c) (by omega)
    rw [columnAfter, ← advance_eq tabWidth column c placed, List.length_cons]
    omega

/-- The shortcut: without tabs, or at tab width 0, every character takes exactly one column. -/
theorem columnAfter_plain {tabWidth : Nat} (column : Nat) {text : List Char}
    (plain : tabWidth = 0 ∨ '\t' ∉ text) :
    columnAfter tabWidth column text = column + text.length := by
  induction text generalizing column with
  | nil => rfl
  | cons c rest ih =>
    have single : ¬ (c = '\t' ∧ 0 < tabWidth) := by
      rintro ⟨rfl, tabs⟩
      rcases plain with zero | absent
      · omega
      · exact absent (List.mem_cons_self ..)
    have plainRest : tabWidth = 0 ∨ '\t' ∉ rest :=
      plain.imp_right fun absent member => absent (List.mem_cons_of_mem _ member)
    rw [columnAfter, if_neg single, ih _ plainRest, List.length_cons]
    omega

/-- The shortcut and the loop both measure the distance to the column where the text ends. -/
theorem add_renderedWidth (tabWidth column : Nat) (text : List Char) (placed : 1 ≤ column) :
    column + renderedWidth tabWidth column text = columnAfter tabWidth column text := by
  have room := add_length_le_columnAfter tabWidth column text placed
  unfold renderedWidth
  split_ifs with plain
  · exact (columnAfter_plain column plain).symm
  · rw [foldl_advance tabWidth column text placed]
    omega

theorem length_le_renderedWidth (tabWidth column : Nat) (text : List Char) (placed : 1 ≤ column) :
    text.length ≤ renderedWidth tabWidth column text := by
  have room := add_length_le_columnAfter tabWidth column text placed
  have sum := add_renderedWidth tabWidth column text placed
  omega

@[simp] theorem renderedWidth_nil (tabWidth column : Nat) :
    renderedWidth tabWidth column [] = 0 := by
  simp [renderedWidth]

/-- Only the empty text takes no column. -/
theorem renderedWidth_eq_zero_iff {tabWidth column : Nat} {text : List Char}
    (placed : 1 ≤ column) : renderedWidth tabWidth column text = 0 ↔ text = [] := by
  constructor
  · intro narrow
    have room := length_le_renderedWidth tabWidth column text placed
    exact List.eq_nil_of_length_eq_zero (by omega)
  · rintro rfl
    exact renderedWidth_nil tabWidth column

theorem one_add_lineWidth (tabWidth : Nat) (text : List Char) :
    1 + lineWidth tabWidth text = columnAfter tabWidth 1 text := by
  have room := add_length_le_columnAfter tabWidth 1 text (Nat.le_refl 1)
  unfold lineWidth
  omega

theorem length_le_lineWidth (tabWidth : Nat) (text : List Char) :
    text.length ≤ lineWidth tabWidth text := by
  have room := add_length_le_columnAfter tabWidth 1 text (Nat.le_refl 1)
  have sum := one_add_lineWidth tabWidth text
  omega

theorem lineWidth_eq_zero_iff {tabWidth : Nat} {text : List Char} :
    lineWidth tabWidth text = 0 ↔ text = [] := by
  constructor
  · intro narrow
    have room := length_le_lineWidth tabWidth text
    exact List.eq_nil_of_length_eq_zero (by omega)
  · rintro rfl
    rfl

/-- A piece measured from where the text before it ends continues the rendering of the line. -/
theorem lineWidth_append (tabWidth : Nat) (first second : List Char) :
    lineWidth tabWidth (first ++ second) =
      lineWidth tabWidth first + renderedWidth tabWidth (1 + lineWidth tabWidth first) second := by
  have whole := one_add_lineWidth tabWidth (first ++ second)
  have piece := add_renderedWidth tabWidth (1 + lineWidth tabWidth first) second (by omega)
  rw [columnAfter_append, ← one_add_lineWidth tabWidth first] at whole
  omega

end LineWidth
