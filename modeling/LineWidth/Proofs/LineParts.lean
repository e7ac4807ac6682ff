import LineWidth.Proofs.PhysicalLines
import LineWidth.Token.Scan

/-! # The parts of a line cover it

`Scanned` is the splitting of a body as a relation, with the parts in the order of the text, so that
facts about all parts are proved by induction on the steps. `Covers` forgets how the parts were
found and keeps what the layout of tokens rests on: the texts of the parts make up the body, only
the last part has the line end, and only a part that has it may be without text, and is whitespace
then.
-/

namespace LineWidth

/-- The parts of a body that is read from a mode, and the mode after them. -/
inductive Scanned : Mode → Bool → List Char → List Part → Mode → Prop
  | nil {mode : Mode} {fresh : Bool} : Scanned mode fresh [] [] mode
  | cons {mode : Mode} {fresh : Bool} {c : Char} {rest : List Char} {parts : List Part}
      {final : Mode} {step : Step} (taken : step = Step.next mode fresh c rest)
      (tail : Scanned step.mode (fresh && step.kind == .whitespace) (rest.drop step.more) parts
        final) :
      Scanned mode fresh (c :: rest) (⟨step.kind, c :: rest.take step.more, none⟩ :: parts) final

/-- Splitting collects the scanned parts in front of those already found, last part first. -/
private theorem splitOnto_scanned (mode : Mode) (fresh : Bool) (found : List Part)
    (body : List Char) :
    ∃ parts final, splitOnto mode fresh found body = (parts.reverse ++ found, final) ∧
      Scanned mode fresh body parts final := by
  fun_induction splitOnto mode fresh found body with
  | case1 mode fresh found => exact ⟨[], mode, rfl, .nil⟩
  | case2 mode fresh found c rest step part ih =>
    obtain ⟨parts, final, collected, scanned⟩ := ih
    refine ⟨part :: parts, final, ?_, .cons rfl scanned⟩
    rw [collected, List.reverse_cons, List.append_assoc, List.singleton_append]

/-- The parts of a body are its text, cut. -/
private theorem Scanned.flatMap_text {mode final : Mode} {fresh : Bool} {body : List Char}
    {parts : List Part} (scanned : Scanned mode fresh body parts final) :
    parts.flatMap Part.text = body := by
  induction scanned with
  | nil => rfl
  | cons taken tail ih =>
    rw [List.flatMap_cons, ih, List.cons_append, List.take_append_drop]

/-- A part of a body has text and no line end. -/
theorem Scanned.of_mem {mode final : Mode} {fresh : Bool} {body : List Char} {parts : List Part}
    (scanned : Scanned mode fresh body parts final) {part : Part} (member : part ∈ parts) :
    part.ending = none ∧ part.text ≠ [] := by
  induction scanned with
  | nil => cases member
  | cons taken tail ih =>
    rcases List.mem_cons.mp member with rfl | member
    · exact ⟨rfl, List.cons_ne_nil _ _⟩
    · exact ih member

/-- Only an empty body has no parts. -/
theorem Scanned.eq_nil {mode final : Mode} {fresh : Bool} {body : List Char}
    (scanned : Scanned mode fresh body [] final) : body = [] ∧ final = mode := by
  cases scanned
  exact ⟨rfl, rfl⟩

/-- Give the end of a line, if it has one, to its parts in order. -/
def withEnd (mode : Mode) (ending : Option LineEnd) (parts : List Part) : List Part :=
  match ending with
  | none => parts
  | some ending => (endParts mode ending parts.reverse).reverse

/-- A body is scanned from a fresh start, in one way for every end that its line may have, and then
the end is given away. -/
theorem Line.parts_eq (mode : Mode) (body : List Char) :
    ∃ parts final, Scanned mode true body parts final ∧
      ∀ ending, Line.parts mode ⟨body, ending⟩ = (withEnd final ending parts, final) := by
  obtain ⟨parts, final, collected, scanned⟩ := splitOnto_scanned mode true [] body
  refine ⟨parts, final, scanned, ?_⟩
  intro ending
  rw [List.append_nil] at collected
  unfold Line.parts withEnd
  rw [collected]
  cases ending with
  | none => simp
  | some ending => rfl

theorem Line.parts_scanned (mode : Mode) (line : Line) :
    ∃ parts final, Scanned mode true line.body parts final ∧
      line.parts mode = (withEnd final line.ending parts, final) := by
  obtain ⟨parts, final, scanned, split⟩ := Line.parts_eq mode line.body
  exact ⟨parts, final, scanned, split line.ending⟩

/-- The line end goes to the last part when that part owns it, and else to a part of its own. -/
theorem withEnd_cases (mode : Mode) (ending : LineEnd) (parts : List Part) :
    (∃ init last, parts = init ++ [last] ∧ last.ownsEnd mode = true ∧
      withEnd mode (some ending) parts = init ++ [{ last with ending := some ending }]) ∨
    ((∀ init last, parts = init ++ [last] → last.ownsEnd mode = false) ∧
      withEnd mode (some ending) parts = parts ++ [⟨.whitespace, [], some ending⟩]) := by
  rcases List.eq_nil_or_concat' parts with rfl | ⟨init, last, rfl⟩
  · exact .inr ⟨by simp, rfl⟩
  · cases owns : last.ownsEnd mode with
    | true => exact .inl ⟨init, last, rfl, owns, by simp [withEnd, endParts, owns]⟩
    | false =>
      refine .inr ⟨?_, by simp [withEnd, endParts, owns]⟩
      intro other same split
      obtain ⟨_, rfl⟩ := List.append_singleton_inj.mp split
      exact owns

/-- Giving the line end to parts of which the first does not take it. -/
theorem withEnd_cons {mode : Mode} {ending : Option LineEnd} {part : Part} {parts : List Part}
    (keeps : ending = none ∨ parts ≠ [] ∨ part.ownsEnd mode = false) :
    withEnd mode ending (part :: parts) = part :: withEnd mode ending parts := by
  cases ending with
  | none => rfl
  | some ending =>
    rcases List.eq_nil_or_concat' parts with rfl | ⟨init, last, rfl⟩
    · simp_all [withEnd, endParts]
    · cases owns : last.ownsEnd mode <;> simp [withEnd, endParts, owns]

/-- The parts of a line with a given end and body. -/
inductive Covers (ending : Option LineEnd) : List Char → List Part → Prop
  | last {part : Part} (owns : part.ending = ending) (visible : part.content ≠ [])
      (blank : part.text = [] → part.kind = .whitespace) : Covers ending part.text [part]
  | cons {part : Part} {body : List Char} {parts : List Part} (bare : part.ending = none)
      (visible : part.text ≠ []) (tail : Covers ending body parts) :
      Covers ending (part.text ++ body) (part :: parts)

theorem Covers.flatMap_text {ending : Option LineEnd} {body : List Char} {parts : List Part}
    (covers : Covers ending body parts) : parts.flatMap Part.text = body := by
  induction covers with
  | last owns visible blank => simp
  | cons bare visible tail ih => rw [List.flatMap_cons, ih]

theorem Covers.breakFree {ending : Option LineEnd} {body : List Char} {parts : List Part}
    (covers : Covers ending body parts) (free : BreakFree body) {part : Part}
    (member : part ∈ parts) : BreakFree part.text := by
  intro c within
  apply free
  rw [← covers.flatMap_text]
  exact List.mem_flatMap_of_mem member within

/-- Parts with text and without line ends may stand before the last part. -/
private theorem Covers.append {ending : Option LineEnd} {init : List Part} {last : Part}
    (inner : ∀ part ∈ init, part.ending = none ∧ part.text ≠ []) (owns : last.ending = ending)
    (visible : last.content ≠ []) (blank : last.text = [] → last.kind = .whitespace) :
    Covers ending (init.flatMap Part.text ++ last.text) (init ++ [last]) := by
  induction init with
  | nil => exact .last owns visible blank
  | cons part rest ih =>
    obtain ⟨bare, text⟩ := inner part (List.mem_cons_self ..)
    have tail := ih fun other member => inner other (List.mem_cons_of_mem _ member)
    rw [List.flatMap_cons, List.append_assoc, List.cons_append]
    exact .cons bare text tail

/-- In every mode, the parts of a line that is not empty cover it. -/
theorem Line.parts_covers (mode : Mode) (line : Line) (visible : line.text ≠ []) :
    Covers line.ending line.body (line.parts mode).1 := by
  obtain ⟨parts, final, scanned, split⟩ := line.parts_scanned mode
  rw [split, ← scanned.flatMap_text]
  have inner : ∀ part ∈ parts, part.ending = none ∧ part.text ≠ [] := fun _ => scanned.of_mem
  cases ended : line.ending with
  | none =>
    have body : line.body ≠ [] := by simpa [Line.text, Line.endChars, ended] using visible
    rcases List.eq_nil_or_concat' parts with rfl | ⟨init, last, rfl⟩
    · exact absurd scanned.flatMap_text.symm body
    · obtain ⟨bare, text⟩ := inner last (by simp)
      have covers := @Covers.append none init last
        (fun part member => inner part (by simp [member])) bare (by simp [Part.content, text])
        (fun none => absurd none text)
      simpa [withEnd] using covers
  | some ending =>
    rcases withEnd_cases final ending parts with ⟨init, last, rfl, owns, given⟩ | ⟨_, given⟩
    · rw [given]
      obtain ⟨_, text⟩ := inner last (by simp)
      have covers := @Covers.append (some ending) init { last with ending := some ending }
        (fun part member => inner part (by simp [member])) rfl (by simp [Part.content, text])
        (fun none => absurd none text)
      simpa using covers
    · rw [given]
      have covers := @Covers.append (some ending) parts ⟨.whitespace, [], some ending⟩ inner rfl
        (by simp [Part.content, ending.chars_ne_nil]) (fun _ => rfl)
      simpa using covers

end LineWidth
