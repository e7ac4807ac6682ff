import LineWidth.Proofs.Results
import LineWidth.Text.Template

/-! # Templates with plain places

Most templates have only places `%s`. Such a template is filled when it has as many places as there
are integers, if these can be written; else its places and the integers do not go together
(`fillTemplate_of_places`).
-/

namespace LineWidth

/-- The number of places of a template that has only places `%s`. -/
def templatePlaces : List Char → Option Nat
  | [] => some 0
  | ['%'] => none
  | '%' :: 's' :: rest => (templatePlaces rest).map (· + 1)
  | '%' :: '%' :: rest => templatePlaces rest
  | '%' :: _ :: _ => none
  | _ :: rest => templatePlaces rest

namespace Template

private theorem write_text {argument : Int} (writable : Text.canWrite argument = true) :
    Place.write {} argument .text = .ok ((toString argument).toList.map Char.toNat) := by
  rw [Place.write, if_pos writable]
  simp [Place.fillUp]

namespace Filling

variable {filling : Filling} {c : Char}

private theorem step_plain (closed : filling.place = none) (plain : c ≠ '%') :
    filling.step c = .ok { filling.close [c.toNat] with index := filling.index + 1 } := by
  simp only [step, closed, if_neg plain]
  rfl

private theorem step_percent (closed : filling.place = none) :
    filling.step '%' = .ok { filling with place := some {}, index := filling.index + 1 } := by
  simp only [step, closed, if_true]
  rfl

private theorem step_doubled (opened : filling.place = some {}) :
    filling.step '%' = .ok { filling.close ['%'.toNat] with index := filling.index + 1 } := by
  have percent : Place.move {} '%' = .percent := by decide
  simp only [step, opened, stepIn, percent]
  rfl

private theorem step_text {argument : Int} {arguments : List Int}
    (opened : filling.place = some {}) (left : filling.arguments = argument :: arguments)
    (writable : Text.canWrite argument = true) :
    filling.step 's' = .ok
      { filling.close ((toString argument).toList.map Char.toNat) with
        arguments, index := filling.index + 1 } := by
  have converts : Place.move {} 's' = .convert := by decide
  simp only [step, opened, stepIn, converts, next, left, bind, Except.bind, Conversion.ofChar?,
    write_text writable]
  rfl

private theorem step_text_nil (opened : filling.place = some {}) (left : filling.arguments = []) :
    filling.step 's' = .error .tooFewArguments := by
  have converts : Place.move {} 's' = .convert := by decide
  simp only [step, opened, stepIn, converts, next, left]
  rfl

private theorem foldlM_of_step {later : Filling} {rest : List Char}
    (done : filling.step c = .ok later) :
    (c :: rest).foldlM step filling = rest.foldlM step later := by
  rw [List.foldlM_cons, done]
  rfl

/-- Whether reading a template takes `count` of the arguments and writes some text, or fails because
there are not that many. -/
def Takes (template : List Char) (count : Nat) (filling : Filling) : Prop :=
  (count ≤ filling.arguments.length ∧ ∃ (text : List Char) (index : Nat),
    template.foldlM step filling = .ok
      { written := (text.map Char.toNat).reverse ++ filling.written
        arguments := filling.arguments.drop count, index }) ∨
  (filling.arguments.length < count ∧ template.foldlM step filling = .error .tooFewArguments)

/-- What the rest of a template takes is taken behind what its start has taken. -/
private theorem Takes.of_rest {template rest : List Char} {count taken : Nat}
    {filling later : Filling} (text : List Char)
    (goesOn : template.foldlM step filling = rest.foldlM step later)
    (written : later.written = (text.map Char.toNat).reverse ++ filling.written)
    (arguments : later.arguments = filling.arguments.drop taken)
    (enough : taken ≤ filling.arguments.length) (takes : Takes rest count later) :
    Takes template (taken + count) filling := by
  rw [Takes, arguments, List.length_drop, written, List.drop_drop, ← goesOn] at takes
  rcases takes with ⟨left, more, index, done⟩ | ⟨short, failed⟩
  · refine .inl ⟨by omega, text ++ more, index, ?_⟩
    rw [done, List.map_append, List.reverse_append, List.append_assoc]
  · exact .inr ⟨by omega, failed⟩

/-- Reading a template with plain places takes as many arguments as it has places. -/
private theorem takes_of_places {template : List Char} {count : Nat}
    (places : templatePlaces template = some count) (filling : Filling)
    (closed : filling.place = none)
    (writable : ∀ argument ∈ filling.arguments, Text.canWrite argument = true) :
    Takes template count filling := by
  fun_induction templatePlaces template generalizing filling count with
  | case1 =>
    obtain rfl := Option.some.inj places
    refine .inl ⟨Nat.zero_le _, [], filling.index, ?_⟩
    rw [← closed]
    rfl
  | case2 => cases places
  | case3 rest ih =>
    obtain ⟨fewer, counted, rfl⟩ := Option.map_eq_some_iff.mp places
    cases left : filling.arguments with
    | nil =>
      refine .inr ⟨by simp [left], ?_⟩
      have failed := @step_text_nil
        { filling with place := some {}, index := filling.index + 1 } rfl left
      rw [foldlM_of_step (step_percent closed), List.foldlM_cons, failed]
      rfl
    | cons argument arguments =>
      rw [left] at writable
      obtain ⟨first, others⟩ := List.forall_mem_cons.mp writable
      have goesOn : ('%' :: 's' :: rest).foldlM step filling = rest.foldlM step
          { filling.close ((toString argument).toList.map Char.toNat) with
            arguments, index := filling.index + 1 + 1 } :=
        (foldlM_of_step (step_percent closed)).trans (foldlM_of_step (step_text rfl left first))
      rw [Nat.add_comm]
      exact .of_rest _ goesOn rfl (by rw [left]; rfl) (by simp [left]) (ih counted _ rfl others)
  | case4 rest ih =>
    have goesOn : ('%' :: '%' :: rest).foldlM step filling = rest.foldlM step
        { filling.close ['%'.toNat] with index := filling.index + 1 + 1 } :=
      (foldlM_of_step (step_percent closed)).trans (foldlM_of_step (step_doubled rfl))
    rw [← Nat.zero_add count]
    exact .of_rest ['%'] goesOn rfl rfl (Nat.zero_le _) (ih places _ rfl writable)
  | case5 => cases places
  | case6 c rest notLast _ _ notFollowed ih =>
    have plain : c ≠ '%' := by
      rintro rfl
      cases rest with
      | nil => exact notLast rfl rfl
      | cons next others => exact notFollowed next others rfl rfl
    have goesOn : (c :: rest).foldlM step filling = rest.foldlM step
        { filling.close [c.toNat] with index := filling.index + 1 } :=
      foldlM_of_step (step_plain closed plain)
    rw [← Nat.zero_add count]
    exact .of_rest [c] goesOn rfl rfl (Nat.zero_le _) (ih places _ rfl writable)

end Filling

end Template

/-- A template with plain places is filled exactly if it has a place for each argument. -/
theorem fillTemplate_of_places {template : List Char} {count : Nat} {arguments : List Int}
    (places : templatePlaces template = some count)
    (writable : ∀ argument ∈ arguments, Text.canWrite argument = true) :
    (count = arguments.length ∧
      ∃ text : List Char, fillTemplate template arguments = .ok (text.map Char.toNat)) ∨
    (count ≠ arguments.length ∧
      ∃ fault, fillTemplate template arguments = .error fault ∧ fault.kind = .mismatch) := by
  rw [fillTemplate]
  rcases Template.Filling.takes_of_places places { arguments } rfl writable with
    ⟨enough, text, index, done⟩ | ⟨short, failed⟩
  · rw [done]
    by_cases same : count = arguments.length
    · refine .inl ⟨same, text, ?_⟩
      simp [Except.bind, Template.Filling.result, same]
    · refine .inr ⟨same, .argumentsLeft, ?_, rfl⟩
      have left : arguments.drop count ≠ [] := by
        rw [ne_eq, List.drop_eq_nil_iff]
        dsimp only at enough
        omega
      simp [Except.bind, Template.Filling.result, left]
  · rw [failed]
    exact .inr ⟨by dsimp only at short; omega, .tooFewArguments, rfl, rfl⟩

end LineWidth
