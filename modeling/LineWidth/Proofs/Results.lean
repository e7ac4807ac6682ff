import Mathlib.Data.List.Basic

/-! # Computations that can fail

When a sequence of computations succeeds, every one of them does, and its results are theirs. These
are the facts about `Except` that proofs about reading and checking take apart.
-/

namespace LineWidth

variable {ε α β : Type}

theorem bind_eq_ok_iff {first : Except ε α} {next : α → Except ε β} {result : β} :
    (first >>= next) = .ok result ↔ ∃ value, first = .ok value ∧ next value = .ok result := by
  cases first <;> simp [bind, Except.bind]

theorem bind_eq_error_iff {first : Except ε α} {next : α → Except ε β} {fault : ε} :
    (first >>= next) = .error fault ↔
      first = .error fault ∨ ∃ value, first = .ok value ∧ next value = .error fault := by
  cases first <;> simp [bind, Except.bind]

theorem mapError_eq_ok_iff {ε' : Type} {tell : ε → ε'} {result : Except ε α} {value : α} :
    result.mapError tell = .ok value ↔ result = .ok value := by
  cases result <;> simp [Except.mapError]

theorem mapError_eq_error_iff {ε' : Type} {tell : ε → ε'} {result : Except ε α} {told : ε'} :
    result.mapError tell = .error told ↔ ∃ fault, result = .error fault ∧ tell fault = told := by
  cases result <;> simp [Except.mapError]

theorem map_eq_ok_iff {change : α → β} {result : Except ε α} {value : β} :
    result.map change = .ok value ↔ ∃ given, result = .ok given ∧ change given = value := by
  cases result <;> simp [Except.map]

theorem map_eq_error_iff {change : α → β} {result : Except ε α} {fault : ε} :
    result.map change = .error fault ↔ result = .error fault := by
  cases result <;> simp [Except.map]

theorem mapM_cons_eq_ok_iff {read : α → Except ε β} {input : α} {inputs : List α}
    {results : List β} :
    (input :: inputs).mapM read = .ok results ↔ ∃ result rest, read input = .ok result ∧
      inputs.mapM read = .ok rest ∧ results = result :: rest := by
  simp only [List.mapM_cons, bind_eq_ok_iff, pure, Except.pure, Except.ok.injEq]
  constructor
  · rintro ⟨result, done, rest, others, rfl⟩
    exact ⟨result, rest, done, others, rfl⟩
  · rintro ⟨result, rest, done, others, rfl⟩
    exact ⟨result, done, rest, others, rfl⟩

theorem mapM_eq_ok_map {read : α → Except ε β} {result : α → β} {inputs : List α}
    (each : ∀ input ∈ inputs, read input = .ok (result input)) :
    inputs.mapM read = .ok (inputs.map result) := by
  induction inputs with
  | nil => rfl
  | cons input inputs ih =>
    obtain ⟨head, tail⟩ := List.forall_mem_cons.mp each
    exact mapM_cons_eq_ok_iff.mpr ⟨_, _, head, ih tail, rfl⟩

theorem mem_of_mapM_eq_ok {read : α → Except ε β} {inputs : List α} {results : List β}
    (done : inputs.mapM read = .ok results) {result : β} :
    result ∈ results ↔ ∃ input ∈ inputs, read input = .ok result := by
  induction inputs generalizing results with
  | nil =>
    obtain rfl := Except.ok.inj done
    simp
  | cons input inputs ih =>
    obtain ⟨first, rest, head, tail, rfl⟩ := mapM_cons_eq_ok_iff.mp done
    rw [List.mem_cons, ih tail, List.exists_mem_cons_iff, head, Except.ok.injEq, eq_comm]

theorem exists_mapM_eq_ok_iff {read : α → Except ε β} {inputs : List α} :
    (∃ results, inputs.mapM read = .ok results) ↔
      ∀ input ∈ inputs, ∃ result, read input = .ok result := by
  induction inputs with
  | nil => simp [pure, Except.pure]
  | cons input inputs ih =>
    simp only [mapM_cons_eq_ok_iff, List.forall_mem_cons, ← ih]
    constructor
    · rintro ⟨_, result, rest, head, tail, rfl⟩
      exact ⟨⟨result, head⟩, rest, tail⟩
    · rintro ⟨⟨result, head⟩, rest, tail⟩
      exact ⟨_, result, rest, head, tail, rfl⟩

theorem forall₂_of_mapM_eq_ok {read : α → Except ε β} {inputs : List α} {results : List β}
    (done : inputs.mapM read = .ok results) :
    List.Forall₂ (fun input result => read input = .ok result) inputs results := by
  induction inputs generalizing results with
  | nil =>
    obtain rfl := Except.ok.inj done
    exact .nil
  | cons input inputs ih =>
    obtain ⟨first, rest, head, tail, rfl⟩ := mapM_cons_eq_ok_iff.mp done
    exact .cons head (ih tail)

theorem length_flatten_of_mapM {read : α → Except ε (List β)} {inputs : List α}
    {results : List (List β)} {most : Nat}
    (each : ∀ input result, read input = .ok result → result.length ≤ most)
    (done : inputs.mapM read = .ok results) : results.flatten.length ≤ most * inputs.length := by
  induction inputs generalizing results with
  | nil =>
    obtain rfl := Except.ok.inj done
    exact Nat.zero_le _
  | cons input inputs ih =>
    obtain ⟨first, rest, head, tail, rfl⟩ := mapM_cons_eq_ok_iff.mp done
    rw [List.flatten_cons, List.length_append, List.length_cons, Nat.mul_succ, Nat.add_comm]
    exact Nat.add_le_add (ih tail) (each input first head)

theorem exists_mapM_forall {read : α → Except ε β} {P : β → Prop} {inputs : List α}
    (each : ∀ input ∈ inputs, ∃ result, read input = .ok result ∧ P result) :
    ∃ results, inputs.mapM read = .ok results ∧ ∀ result ∈ results, P result := by
  obtain ⟨results, done⟩ := exists_mapM_eq_ok_iff.mpr fun input member =>
    (each input member).imp fun _ found => found.1
  refine ⟨results, done, fun result member => ?_⟩
  obtain ⟨input, among, same⟩ := (mem_of_mapM_eq_ok done).mp member
  obtain ⟨other, also, holds⟩ := each input among
  obtain rfl := Except.ok.inj (same.symm.trans also)
  exact holds

theorem exists_of_mapM_eq_error {read : α → Except ε β} {inputs : List α} {fault : ε}
    (failed : inputs.mapM read = .error fault) : ∃ input ∈ inputs, read input = .error fault := by
  induction inputs with
  | nil => cases failed
  | cons input inputs ih =>
    rw [List.mapM_cons, bind_eq_error_iff] at failed
    rcases failed with head | ⟨result, -, failed⟩
    · exact ⟨input, List.mem_cons_self .., head⟩
    · rcases bind_eq_error_iff.mp failed with tail | ⟨rest, -, impossible⟩
      · obtain ⟨other, member, stopped⟩ := ih tail
        exact ⟨other, List.mem_cons_of_mem _ member, stopped⟩
      · cases impossible

theorem mapM_map_eq_error_iff {γ : Type} {read : α → Except ε β} {change : α → β → γ}
    {inputs : List α} {fault : ε} :
    (inputs.mapM fun input => (read input).map (change input)) = .error fault ↔
      inputs.mapM read = .error fault := by
  induction inputs with
  | nil => exact iff_of_false (fun failed => by cases failed) (fun failed => by cases failed)
  | cons input inputs ih =>
    rw [List.mapM_cons, List.mapM_cons, bind_eq_error_iff, bind_eq_error_iff]
    cases read input with
    | error stop => simp [Except.map]
    | ok result =>
      have changed : (Except.ok result : Except ε β).map (change input) =
          .ok (change input result) := rfl
      simp [changed, bind_eq_error_iff, ih, pure, Except.pure]

theorem toOption_eq_some_iff {result : Except ε α} {value : α} :
    result.toOption = some value ↔ result = .ok value := by
  cases result <;> simp [Except.toOption]

section Filter

variable {keep : α → Except ε Bool} {items kept known : List α}

private theorem mem_of_filterAuxM_eq_ok (done : items.filterAuxM keep known = .ok kept) {item : α} :
    item ∈ kept ↔ item ∈ known ∨ item ∈ items ∧ keep item = .ok true := by
  induction items generalizing known with
  | nil =>
    obtain rfl := Except.ok.inj done
    simp
  | cons head items ih =>
    obtain ⟨truth, asked, rest⟩ := bind_eq_ok_iff.mp done
    rw [ih rest, List.mem_cons]
    cases truth with
    | true =>
      simp only [cond_true, List.mem_cons]
      constructor
      · rintro ((rfl | known) | ⟨member, kept⟩)
        · exact .inr ⟨.inl rfl, asked⟩
        · exact .inl known
        · exact .inr ⟨.inr member, kept⟩
      · rintro (known | ⟨rfl | member, kept⟩)
        · exact .inl (.inr known)
        · exact .inl (.inl rfl)
        · exact .inr ⟨member, kept⟩
    | false =>
      simp only [cond_false]
      constructor
      · rintro (known | ⟨member, kept⟩)
        · exact .inl known
        · exact .inr ⟨.inr member, kept⟩
      · rintro (known | ⟨rfl | member, kept⟩)
        · exact .inl known
        · rw [asked] at kept
          cases kept
        · exact .inr ⟨member, kept⟩

theorem mem_of_filterM_eq_ok (done : items.filterM keep = .ok kept) {item : α} :
    item ∈ kept ↔ item ∈ items ∧ keep item = .ok true := by
  obtain ⟨found, asked, reversed⟩ := bind_eq_ok_iff.mp done
  obtain rfl := Except.ok.inj reversed
  rw [List.mem_reverse, mem_of_filterAuxM_eq_ok asked]
  simp only [List.not_mem_nil, false_or]

private theorem exists_filterAuxM_eq_ok_iff :
    (∃ kept, items.filterAuxM keep known = .ok kept) ↔
      ∀ item ∈ items, ∃ truth, keep item = .ok truth := by
  induction items generalizing known with
  | nil => exact iff_of_true ⟨known, rfl⟩ (List.forall_mem_nil _)
  | cons head items ih =>
    rw [List.forall_mem_cons]
    constructor
    · rintro ⟨kept, done⟩
      obtain ⟨truth, asked, rest⟩ := bind_eq_ok_iff.mp done
      exact ⟨⟨truth, asked⟩, ih.mp ⟨kept, rest⟩⟩
    · rintro ⟨⟨truth, asked⟩, rest⟩
      obtain ⟨kept, done⟩ := (@ih (cond truth (head :: known) known)).mpr rest
      exact ⟨kept, bind_eq_ok_iff.mpr ⟨truth, asked, done⟩⟩

theorem exists_filterM_eq_ok_iff :
    (∃ kept, items.filterM keep = .ok kept) ↔ ∀ item ∈ items, ∃ truth, keep item = .ok truth := by
  rw [← @exists_filterAuxM_eq_ok_iff _ _ keep items []]
  constructor
  · rintro ⟨_, done⟩
    obtain ⟨kept, asked, -⟩ := bind_eq_ok_iff.mp done
    exact ⟨kept, asked⟩
  · rintro ⟨kept, asked⟩
    exact ⟨kept.reverse, bind_eq_ok_iff.mpr ⟨kept, asked, rfl⟩⟩

private theorem filterAuxM_eq_ok_filter {wanted : α → Bool}
    (each : ∀ item ∈ items, keep item = .ok (wanted item)) :
    items.filterAuxM keep known = .ok ((items.filter wanted).reverse ++ known) := by
  induction items generalizing known with
  | nil => rfl
  | cons item items ih =>
    obtain ⟨head, tail⟩ := List.forall_mem_cons.mp each
    rw [List.filterAuxM, head]
    simp only [bind, Except.bind, ih tail, List.filter_cons]
    cases wanted item <;> simp

theorem filterM_eq_ok_filter {wanted : α → Bool}
    (each : ∀ item ∈ items, keep item = .ok (wanted item)) :
    items.filterM keep = .ok (items.filter wanted) := by
  rw [List.filterM, filterAuxM_eq_ok_filter each, List.append_nil]
  exact congrArg Except.ok (List.reverse_reverse _)

end Filter

end LineWidth
