import LineWidth.Proofs.TokenLayout
import LineWidth.Report.Rule

/-! # Finding the lines of a stream

Lines are found again from the columns of tokens alone. In a stream that is laid out line by line
this gives one pointer for each line, just after its last token: the first token of a line is in
column 1 and no other token is.
-/

namespace LineWidth

/-- The index after each group, for groups that stand one after the other from `start` on. -/
def groupEnds (start : Nat) : List (List Token) → List Nat
  | [] => []
  | group :: rest => (start + group.length) :: groupEnds (start + group.length) rest

/-- A group of tokens of which exactly the first is in column 1. -/
def Opens (group : List Token) : Prop :=
  ∃ first more, group = first :: more ∧ first.column = 1 ∧ ∀ token ∈ more, token.column ≠ 1

private theorem Opens.ne_nil {group : List Token} (opens : Opens group) : group ≠ [] := by
  obtain ⟨first, more, rfl, _⟩ := opens
  exact List.cons_ne_nil _ _

/-- The tokens of a whole line open with the only one in column 1. -/
private theorem Laid.opens {tabWidth number : Nat} {ending : Option LineEnd} {body : List Char}
    {tokens : List Token} (laid : Laid tabWidth number ending 1 body tokens)
    (free : BreakFree body) : Opens tokens := by
  cases tokens with
  | nil => exact absurd rfl laid.ne_nil
  | cons first more =>
    refine ⟨first, more, rfl, ?_, ?_⟩
    · have start : Laid tabWidth number ending 1 body ([] ++ first :: more) := laid
      exact (start.column_eq_one_iff free).mpr rfl
    · intro token member one
      obtain ⟨prior, next, rfl⟩ := List.append_of_mem member
      have inner : Laid tabWidth number ending 1 body ((first :: prior) ++ token :: next) := laid
      exact absurd ((inner.column_eq_one_iff free).mp one) (List.cons_ne_nil _ _)

/-- The groups of a cut source are lines of their own. -/
theorem Paged.opens {tabWidth number : Nat} {lines : List Line} {groups : List (List Token)}
    (paged : Paged tabWidth number lines groups) (free : ∀ line ∈ lines, BreakFree line.body) :
    ∀ group ∈ groups, Opens group := by
  induction paged with
  | nil => simp
  | cons laid tail ih =>
    intro group member
    rcases List.mem_cons.mp member with rfl | member
    · exact laid.opens (free _ (List.mem_cons_self ..))
    · exact ih (fun line member => free line (List.mem_cons_of_mem _ member)) group member

namespace TokenStream

/-- Whether a token other than the first one of the stream starts a line. -/
def startsLine (stream : TokenStream) (index : Nat) : Bool :=
  0 < index && stream.tokens[index]?.any (·.column == 1)

theorem getElem?_of_split {stream : TokenStream} {before after : List Token} {token : Token}
    (split : stream.tokens.toList = before ++ token :: after) :
    stream.tokens[before.length]? = some token := by
  rw [← Array.getElem?_toList, split]
  simp

/-- Inside one line only the first token starts a line. -/
private theorem filter_startsLine_group {stream : TokenStream} {before group after : List Token}
    (split : stream.tokens.toList = before ++ group ++ after) (opens : Opens group) :
    (List.range' before.length group.length).filter stream.startsLine =
      if 0 < before.length then [before.length] else [] := by
  obtain ⟨first, more, rfl, atStart, others⟩ := opens
  have inner : (List.range' (before.length + 1) more.length).filter stream.startsLine = [] := by
    rw [List.filter_eq_nil_iff]
    intro index member
    obtain ⟨low, high⟩ := List.mem_range'_1.mp member
    have small : index - (before.length + 1) < more.length := by omega
    have place : stream.tokens[index]? = some more[index - (before.length + 1)] := by
      rw [← Array.getElem?_toList, split, List.append_assoc, List.getElem?_append_right (by omega),
        show index - before.length = index - (before.length + 1) + 1 by omega, List.cons_append,
        List.getElem?_cons_succ, List.getElem?_append_left small, List.getElem?_eq_getElem small]
    simp [startsLine, place, others _ (List.getElem_mem small)]
  have opening : stream.tokens[before.length]? = some first :=
    getElem?_of_split (split.trans (List.append_assoc ..))
  rw [List.length_cons, List.range'_succ, List.filter_cons, inner]
  simp [startsLine, opening, atStart]

/-- Behind the start of the stream, the starts of lines and the end of the stream are the starts of
the groups and the end of the last one. -/
private theorem filter_startsLine_groups {stream : TokenStream} {groups : List (List Token)}
    (opens : ∀ group ∈ groups, Opens group) {before : List Token} (inside : 0 < before.length)
    (split : stream.tokens.toList = before ++ groups.flatten) :
    (List.range' before.length groups.flatten.length).filter stream.startsLine ++
        [before.length + groups.flatten.length] =
      before.length :: groupEnds before.length groups := by
  induction groups generalizing before with
  | nil => simp [groupEnds]
  | cons group rest ih =>
    have whole : stream.tokens.toList = before ++ group ++ rest.flatten := by simpa using split
    have own := filter_startsLine_group whole (opens group (List.mem_cons_self ..))
    have tail := @ih (fun other member => opens other (List.mem_cons_of_mem _ member))
      (before ++ group) (by simp; omega) whole
    rw [List.length_append] at tail
    rw [List.flatten_cons, List.length_append, ← List.range'_append_1, List.filter_append, own,
      if_pos inside, List.append_assoc, ← Nat.add_assoc, tail]
    rfl

/-- The pointers of a stream that is laid out in lines are the ends of these lines. -/
theorem lineStarts_eq {stream : TokenStream} {groups : List (List Token)}
    (flat : stream.tokens.toList = groups.flatten) (opens : ∀ group ∈ groups, Opens group) :
    stream.lineStarts = groupEnds 0 groups := by
  have size : stream.size = groups.flatten.length := by
    rw [← flat, TokenStream.size, Array.length_toList]
  unfold lineStarts
  cases groups with
  | nil => simp [size, groupEnds]
  | cons group rest =>
    have first := opens group (List.mem_cons_self ..)
    have nonempty := List.length_pos_of_ne_nil first.ne_nil
    have whole : stream.tokens.toList = [] ++ group ++ rest.flatten := by simpa using flat
    have own := filter_startsLine_group whole first
    have tail := filter_startsLine_groups
      (fun other member => opens other (List.mem_cons_of_mem _ member)) nonempty whole
    rw [List.flatten_cons, List.length_append] at size
    rw [if_neg (by omega), size, List.range_eq_range', ← List.range'_append_1]
    change List.filter stream.startsLine _ ++ _ = _
    rw [List.length_nil, if_neg (by omega)] at own
    rw [List.filter_append, own, List.nil_append, Nat.zero_add, tail, groupEnds, Nat.zero_add]

end TokenStream

/-- The pointer of a group is the number of tokens up to its end. -/
theorem groupEnds_append (start : Nat) (first : List (List Token)) (group : List Token)
    (second : List (List Token)) :
    (groupEnds start (first ++ group :: second))[first.length]? =
      some (start + first.flatten.length + group.length) := by
  induction first generalizing start with
  | nil => simp [groupEnds]
  | cons other rest ih =>
    simp only [List.cons_append, groupEnds, List.length_cons, List.getElem?_cons_succ, ih,
      List.flatten_cons, List.length_append, Nat.add_assoc]

@[simp] theorem length_groupEnds (start : Nat) (groups : List (List Token)) :
    (groupEnds start groups).length = groups.length := by
  induction groups generalizing start with
  | nil => rfl
  | cons group rest ih => rw [groupEnds, List.length_cons, ih, List.length_cons]

/-- The pointers of groups that are not empty increase strictly. -/
private theorem groupEnds_pairwise {groups : List (List Token)}
    (filled : ∀ group ∈ groups, group ≠ [])
    (start : Nat) : (start :: groupEnds start groups).Pairwise (· < ·) := by
  induction groups generalizing start with
  | nil => exact List.pairwise_singleton _ _
  | cons group rest ih =>
    have tail := ih (fun other member => filled other (List.mem_cons_of_mem _ member))
      (start + group.length)
    have later := List.length_pos_of_ne_nil (filled group (List.mem_cons_self ..))
    refine List.pairwise_cons.mpr ⟨?_, tail⟩
    intro pointer member
    rcases List.mem_cons.mp member with rfl | member
    · omega
    · have beyond := (List.pairwise_cons.mp tail).1 pointer member
      omega

namespace TokenStream

/-- Lines are found exactly. The pointers of the stream of a source increase strictly, there is one
for each physical line, that is for each line end and for text after the last one, and the pointer
of a line is one past the last token of that line. -/
theorem ofSource_lineStarts (source : List Char) (tabWidth : Nat) :
    (ofSource source tabWidth).lineStarts.Pairwise (· < ·) ∧
      (ofSource source tabWidth).lineStarts.length =
        lineEndCount source + (if endsOpen source then 1 else 0) ∧
      (∃ lines, Line.Cut source lines ∧
        (ofSource source tabWidth).lineStarts.length = lines.length) ∧
      (∀ (index pointer : Nat), (ofSource source tabWidth).lineStarts[index]? = some pointer →
        ∃ before last after, (ofSource source tabWidth).tokens.toList = before ++ last :: after ∧
          pointer = before.length + 1 ∧ last.line = index + 1 ∧
          ∀ later ∈ after, index + 1 < later.line) ∧
      ((ofSource source tabWidth).lineStarts = [] ↔ source = []) := by
  generalize formed : ofSource source tabWidth = stream
  obtain ⟨lines, groups, cut, flat, paged⟩ := ofSource_paged source tabWidth
  rw [formed] at flat
  have opens := paged.opens fun line member => (cut.of_mem member).1
  have pointers : stream.lineStarts = groupEnds 0 groups := lineStarts_eq flat opens
  have count : stream.lineStarts.length = lines.length := by
    rw [pointers, length_groupEnds, paged.length_eq]
  refine ⟨?_, count.trans cut.length_eq, ⟨lines, cut, count⟩, ?_, ?_⟩
  · rw [pointers]
    exact (List.pairwise_cons.mp (groupEnds_pairwise (fun group member =>
      (opens group member).ne_nil) 0)).2
  · intro index pointer pointed
    have small : index < lines.length := count ▸ (List.getElem?_eq_some_iff.mp pointed).1
    obtain ⟨first, group, second, rfl, rfl, laid, _, upper⟩ :=
      paged.split (List.getElem?_eq_getElem small)
    obtain ⟨prior, last, rfl⟩ := laid.exists_last
    rw [pointers, groupEnds_append] at pointed
    obtain rfl := Option.some.inj pointed
    refine ⟨first.flatten ++ prior, last, second.flatten, ?_, ?_, ?_, ?_⟩
    · simpa using flat
    · simp only [List.length_append, List.length_singleton]
      omega
    · rw [laid.line_eq (by simp), Nat.add_comm]
    · intro later member
      rw [Nat.add_comm]
      exact upper later member
  · rw [← List.length_eq_zero_iff, count, List.length_eq_zero_iff, cut.eq_nil_iff]

end TokenStream

end LineWidth
