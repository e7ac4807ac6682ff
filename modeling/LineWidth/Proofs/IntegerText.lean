import LineWidth.Text.Integer
import Mathlib.Algebra.Group.Nat.Defs
import Mathlib.Data.List.DropRight

/-! # The texts that are integers

`IntegerText` says which texts write an integer, and which one: a sign that may be missing, and then
digits of any script with single underscores between them, not more than the limit. Reading a
stripped text accepts exactly these (`readInteger_strip_eq_ok_iff`), and the decimal digits of a
number are one of its texts (`integerText_toString`).
-/

namespace LineWidth.Text

/-- Decimal digits with at most one underscore between two of them, and the digits' values. -/
inductive DigitRun : List Char → List Nat → Prop
  | last {c : Char} {digit : Nat} (value : digitValue? c = some digit) : DigitRun [c] [digit]
  | next {c : Char} {digit : Nat} {rest : List Char} {digits : List Nat}
      (value : digitValue? c = some digit) (tail : DigitRun rest digits) :
      DigitRun (c :: rest) (digit :: digits)
  | under {c : Char} {digit : Nat} {rest : List Char} {digits : List Nat}
      (value : digitValue? c = some digit) (tail : DigitRun rest digits) :
      DigitRun (c :: '_' :: rest) (digit :: digits)

/-- The texts that write an integer, without white space around them. -/
inductive IntegerText : List Char → Int → Prop
  | plain {run : List Char} {digits : List Nat} (written : DigitRun run digits)
      (short : digits.length ≤ digitLimit) : IntegerText run (ofDigits digits)
  | plus {run : List Char} {digits : List Nat} (written : DigitRun run digits)
      (short : digits.length ≤ digitLimit) : IntegerText ('+' :: run) (ofDigits digits)
  | minus {run : List Char} {digits : List Nat} (written : DigitRun run digits)
      (short : digits.length ≤ digitLimit) : IntegerText ('-' :: run) (-(ofDigits digits : Int))

private theorem DigitRun.exists_cons {run : List Char} {digits : List Nat}
    (written : DigitRun run digits) :
    ∃ c rest digit others, run = c :: rest ∧ digits = digit :: others ∧
      digitValue? c = some digit := by
  cases written with
  | last value => exact ⟨_, _, _, _, rfl, rfl, value⟩
  | next value tail => exact ⟨_, _, _, _, rfl, rfl, value⟩
  | under value tail => exact ⟨_, _, _, _, rfl, rfl, value⟩

private theorem DigitRun.head?_ne {run : List Char} {digits : List Nat}
    (written : DigitRun run digits)
    {c : Char} (other : digitValue? c = none) : run.head? ≠ some c := by
  obtain ⟨first, rest, digit, others, rfl, -, value⟩ := written.exists_cons
  rintro ⟨⟩
  rw [other] at value
  cases value

/-- Whether a text continues digits: it is empty, or more digits with or without an underscore in
front of them. -/
def Continues (text : List Char) (digits : List Nat) : Prop :=
  text = [] ∧ digits = [] ∨ DigitRun text digits ∨ ∃ rest, text = '_' :: rest ∧ DigitRun rest digits

private theorem digitRun_cons_iff {c : Char} {rest : List Char} {digits : List Nat} :
    DigitRun (c :: rest) digits ↔
      ∃ digit others, digitValue? c = some digit ∧ digits = digit :: others ∧
        Continues rest others := by
  constructor
  · intro written
    cases written with
    | last value => exact ⟨_, _, value, rfl, .inl ⟨rfl, rfl⟩⟩
    | next value tail => exact ⟨_, _, value, rfl, .inr (.inl tail)⟩
    | under value tail => exact ⟨_, _, value, rfl, .inr (.inr ⟨_, rfl, tail⟩)⟩
  · rintro ⟨digit, others, value, rfl, ⟨rfl, rfl⟩ | tail | ⟨after, rfl, tail⟩⟩
    · exact .last value
    · exact .next value tail
    · exact .under value tail

private theorem continues_cons_iff {c : Char} {rest : List Char} {digits : List Nat} :
    Continues (c :: rest) digits ↔
      DigitRun (c :: rest) digits ∨ c = '_' ∧ DigitRun rest digits := by
  simp [Continues]

private theorem takeDigits_digit {c : Char} {digit : Nat} (value : digitValue? c = some digit)
    (after : Bool) (taken : List Nat) (rest : List Char) :
    takeDigits after taken (c :: rest) = takeDigits false (digit :: taken) rest := by
  rw [takeDigits, value]

/-- Taking digits to the end of a text: after an underscore digits have to come, and else the text
has to continue the digits taken. -/
private theorem takeDigits_eq_some_iff {text : List Char} {taken values : List Nat} :
    (takeDigits true taken text = some (values, []) ↔
      ∃ digits, DigitRun text digits ∧ values = taken.reverse ++ digits) ∧
    (takeDigits false taken text = some (values, []) ↔
      ∃ digits, Continues text digits ∧ values = taken.reverse ++ digits) := by
  induction text generalizing taken with
  | nil =>
    constructor
    · refine iff_of_false (by simp [takeDigits]) ?_
      rintro ⟨digits, ⟨⟩, -⟩
    · constructor
      · rintro ⟨⟩
        exact ⟨[], .inl ⟨rfl, rfl⟩, (List.append_nil _).symm⟩
      · rintro ⟨digits, ⟨-, rfl⟩ | ⟨⟨⟩⟩ | ⟨_, ⟨⟩, -⟩, rfl⟩
        rw [List.append_nil]
        rfl
  | cons c rest ih =>
    cases value : digitValue? c with
    | some digit =>
      -- a digit is taken in either state and leaves the state of a digit behind
      have noUnder : c ≠ '_' := by
        rintro rfl
        cases value
      have further : takeDigits false (digit :: taken) rest = some (values, []) ↔
          ∃ digits, DigitRun (c :: rest) digits ∧ values = taken.reverse ++ digits := by
        rw [ih.2]
        simp only [digitRun_cons_iff, value, Option.some.injEq, List.reverse_cons,
          List.append_assoc, List.singleton_append]
        constructor
        · rintro ⟨others, tail, rfl⟩
          exact ⟨_, ⟨digit, others, rfl, rfl, tail⟩, rfl⟩
        · rintro ⟨_, ⟨_, others, rfl, rfl, tail⟩, rfl⟩
          exact ⟨others, tail, rfl⟩
      simp only [takeDigits_digit value, continues_cons_iff, noUnder, false_and, or_false]
      exact ⟨further, further⟩
    | none =>
      have noRun (digits : List Nat) : ¬ DigitRun (c :: rest) digits :=
        fun written => written.head?_ne value rfl
      simp only [continues_cons_iff, noRun, false_and, exists_false, false_or]
      by_cases under : c = '_'
      · subst under
        have step : takeDigits false taken ('_' :: rest) = takeDigits true taken rest := rfl
        rw [step, ih.1]
        simp [takeDigits, value]
      · simp [takeDigits, value, under]

/-- From the start of a text to its end, digits are taken exactly from a digit run. -/
private theorem takeDigits_start_iff {run : List Char} {values : List Nat} :
    takeDigits (run.head? == some '_') [] run = some (values, []) ∧ values ≠ [] ↔
      DigitRun run values := by
  have filled (written : DigitRun run values) : values ≠ [] := by
    obtain ⟨_, _, _, _, -, rfl, -⟩ := written.exists_cons
    exact List.cons_ne_nil _ _
  cases start : run.head? == some '_' with
  | true =>
    rw [takeDigits_eq_some_iff.1, List.reverse_nil]
    simp only [List.nil_append, exists_eq_right']
    exact and_iff_left_of_imp filled
  | false =>
    rw [takeDigits_eq_some_iff.2, List.reverse_nil]
    simp only [List.nil_append, exists_eq_right']
    constructor
    · rintro ⟨⟨-, rfl⟩ | written | ⟨rest, rfl, -⟩, some⟩
      · exact absurd rfl some
      · exact written
      · cases start
    · intro written
      exact ⟨.inr (.inl written), filled written⟩

/-- What is read once white space and sign are off. -/
private theorem readInteger_eq_ok_iff {text run : List Char} {negative : Bool} {number : Int}
    (split : splitSign (stripWhile isIntegerSpace text) = (negative, run)) :
    readInteger text = .ok number ↔
      ∃ digits, DigitRun run digits ∧ digits.length ≤ digitLimit ∧
        number = if negative then -(ofDigits digits : Int) else ofDigits digits := by
  simp only [readInteger, split, ← takeDigits_start_iff]
  cases takeDigits (run.head? == some '_') [] run with
  | none => simp
  | some result =>
    obtain ⟨values, rest⟩ := result
    simp only [Option.some.injEq, Prod.mk.injEq, and_assoc, exists_eq_left']
    by_cases long : digitLimit < values.length
    · rw [if_pos long]
      refine iff_of_false (by simp) ?_
      rintro ⟨-, -, short, -⟩
      omega
    by_cases broken : (values.isEmpty || !rest.isEmpty) = true
    · rw [if_neg long, if_pos broken]
      refine iff_of_false (by simp) ?_
      rintro ⟨rfl, filled, -, -⟩
      exact filled (by simpa using broken)
    · obtain ⟨filled, rfl⟩ : values ≠ [] ∧ rest = [] := by simpa using broken
      rw [if_neg long, if_neg broken, Except.ok.injEq, eq_comm]
      simp [filled, Nat.not_lt.mp long]

private theorem splitSign_eq (text : List Char) :
    (∃ run, text = '-' :: run ∧ splitSign text = (true, run)) ∨
    (∃ run, text = '+' :: run ∧ splitSign text = (false, run)) ∨
    (text.head? ≠ some '-' ∧ text.head? ≠ some '+' ∧ splitSign text = (false, text)) := by
  unfold splitSign
  split
  · exact .inl ⟨_, rfl, rfl⟩
  · exact .inr (.inl ⟨_, rfl, rfl⟩)
  · next minus plus =>
    refine .inr (.inr ⟨?_, ?_, rfl⟩)
    · intro start
      obtain ⟨rest, rfl⟩ := List.head?_eq_some_iff.mp start
      exact minus rest rfl
    · intro start
      obtain ⟨rest, rfl⟩ := List.head?_eq_some_iff.mp start
      exact plus rest rfl

/-- Where nothing is to be stripped, exactly the integer texts are read. -/
private theorem readInteger_eq_ok_iff_integerText {text : List Char} {number : Int}
    (tight : stripWhile isIntegerSpace text = text) :
    readInteger text = .ok number ↔ IntegerText text number := by
  rcases splitSign_eq text with ⟨run, rfl, split⟩ | ⟨run, rfl, split⟩ | ⟨minus, plus, split⟩
  all_goals
    rw [← tight] at split
    rw [readInteger_eq_ok_iff split]
  · constructor
    · rintro ⟨digits, written, short, rfl⟩
      exact .minus written short
    · rintro (⟨written, -⟩ | _ | ⟨written, short⟩)
      · exact absurd rfl (written.head?_ne rfl)
      · exact ⟨_, written, short, rfl⟩
  · constructor
    · rintro ⟨digits, written, short, rfl⟩
      exact .plus written short
    · rintro (⟨written, -⟩ | ⟨written, short⟩ | _)
      · exact absurd rfl (written.head?_ne rfl)
      · exact ⟨_, written, short, rfl⟩
  · rw [tight]
    constructor
    · rintro ⟨digits, written, short, rfl⟩
      exact .plain written short
    · rintro (⟨written, short⟩ | _ | _)
      · exact ⟨_, written, short, rfl⟩
      · exact absurd rfl plus
      · exact absurd rfl minus

section Strip

variable {α : Type} {drop narrow : α → Bool} {before items after : List α}

theorem dropWhile_padded (front : ∀ item ∈ before, drop item = true)
    (start : ∀ item ∈ items.head?, drop item = false) :
    (before ++ items).dropWhile drop = items := by
  rw [List.dropWhile_append_of_pos front]
  cases items with
  | nil => rfl
  | cons item rest =>
    apply List.dropWhile_cons_of_neg
    rw [start item rfl]
    exact Bool.false_ne_true

/-- What is padded is found again, if it has no padding of its own. -/
theorem stripWhile_padded (front : ∀ item ∈ before, drop item = true)
    (kept : ∀ item ∈ items, drop item = false) (back : ∀ item ∈ after, drop item = true) :
    stripWhile drop (before ++ items ++ after) = items := by
  cases items with
  | nil =>
    have gone : (before ++ [] ++ after).dropWhile drop = [] := by
      rw [List.dropWhile_eq_nil_iff, List.append_nil, List.forall_mem_append]
      exact ⟨front, back⟩
    rw [stripWhile, gone]
    rfl
  | cons item rest =>
    have ahead : (before ++ (item :: rest ++ after)).dropWhile drop = item :: rest ++ after := by
      apply dropWhile_padded front
      rintro _ ⟨⟩
      exact kept item (List.mem_cons_self ..)
    rw [stripWhile, List.append_assoc, ahead, List.reverse_append, dropWhile_padded,
      List.reverse_reverse]
    · simpa using back
    · intro last first
      apply kept
      exact List.mem_reverse.mp (List.mem_of_mem_head? first)

/-- Stripping leaves nothing to strip. -/
private theorem stripWhile_stripWhile (wider : ∀ item, narrow item = true → drop item = true) :
    stripWhile narrow (stripWhile drop items) = stripWhile drop items := by
  have front : (stripWhile drop items).dropWhile narrow = stripWhile drop items := by
    apply List.dropWhile_eq_self_iff.mpr
    intro some dropped
    have part : stripWhile drop items <+: items.dropWhile drop := List.rdropWhile_prefix drop _
    have more : 0 < (items.dropWhile drop).length := some.trans_le part.length_le
    apply List.dropWhile_get_zero_not drop items more
    rw [List.get_eq_getElem, ← part.getElem some]
    exact wider _ dropped
  have back : (stripWhile drop items).rdropWhile narrow = stripWhile drop items := by
    apply List.rdropWhile_eq_self_iff.mpr
    intro some dropped
    exact List.rdropWhile_last_not drop (items.dropWhile drop) some (wider _ dropped)
  change ((stripWhile drop items).dropWhile narrow).rdropWhile narrow = _
  rw [front, back]

end Strip

/-- Reading a stripped text accepts exactly the texts that write an integer. -/
theorem readInteger_strip_eq_ok_iff {text : List Char} {number : Int} :
    readInteger (strip text) = .ok number ↔ IntegerText (strip text) number := by
  apply readInteger_eq_ok_iff_integerText
  apply stripWhile_stripWhile
  intro c space
  exact (Bool.and_eq_true_iff.mp space).1

private theorem isSpace_of_isDigit {c : Char} (digit : c.isDigit = true) : isSpace c = false := by
  have bounds : 48 ≤ c.toNat ∧ c.toNat ≤ 57 := by
    simpa [Char.isDigit, UInt32.le_iff_toNat_le] using digit
  rw [← Bool.not_eq_true]
  simp only [isSpace, isSpacePoint, Bool.or_eq_true, Bool.and_eq_true, decide_eq_true_eq,
    beq_iff_eq]
  omega

private theorem digitRun_of_isDigit {text : List Char} (visible : text ≠ [])
    (decimal : ∀ c ∈ text, c.isDigit = true) : DigitRun text (text.map fun c => c.toNat - 48) := by
  induction text with
  | nil => exact absurd rfl visible
  | cons c rest ih =>
    obtain ⟨first, others⟩ := List.forall_mem_cons.mp decimal
    have value : digitValue? c = some (c.toNat - 48) := if_pos first
    by_cases more : rest = []
    · subst more
      exact .last value
    · exact .next value (ih more others)

private theorem ofDigits_map (text : List Char) :
    ofDigits (text.map fun c => c.toNat - 48) = Nat.ofDigitChars 10 text 0 := by
  rw [ofDigits, List.foldl_map, Nat.ofDigitChars]
  simp only [Nat.mul_comm]
  rfl

theorem canWrite_natCast_iff {number : Nat} :
    canWrite (number : Int) = true ↔ number < writeBound := by
  rw [canWrite, decide_eq_true_iff, Int.natAbs_natCast]

private theorem pow_ten_eq (exponent : Nat) : Nat.pow 10 exponent = 10 ^ exponent := rfl

-- The equations of `writeBound` would evaluate the power, so that only its name is replaced here.
private theorem writeBound_eq : writeBound = 10 ^ digitLimit := by
  delta writeBound
  exact pow_ten_eq digitLimit

theorem writeBound_pos : 0 < writeBound := by
  rw [writeBound_eq]
  exact Nat.pow_pos (by decide)

theorem canWrite_neg_writeBound : canWrite (-(writeBound : Int)) = false := by
  rw [canWrite, Int.natAbs_neg, Int.natAbs_natCast]
  exact decide_eq_false (Nat.lt_irrefl writeBound)

theorem canWrite_of_lt_pow {number : Int} {digits : Nat} (few : digits ≤ digitLimit)
    (small : number.natAbs < 10 ^ digits) : canWrite number = true := by
  rw [canWrite, decide_eq_true_iff, writeBound_eq]
  exact small.trans_le (Nat.pow_le_pow_right (by decide) few)

theorem digitValue?_lt {c : Char} {digit : Nat} (value : digitValue? c = some digit) :
    digit < 10 := by
  rw [digitValue?] at value
  split_ifs at value with decimal
  · have bounds : 48 ≤ c.toNat ∧ c.toNat ≤ 57 := by
      simpa [Char.isDigit, UInt32.le_iff_toNat_le] using decimal
    obtain rfl := Option.some.inj value
    omega
  · obtain ⟨start, found, rfl⟩ := Option.map_eq_some_iff.mp value
    have within := List.find?_some found
    simp only [Bool.and_eq_true, decide_eq_true_eq] at within
    omega

private theorem DigitRun.lt_ten {run : List Char} {digits : List Nat}
    (written : DigitRun run digits) :
    ∀ digit ∈ digits, digit < 10 := by
  induction written with
  | last value => exact List.forall_mem_singleton.mpr (digitValue?_lt value)
  | next value tail ih => exact List.forall_mem_cons.mpr ⟨digitValue?_lt value, ih⟩
  | under value tail ih => exact List.forall_mem_cons.mpr ⟨digitValue?_lt value, ih⟩

/-- A number has no more digits than it was read from. -/
private theorem ofDigits_lt {digits : List Nat} (decimal : ∀ digit ∈ digits, digit < 10) :
    ofDigits digits < 10 ^ digits.length := by
  rw [ofDigits]
  -- From the left, each digit makes room for itself behind those before it.
  suffices room : ∀ value width, value < 10 ^ width →
      digits.foldl (fun value digit => value * 10 + digit) value < 10 ^ (width + digits.length) by
    simpa using room 0 0 (by decide)
  induction digits with
  | nil => exact fun _ _ small => small
  | cons digit rest ih =>
    obtain ⟨first, others⟩ := List.forall_mem_cons.mp decimal
    intro value width small
    rw [List.foldl_cons, List.length_cons, ← Nat.add_assoc, Nat.add_right_comm]
    apply ih others
    rw [Nat.pow_succ]
    omega

theorem canWrite_neg {number : Int} : canWrite (-number) = canWrite number := by
  rw [canWrite, canWrite, Int.natAbs_neg]

theorem canWrite_ofDigits {digits : List Nat} (decimal : ∀ digit ∈ digits, digit < 10)
    (short : digits.length ≤ digitLimit) : canWrite (ofDigits digits : Int) = true := by
  apply canWrite_of_lt_pow short
  rw [Int.natAbs_natCast]
  exact ofDigits_lt decimal

/-- A number that was read from a text can be written. -/
theorem canWrite_of_readInteger {text : List Char} {number : Int}
    (done : readInteger text = .ok number) : canWrite number = true := by
  obtain ⟨digits, written, short, rfl⟩ := (readInteger_eq_ok_iff rfl).mp done
  have can := canWrite_ofDigits written.lt_ten short
  split_ifs
  · rw [canWrite_neg]
    exact can
  · exact can

private theorem isDigit_of_mem_toDigits {number : Nat} :
    ∀ c ∈ Nat.toDigits 10 number, c.isDigit = true := fun _ member =>
  Nat.isDigit_of_mem_toDigits (by decide) (by decide) member

theorem isSpace_of_mem_toString {number : Nat} :
    ∀ c ∈ (toString number).toList, isSpace c = false := by
  intro c member
  apply isSpace_of_isDigit
  apply isDigit_of_mem_toDigits c
  rwa [← Nat.toList_repr]

/-- The decimal digits of a number write it, if they are few enough. -/
theorem integerText_toString {number : Nat} (short : canWrite number = true) :
    IntegerText (toString number).toList number := by
  have written : (toString number).toList = Nat.toDigits 10 number := Nat.toList_repr
  have run := digitRun_of_isDigit Nat.toDigits_ne_nil (@isDigit_of_mem_toDigits number)
  have value : ofDigits ((Nat.toDigits 10 number).map fun c => c.toNat - 48) = number := by
    rw [ofDigits_map]
    exact Nat.ofDigitChars_toDigits (by decide) (by decide)
  have few : ((Nat.toDigits 10 number).map fun c => c.toNat - 48).length ≤ digitLimit := by
    rw [List.length_map, Nat.length_toDigits_le_iff (by decide) (by decide), ← writeBound_eq]
    exact canWrite_natCast_iff.mp short
  have text := IntegerText.plain run few
  rwa [value, ← written] at text

end LineWidth.Text
