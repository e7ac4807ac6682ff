import LineWidth.Proofs.MappingOutcome
import LineWidth.Value.Primitive
import Mathlib.Data.List.Forall2

/-! # Writing settings and reading them back

Settings are written under their property names, and a mapping may just as well use the field names
and give the values as texts: a number by its digits, a truth value by its name in letters of either
case, with white space around them. However the values are spelled, the same settings are read back
(`Settings.ofMapping_spelled`).
-/

namespace LineWidth

/-- The spellings of the value of a setting: the value itself, and its text with white space around
it. A number has a text if it has few enough digits, and the letters of a word may be of either
case. -/
inductive Value.SpelledAs : Value → Value → Prop
  | same {value : Value} : SpelledAs value value
  | digits {number : Nat} {before after : List Char} (short : Text.canWrite number = true)
      (front : ∀ c ∈ before, Text.isSpace c = true) (back : ∀ c ∈ after, Text.isSpace c = true) :
      SpelledAs (.int number) (.text (before ++ (toString number).toList ++ after))
  | word {truth : Bool} {word before after : List Char}
      (letters : Text.lower word = Text.lower (Settings.truthText truth).toList)
      (front : ∀ c ∈ before, Text.isSpace c = true) (back : ∀ c ∈ after, Text.isSpace c = true) :
      SpelledAs (.bool truth) (.text (before ++ word ++ after))

/-- An entry that gives a setting a value, under either of its names and in any spelling. -/
def Setting.Writes (setting : Setting) (value : Value) (entry : Value × Value) : Prop :=
  (entry.1 = .ofString setting.property ∨ entry.1 = .ofString setting.field) ∧
    value.SpelledAs entry.2

/-- The other ways to write an entry under a property name: with the field name in place of the
property name, and with another spelling of the value. -/
def Respelled (entry spelled : Value × Value) : Prop :=
  (spelled.1 = entry.1 ∨ ∃ setting : Setting, entry.1 = .ofString setting.property ∧
    spelled.1 = .ofString setting.field) ∧ entry.2.SpelledAs spelled.2

namespace Text

theorem toLower_of_isSpace {c : Char} (space : isSpace c = true) : c.toLower = c := by
  unfold Char.toLower
  split_ifs with upper
  · exfalso
    obtain ⟨least, most⟩ := upper
    rw [ge_iff_le, UInt32.le_iff_toNat_le] at least
    rw [UInt32.le_iff_toNat_le] at most
    have bounds : 65 ≤ c.toNat ∧ c.toNat ≤ 90 := ⟨least, most⟩
    simp only [isSpace, isSpacePoint, Bool.or_eq_true, Bool.and_eq_true, decide_eq_true_eq,
      beq_iff_eq] at space
    omega
  · rfl

/-- A text that differs from a visible one in the case of letters only is visible. -/
private theorem isSpace_of_lower_eq {text other : List Char} (letters : lower text = lower other)
    (visible : ((lower other).all fun c => !isSpace c) = true) : ∀ c ∈ text, isSpace c = false := by
  intro c member
  have among : c.toLower ∈ lower other := letters ▸ List.mem_map_of_mem member
  rw [← Bool.not_eq_true]
  intro space
  rw [toLower_of_isSpace space] at among
  have plain := List.all_eq_true.mp visible c among
  rw [space] at plain
  cases plain

end Text

/-- A value is read from any of its spellings. -/
private theorem Setting.reads_of_spelledAs {settings : Settings} {setting : Setting} {given : Value}
    (spelled : (settings.value setting).SpelledAs given) :
    setting.Reads given (settings.value setting) ∧ Settings.isGiven given = true := by
  have known : (settings.value setting).points? = none ∧
      Settings.isGiven (settings.value setting) = true := by
    cases setting <;> exact ⟨rfl, rfl⟩
  generalize held : settings.value setting = value at spelled known ⊢
  cases spelled with
  | same => exact ⟨.plain known.1, known.2⟩
  | @digits number before after short front back =>
    have kind : setting.isSwitch = false := by
      cases setting <;> first | rfl | cases held
    have written := Text.integerText_toString short
    have found : Text.strip (before ++ (toString number).toList ++ after) =
        (toString number).toList :=
      Text.stripWhile_padded front Text.isSpace_of_mem_toString back
    rw [← found] at written
    exact ⟨.spelled rfl (.number kind written), rfl⟩
  | @word truth word before after letters front back =>
    have kind : setting.isSwitch = true := by
      cases setting <;> first | rfl | cases held
    have visible : ((Text.lower (Settings.truthText truth).toList).all fun c => !Text.isSpace c) =
        true := by
      cases truth <;> rfl
    have found : Text.strip (before ++ word ++ after) = word :=
      Text.stripWhile_padded front (Text.isSpace_of_lower_eq letters visible) back
    have listed : String.ofList (Text.lower (Text.strip (before ++ word ++ after))) ∈
        Setting.switchWords truth := by
      rw [found, letters]
      cases truth <;> decide
    exact ⟨.spelled rfl (.word kind listed), rfl⟩

namespace Setting

variable {setting other : Setting} {value : Value} {entry : Value × Value}

private theorem Writes.isNamedBy
    (writes : setting.Writes value entry) : setting.IsNamedBy entry.1 := by
  rcases writes.1 with named | named
  · exact .inr (by rw [named]; rfl)
  · exact .inl (by rw [named]; rfl)

private theorem IsNamedBy.unique {key : Value} (first : setting.IsNamedBy key)
    (second : other.IsNamedBy key) : setting = other := by
  have same := Settings.named?_normalKey_eq_some_iff.mpr first
  rw [Settings.named?_normalKey_eq_some_iff.mpr second] at same
  exact (Option.some.inj same).symm

private theorem lastNamed?_cons {entries : List (Value × Value)} :
    setting.lastNamed? (entry :: entries) =
      (setting.lastNamed? entries).or
        (if setting.IsNamedBy entry.1 then some entry.2 else none) := by
  simp only [lastNamed?, List.reverse_cons, List.find?_append, Option.map_or]
  by_cases named : setting.IsNamedBy entry.1 <;> simp [named]

private theorem lastNamed?_eq_none {entries : List (Value × Value)}
    (unnamed : ∀ entry ∈ entries, ¬ setting.IsNamedBy entry.1) :
    setting.lastNamed? entries = none := by
  simpa [lastNamed?] using unnamed

private theorem exists_of_writes {values : Setting → Value} {settings : List Setting}
    {entries : List (Value × Value)}
    (writes : List.Forall₂ (fun setting entry => setting.Writes (values setting) entry)
      settings entries)
    (member : entry ∈ entries) : ∃ setting ∈ settings, setting.IsNamedBy entry.1 := by
  induction writes with
  | nil => cases member
  | @cons first _ rest entries head tail ih =>
    rcases List.mem_cons.mp member with rfl | later
    · exact ⟨first, List.mem_cons_self .., head.isNamedBy⟩
    · obtain ⟨setting, among, named⟩ := ih later
      exact ⟨setting, List.mem_cons_of_mem _ among, named⟩

/-- Where every entry writes a setting of its own, the last entry for a setting is the one that
writes it. -/
private theorem lastNamed?_of_writes {values : Setting → Value} {settings : List Setting}
    {entries : List (Value × Value)}
    (writes : List.Forall₂ (fun setting entry => setting.Writes (values setting) entry)
      settings entries)
    (distinct : settings.Nodup) (member : setting ∈ settings) :
    ∃ given, setting.lastNamed? entries = some given ∧ (values setting).SpelledAs given := by
  induction writes with
  | nil => cases member
  | @cons first entry rest entries head tail ih =>
    obtain ⟨fresh, distinct⟩ := List.nodup_cons.mp distinct
    rw [lastNamed?_cons]
    rcases List.mem_cons.mp member with rfl | later
    · have none : setting.lastNamed? entries = none := by
        apply lastNamed?_eq_none
        intro entry among named
        obtain ⟨other, inRest, also⟩ := exists_of_writes tail among
        rw [named.unique also] at fresh
        exact fresh inRest
      rw [none, if_pos head.isNamedBy]
      exact ⟨_, rfl, head.2⟩
    · obtain ⟨given, found, spelled⟩ := ih distinct later
      rw [found]
      exact ⟨given, rfl, spelled⟩

end Setting

namespace Settings

variable {settings : Settings}

/-- The entries that settings are written as. -/
def entries (settings : Settings) : List (Value × Value) :=
  Setting.all.map fun setting => (.ofString setting.property, settings.value setting)

private theorem toValue_eq : settings.toValue = .dict settings.entries := rfl

/-- Entries that write all settings are read as these settings. -/
private theorem ofMapping_of_writes {entries : List (Value × Value)} (valid : settings.Valid)
    (writes : List.Forall₂ (fun setting entry => setting.Writes (settings.value setting) entry)
      Setting.all entries) : ofMapping entries = .ok settings := by
  refine ofMapping_eq_ok_iff.mpr ⟨fun entry member => ?_, fun setting => ?_⟩
  · obtain ⟨setting, -, named⟩ := Setting.exists_of_writes writes member
    exact ⟨setting, named⟩
  · have among : setting ∈ Setting.all := by cases setting <;> decide
    obtain ⟨given, last, spelled⟩ := Setting.lastNamed?_of_writes writes (by decide) among
    obtain ⟨reads, present⟩ := Setting.reads_of_spelledAs spelled
    rw [last, Setting.settles_some present]
    exact ⟨_, coerce_eq_ok_iff.mpr reads, (holds_value_iff valid).mpr rfl⟩

/-- Valid settings are read back from what they are written as, and also when any of the names are
replaced by field names and any of the values are spelled as texts. -/
theorem ofMapping_spelled (valid : settings.Valid) :
    ∃ entries, settings.toValue = .dict entries ∧ ofMapping entries = .ok settings ∧
      ∀ spelled, List.Forall₂ Respelled entries spelled → ofMapping spelled = .ok settings := by
  have own : List.Forall₂ Respelled settings.entries settings.entries :=
    List.forall₂_same.mpr fun entry _ => ⟨.inl rfl, .same⟩
  have read (spelled : List (Value × Value))
      (respelled : List.Forall₂ Respelled settings.entries spelled) :
      ofMapping spelled = .ok settings := by
    apply ofMapping_of_writes valid
    refine (List.forall₂_map_left_iff.mp respelled).imp ?_
    rintro setting entry ⟨same | ⟨other, property, field⟩, spelled⟩
    · exact ⟨.inl same, spelled⟩
    · have named : other.IsNamedBy (.ofString setting.property) :=
        .inr (congrArg Value.chars? property)
      obtain rfl := named.unique (.inr rfl)
      exact ⟨.inr field, spelled⟩
  exact ⟨settings.entries, toValue_eq, read _ own, read⟩

/-- One half of the settings is spelled in another way, the other half not. -/
theorem ofMapping_spelled_padded :
    Valid { lineLimit := 100, ignoreComments := true, tabWidth := 4 } ∧
      ofMapping
        [(.ofString "line_limit", .ofString " 100\t"), (.ofString "absoluteLineLimit", .int 80),
          (.ofString "ignoreComments", .ofString "tRUE\n"),
          (.ofString "ignore_use_statements_lines", .bool true),
          (.ofString "tabWidth", .ofString "4")] =
        .ok { lineLimit := 100, ignoreComments := true, tabWidth := 4 } := by
  have valid : Valid { lineLimit := 100, ignoreComments := true, tabWidth := 4 } := by decide
  have short (number : Nat) (few : number < 10 ^ 3) : Text.canWrite number = true :=
    Text.canWrite_of_lt_pow (by decide) few
  obtain ⟨entries, written, -, read⟩ := ofMapping_spelled valid
  obtain rfl := Value.dict.inj written
  refine ⟨valid, read _ (.cons ⟨.inr ⟨.lineLimit, rfl, rfl⟩, ?_⟩ (.cons ⟨.inl rfl, .same⟩
    (.cons ⟨.inl rfl, ?_⟩ (.cons ⟨.inr ⟨.ignoreUseLines, rfl, rfl⟩, .same⟩
      (.cons ⟨.inl rfl, ?_⟩ .nil)))))⟩
  · exact @Value.SpelledAs.digits 100 [' '] ['\t'] (short 100 (by decide))
      (List.all_eq_true.mp rfl) (List.all_eq_true.mp rfl)
  · exact @Value.SpelledAs.word true "tRUE".toList [] ['\n'] rfl (List.forall_mem_nil _)
      (List.all_eq_true.mp rfl)
  · exact @Value.SpelledAs.digits 4 [] [] (short 4 (by decide)) (List.forall_mem_nil _)
      (List.forall_mem_nil _)

end Settings

end LineWidth
