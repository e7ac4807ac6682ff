import LineWidth.Proofs.IntegerText
import LineWidth.Proofs.SettingsMapping
import Mathlib.Data.List.Lex

/-! # What becomes of a mapping of settings

What a mapping gives a setting is what the last entry under one of its two names gives it, unless
that is nothing. A mapping whose keys are names makes settings exactly when all the keys are known
and everything it gives is acceptable, and else it is refused for the first of three reasons: a key
that is not known, a text that cannot be read, a value of the wrong type or range
(`Settings.ofMapping_outcome`).
-/

namespace LineWidth

private theorem Value.chars?_eq_none {given : Value} (other : given.points? = none) :
    given.chars? = none ∧ ∀ points, given ≠ .unpaired points := by
  cases given with
  | unpaired => cases other
  | text => cases other
  | member m => exact ⟨Option.map_eq_none_iff.mp other, fun _ same => by cases same⟩
  | _ => exact ⟨rfl, fun _ same => by cases same⟩

namespace Setting

/-- The words that stand for a truth value. -/
def switchWords : Bool → List String
  | true => ["true", "1", "yes", "on"]
  | false => ["false", "0", "no", "off"]

/-- What a text says when it is given for a setting, white space around it and, for a switch, the
case of its letters apart. -/
inductive Spells (setting : Setting) (text : List Char) : Value → Prop
  | word {truth : Bool} (kind : setting.isSwitch = true)
      (listed : String.ofList (Text.lower (Text.strip text)) ∈ switchWords truth) :
      Spells setting text (.bool truth)
  | number {number : Int} (kind : setting.isSwitch = false)
      (written : Text.IntegerText (Text.strip text) number) : Spells setting text (.int number)

/-- What a value is read as when it is given for a setting: a text as what it says, and any other
value as itself. -/
inductive Reads (setting : Setting) (given : Value) : Value → Prop
  | spelled {text : List Char} {read : Value} (counts : given.chars? = some text)
      (spells : setting.Spells text read) : Reads setting given read
  | plain (other : given.points? = none) : Reads setting given given

/-- Whether a value is acceptable for a setting, and what is held then. -/
def Means (setting : Setting) (given held : Value) : Prop :=
  ∃ read, setting.Reads given read ∧ setting.Holds read held

/-- What a mapping gives a setting in the end, nothing being none. -/
def effective? (setting : Setting) (entries : List (Value × Value)) : Option Value :=
  (setting.lastNamed? entries).filter Settings.isGiven

end Setting

namespace SettingsFault

/-- Why a mapping is refused. A key that names no setting comes first, and every such key is told
of, in order. Then come texts that cannot be read, and only where there are none of these, values of
the wrong type or range. -/
inductive Explains (entries : List (Value × Value)) : SettingsFault → Prop
  | names {names : List (List Nat)}
      (unknown : ∃ entry ∈ entries, ∀ setting : Setting, ¬ setting.IsNamedBy entry.1)
      (sorted : names.Pairwise (· < ·))
      (told : ∀ name, name ∈ names ↔ ∃ entry ∈ entries,
        (∀ setting : Setting, ¬ setting.IsNamedBy entry.1) ∧ entry.1.points? = some name) :
      Explains entries (.unknownNames names)
  | reading {fault : SettingsFault} {setting : Setting} {given : Value}
      (known : ∀ entry ∈ entries, ∃ setting : Setting, setting.IsNamedBy entry.1)
      (effective : setting.effective? entries = some given)
      (unreadable : ∀ read, ¬ setting.Reads given read) (told : fault.CannotRead setting given) :
      Explains entries fault
  | checking {fault : SettingsFault} {setting : Setting} {given read : Value}
      (known : ∀ entry ∈ entries, ∃ setting : Setting, setting.IsNamedBy entry.1)
      (readable : ∀ (setting : Setting) (given : Value), setting.effective? entries = some given →
        ∃ read, setting.Reads given read)
      (effective : setting.effective? entries = some given) (reads : setting.Reads given read)
      (told : fault.Refuses setting read) : Explains entries fault

end SettingsFault

namespace Settings

private theorem readSwitch?_eq_some_iff {text : List Char} {truth : Bool} :
    readSwitch? text = some truth ↔
      String.ofList (Text.lower (Text.strip text)) ∈ Setting.switchWords truth := by
  have apart : ∀ word ∈ Setting.switchWords false, word ∉ Setting.switchWords true := by decide
  have onWords : ["true", "1", "yes", "on"] = Setting.switchWords true := rfl
  have offWords : ["false", "0", "no", "off"] = Setting.switchWords false := rfl
  simp only [readSwitch?, onWords, offWords, List.contains_iff_mem]
  generalize String.ofList (Text.lower (Text.strip text)) = word
  split_ifs with on off
  · cases truth with
    | true => simp [on]
    | false => simpa using fun listed => apart word listed on
  · cases truth with
    | true => simpa using on
    | false => simp [off]
  · cases truth with
    | true => simpa using on
    | false => simpa using off

/-- Reading a value gives what it is read as, if it is read as anything. -/
theorem coerce_eq_ok_iff {setting : Setting} {given read : Value} :
    coerce setting given = .ok read ↔ setting.Reads given read := by
  constructor
  · intro done
    unfold coerce at done
    split at done
    · next text counts =>
      split_ifs at done with kind
      · split at done
        · next truth found =>
          cases done
          exact .spelled counts (.word kind (readSwitch?_eq_some_iff.mp found))
        · cases done
      · split at done
        · next number found =>
          cases done
          refine .spelled counts (.number (Bool.eq_false_iff.mpr kind) ?_)
          exact Text.readInteger_strip_eq_ok_iff.mp found
        · cases done
    · split_ifs at done
    · next paired none =>
      cases done
      apply Setting.Reads.plain
      rw [Value.points?_eq_chars paired, none]
      rfl
  · rintro (⟨counts, ⟨kind, listed⟩ | ⟨kind, written⟩⟩ | other)
    · have found := readSwitch?_eq_some_iff.mpr listed
      simp only [coerce, counts, kind, if_true, found]
    · have found := Text.readInteger_strip_eq_ok_iff.mpr written
      simp only [coerce, counts, kind, Bool.false_eq_true, if_false, found]
    · obtain ⟨none, paired⟩ := Value.chars?_eq_none other
      unfold coerce
      split
      · next text counts =>
        rw [none] at counts
        cases counts
      · next points _ => exact absurd rfl (paired points)
      · rfl

private theorem pairwise_insertName {name : List Nat} {names : List (List Nat)}
    (sorted : names.Pairwise (· < ·)) : (insertName name names).Pairwise (· < ·) := by
  induction names with
  | nil => exact List.pairwise_singleton _ _
  | cons known names ih =>
    obtain ⟨least, rest⟩ := List.pairwise_cons.mp sorted
    rw [insertName]
    split_ifs with less same
    · refine List.pairwise_cons.mpr ⟨fun other member => ?_, sorted⟩
      rcases List.mem_cons.mp member with rfl | member
      · exact less
      · exact less.trans (least other member)
    · exact sorted
    · refine List.pairwise_cons.mpr ⟨fun other member => ?_, ih rest⟩
      rcases mem_insertName.mp member with rfl | member
      · have different : known ≠ other := fun equal => same (beq_iff_eq.mpr equal.symm)
        exact lt_of_le_of_ne (not_lt.mp less) different
      · exact least other member

private theorem pairwise_foldl_insertName {names known : List (List Nat)}
    (sorted : known.Pairwise (· < ·)) :
    (names.foldl (fun names name => insertName name names) known).Pairwise (· < ·) := by
  induction names generalizing known with
  | nil => exact sorted
  | cons first names ih => exact ih (pairwise_insertName sorted)

/-- The unknown names are told in order, and each once. -/
private theorem pairwise_unknownNames {entries : List (Value × Value)} :
    (unknownNames entries).Pairwise (· < ·) :=
  pairwise_foldl_insertName .nil

section Mapping

variable {entries : List (Value × Value)} {fault : SettingsFault}

private theorem named?_normalKey_eq_none_iff {key : Value} :
    named? (normalKey key) = none ↔ ∀ setting : Setting, ¬ setting.IsNamedBy key := by
  simp only [Option.eq_none_iff_forall_ne_some, ne_eq, named?_normalKey_eq_some_iff]

/-- Only property names are replaced, so that unknown names are told as they were given. -/
private theorem normalKey_of_unknown {key : Value}
    (unknown : ∀ setting : Setting, ¬ setting.IsNamedBy key) : normalKey key = key := by
  rcases normalKey_cases key with ⟨same, -⟩ | ⟨setting, named, -⟩
  · exact same
  · exact absurd (.inr named) (unknown setting)

private theorem gives_normalize_iff {setting : Setting} {given : Value} :
    Gives (changesOf (normalize entries)) setting given ↔
      setting.effective? entries = some given := by
  rw [gives_iff changesOf_normalize.1, changesOf_normalize.2, Setting.effective?]

private theorem ofMapping_of_known
    (known : ∀ entry ∈ entries, ∃ setting : Setting, setting.IsNamedBy entry.1) :
    ofMapping entries = ({} : Settings).change (changesOf (normalize entries)) := by
  apply override_of_named
  rw [forall_normalize_iff (P := fun key => (named? key).isSome = true)
    fun equal => by rw [named?_eq_of_keyEquals equal]]
  simpa only [Option.isSome_iff_exists, named?_normalKey_eq_some_iff] using known

private theorem mem_unknownNames_normalize {name : List Nat} :
    name ∈ unknownNames (normalize entries) ↔ ∃ entry ∈ entries,
      (∀ setting : Setting, ¬ setting.IsNamedBy entry.1) ∧ entry.1.points? = some name := by
  have absent :=
    @forall_normalize_iff (fun key => named? key = none → key.points? ≠ some name) entries
      fun equal => by rw [named?_eq_of_keyEquals equal, Value.points?_eq_of_keyEquals equal]
  rw [mem_unknownNames, ← not_iff_not]
  simp only [not_exists, not_and]
  -- normalizing leaves an unknown key alone, so its code points are those it was given with
  refine absent.trans (forall₂_congr fun entry _ => ?_)
  rw [named?_normalKey_eq_none_iff]
  refine forall_congr' fun unknown => ?_
  rw [normalKey_of_unknown unknown]

private theorem explains_of_unknown (names : ∀ entry ∈ entries, isName entry.1 = true)
    (unknown : ∃ entry ∈ entries, ∀ setting : Setting, ¬ setting.IsNamedBy entry.1)
    (failed : ofMapping entries = .error fault) : fault.Explains entries := by
  have usable : ((normalize entries).all fun entry => isName entry.1) = true := by
    rw [List.all_eq_true, forall_normalize_iff (P := fun key => isName key = true)
      fun equal => by rw [isName, isName, Value.points?_eq_of_keyEquals equal]]
    simpa only [isName_normalKey] using names
  obtain ⟨entry, member, strange⟩ := unknown
  obtain ⟨points, found, -⟩ := isName_iff.mp (names entry member)
  have told : points ∈ unknownNames (normalize entries) :=
    mem_unknownNames_normalize.mpr ⟨entry, member, strange, found⟩
  rw [ofMapping, override, if_pos usable] at failed
  split at failed
  · next none =>
    rw [none] at told
    cases told
  · cases failed
    exact .names ⟨entry, member, strange⟩ pairwise_unknownNames fun _ => mem_unknownNames_normalize

private theorem explains_of_known
    (known : ∀ entry ∈ entries, ∃ setting : Setting, setting.IsNamedBy entry.1)
    (failed : ofMapping entries = .error fault) : fault.Explains entries := by
  rw [ofMapping_of_known known] at failed
  rcases bind_eq_error_iff.mp failed with unread | ⟨read, done, refused⟩
  · -- reading stopped at one of the values that are given
    obtain ⟨⟨setting, given⟩, member, stopped⟩ := exists_of_mapM_eq_error unread
    have gives : Gives (changesOf (normalize entries)) setting given := List.mem_filter.mp member
    rcases bind_eq_error_iff.mp stopped with uncoerced | ⟨_, -, impossible⟩
    · refine .reading known (gives_normalize_iff.mp gives) ?_ (cannotRead_of_coerce uncoerced)
      intro read reads
      rw [coerce_eq_ok_iff.mpr reads] at uncoerced
      cases uncoerced
    · cases impossible
  · -- all is read, and one of the values is refused; it is not a usual one
    obtain ⟨setting, refuses⟩ := refuses_of_ofValues refused
    cases last : lastGiven? setting read with
    | none =>
      rw [last, Option.getD_none] at refuses
      have holds := (@holds_value_iff {} (by decide) setting _).mpr rfl
      exact absurd holds refuses.not_holds
    | some value =>
      rw [last, Option.getD_some] at refuses
      obtain ⟨given, gives, coerced⟩ := (mem_readChanges_iff done).mp (mem_of_lastGiven? last)
      refine .checking known ?_ (gives_normalize_iff.mp gives) (coerce_eq_ok_iff.mp coerced) refuses
      intro setting given effective
      obtain ⟨read, coerced⟩ := exists_readChanges_iff.mp ⟨read, done⟩ setting given
        (gives_normalize_iff.mpr effective)
      exact ⟨read, coerce_eq_ok_iff.mp coerced⟩

private theorem accepts_iff_means {setting : Setting} {given held : Value} :
    setting.Accepts given held ↔ setting.Means given held := by
  simp only [Setting.Accepts, Setting.Means, coerce_eq_ok_iff]

private theorem settles_lastNamed_iff {setting : Setting} {before held : Value} :
    setting.Settles (setting.lastNamed? entries) before held ↔
      (setting.effective? entries = none → held = before) ∧
        ∀ given, setting.effective? entries = some given → setting.Means given held := by
  simp only [Setting.Settles, ← accepts_iff_means, Setting.effective?]
  cases (setting.lastNamed? entries).filter isGiven <;> simp

/-- What is refused is not valid. -/
private theorem not_acceptable_of_explains (explains : fault.Explains entries)
    (known : ∀ entry ∈ entries, ∃ setting : Setting, setting.IsNamedBy entry.1) :
    ∃ (setting : Setting) (given : Value), setting.effective? entries = some given ∧
      ∀ held, ¬ setting.Means given held := by
  cases explains with
  | names unknown sorted told =>
    obtain ⟨entry, member, strange⟩ := unknown
    obtain ⟨setting, named⟩ := known entry member
    exact absurd named (strange setting)
  | reading known effective unreadable told =>
    refine ⟨_, _, effective, ?_⟩
    rintro held ⟨read, reads, -⟩
    exact unreadable read reads
  | checking known readable effective reads told =>
    refine ⟨_, _, effective, ?_⟩
    rintro held ⟨other, also, holds⟩
    have same := (coerce_eq_ok_iff.mpr reads).symm.trans (coerce_eq_ok_iff.mpr also)
    obtain rfl := Except.ok.inj same
    exact told.not_holds holds

/-- What becomes of a mapping whose keys are names. It makes settings exactly when every key names a
setting and every value given is acceptable; a setting is then what its value means, and the usual
one if it is given none. Everything else is told as a configuration failure, which names unknown
keys before texts that cannot be read, and these before values of the wrong type or range. -/
theorem ofMapping_outcome (names : ∀ entry ∈ entries, isName entry.1 = true) :
    ((∃ settings, ofMapping entries = .ok settings) ↔
      (∀ entry ∈ entries, ∃ setting : Setting, setting.IsNamedBy entry.1) ∧
        ∀ (setting : Setting) (given : Value), setting.effective? entries = some given →
          ∃ held, setting.Means given held) ∧
    (∀ settings, ofMapping entries = .ok settings → ∀ setting : Setting,
      (setting.effective? entries = none →
        settings.value setting = ({} : Settings).value setting) ∧
      ∀ given, setting.effective? entries = some given →
        setting.Means given (settings.value setting)) ∧
    ∀ fault, ofMapping entries = .error fault → fault.Explains entries ∧
      ∃ failure, fault.stop = .failure failure ∧ failure.category = .configuration := by
  have explained (fault : SettingsFault) (failed : ofMapping entries = .error fault) :
      fault.Explains entries := by
    by_cases known : ∀ entry ∈ entries, ∃ setting : Setting, setting.IsNamedBy entry.1
    · exact explains_of_known known failed
    · apply explains_of_unknown names _ failed
      simpa using known
  have holds (settings : Settings) (done : ofMapping entries = .ok settings) (setting : Setting) :=
    settles_lastNamed_iff.mp ((ofMapping_eq_ok_iff.mp done).2 setting)
  refine ⟨⟨?_, ?_⟩, holds, fun fault failed => ⟨explained fault failed, ?_⟩⟩
  · rintro ⟨settings, done⟩
    refine ⟨(ofMapping_eq_ok_iff.mp done).1, fun setting given effective => ?_⟩
    exact ⟨_, (holds settings done setting).2 given effective⟩
  · rintro ⟨known, acceptable⟩
    cases outcome : ofMapping entries with
    | ok settings => exact ⟨settings, rfl⟩
    | error fault =>
      obtain ⟨setting, given, effective, refused⟩ :=
        not_acceptable_of_explains (explained fault outcome) known
      obtain ⟨held, means⟩ := acceptable setting given effective
      exact absurd means (refused held)
  · cases told : fault.stop with
    | failure failure => exact ⟨failure, rfl, fault.category_of_stop told⟩
    | breakdown breakdown =>
      obtain ⟨rfl, -⟩ := SettingsFault.stop_eq_breakdown_iff.mp told
      cases explained _ failed with
      | reading _ _ _ told => cases told
      | checking _ _ _ _ told => cases told

/-- The last entry counts, whatever stands in an earlier one under the other name. -/
theorem ofMapping_outcome_later :
    let entries : List (Value × Value) :=
      [(.ofString "lineLimit", .list []), (.ofString "tabWidth", .int (-1)),
        (.ofString "line_limit", .ofString " +1_20"),
        (.ofString "ignoreComments", .ofString "YES\n"), (.ofString "tab_width", .null)]
    (∀ entry ∈ entries, isName entry.1 = true) ∧ ∃ settings, ofMapping entries = .ok settings ∧
      settings.value .tabWidth = .int 0 := by
  intro entries
  have names : ∀ entry ∈ entries, isName entry.1 = true := by decide
  have known : ∀ entry ∈ entries, ∃ setting ∈ Setting.all, setting.IsNamedBy entry.1 := by decide
  obtain ⟨valid, values, -⟩ := ofMapping_outcome names
  have made : ∃ settings, ofMapping entries = .ok settings := by
    refine valid.mpr ⟨fun entry member => ?_, fun setting given effective => ?_⟩
    · obtain ⟨setting, -, named⟩ := known entry member
      exact ⟨setting, named⟩
    · cases setting with
      | lineLimit =>
        cases effective
        have run : Text.DigitRun ['1', '_', '2', '0'] [1, 2, 0] :=
          .under rfl (.next rfl (.last rfl))
        have written := Text.IntegerText.plus run (by decide)
        exact ⟨.int 120, .int 120, .spelled rfl (.number rfl written), 120, rfl, by decide, rfl⟩
      | ignoreComments =>
        cases effective
        exact ⟨.bool true, .bool true, .spelled rfl (.word rfl (by decide)), true, rfl, rfl⟩
      | _ => cases effective
  obtain ⟨settings, done⟩ := made
  exact ⟨names, settings, done, (values settings done .tabWidth).1 rfl⟩

end Mapping

end Settings

end LineWidth
