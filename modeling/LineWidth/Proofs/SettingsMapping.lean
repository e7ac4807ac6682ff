import LineWidth.Proofs.SettingChanges
import Mathlib.Data.List.Induction

/-! # What a mapping of settings means

A mapping is built entry by entry, and its keys are made field names before it is read. What comes
out of it is what the entries say one by one: a setting holds what the last entry under either of
its names gives it (`Settings.ofMapping_eq_ok_iff`). A mapping that gives no settings is one with a
key that is no name (`Settings.ofMapping_eq_unusableKey_iff`), or has a fault to tell of.
-/

namespace LineWidth

namespace Value

variable {known key : Value} {name : List Char}

private theorem numeral?_eq_none_of_chars
    (named : key.chars? = some name) : key.numeral? = none := by
  cases key with
  | text => rfl
  | member m => cases m <;> first | rfl | cases named
  | _ => cases named

theorem keyEquals_of_chars (named : key.chars? = some name) :
    known.keyEquals key = (known.chars? == some name) := by
  have none := numeral?_eq_none_of_chars named
  unfold keyEquals
  split
  any_goals cases named
  rw [none, named]
  cases known.chars? with
  | none => cases known.numeral? <;> rfl
  | some chars => cases known.numeral? <;> rfl

private theorem chars?_of_keyEquals (equal : known.keyEquals key = true)
    (named : known.chars? = some name) :
    key.chars? = some name := by
  have none := numeral?_eq_none_of_chars named
  unfold keyEquals at equal
  split at equal
  any_goals cases named
  rw [none, named] at equal
  cases other : key.chars? with
  | none => simp [other] at equal
  | some chars =>
    simp only [other, beq_iff_eq] at equal
    rw [equal]

/-- Equal keys are the same text, if they are texts at all. -/
private theorem chars?_eq_of_keyEquals (equal : known.keyEquals key = true) :
    known.chars? = key.chars? := by
  cases named : known.chars? with
  | some name => exact (chars?_of_keyEquals equal named).symm
  | none =>
    cases other : key.chars? with
    | none => rfl
    | some name =>
      rw [keyEquals_of_chars other, named] at equal
      cases equal

private theorem eq_of_keyEquals_unpaired {points : List Nat}
    (equal : keyEquals (.unpaired points) key = true) : key = .unpaired points := by
  unfold keyEquals at equal
  split at equal
  all_goals simp_all [numeral?, chars?]

private theorem eq_of_unpaired_keyEquals {points : List Nat}
    (equal : known.keyEquals (.unpaired points) = true) : known = .unpaired points := by
  unfold keyEquals at equal
  split at equal
  all_goals simp_all [numeral?, chars?]

theorem points?_eq_chars (paired : ∀ points, key ≠ .unpaired points) :
    key.points? = key.chars?.map fun chars => chars.map Char.toNat := by
  cases key with
  | unpaired points => exact absurd rfl (paired points)
  | _ => rfl

/-- Equal keys have the same code points, if they are texts at all. -/
theorem points?_eq_of_keyEquals (equal : known.keyEquals key = true) :
    known.points? = key.points? := by
  by_cases first : ∃ points, known = .unpaired points
  · obtain ⟨points, rfl⟩ := first
    rw [eq_of_keyEquals_unpaired equal]
  by_cases second : ∃ points, key = .unpaired points
  · obtain ⟨points, rfl⟩ := second
    rw [eq_of_unpaired_keyEquals equal]
  rw [points?_eq_chars (not_exists.mp first), points?_eq_chars (not_exists.mp second),
    chars?_eq_of_keyEquals equal]

/-- A property of keys that equal keys share holds of the keys of a mapping exactly when it holds of
every key that the mapping was built from. -/
private theorem forall_insert_iff {P : Value → Prop}
    (shared : ∀ {known key : Value}, known.keyEquals key = true → (P known ↔ P key))
    {value : Value} {entries : List (Value × Value)} :
    (∀ entry ∈ insert key value entries, P entry.1) ↔ P key ∧ ∀ entry ∈ entries, P entry.1 := by
  induction entries with
  | nil => simp [insert]
  | cons entry entries ih =>
    obtain ⟨known, old⟩ := entry
    unfold insert
    split_ifs with equal
    · simp only [List.forall_mem_cons, ← and_assoc, shared equal, and_self]
    · simp only [List.forall_mem_cons, ih, and_left_comm]

theorem entriesOf_concat {entries : List (Value × Value)} {entry : Value × Value} :
    entriesOf (entries ++ [entry]) = insert entry.1 entry.2 (entriesOf entries) :=
  List.foldl_append

private theorem forall_entriesOf_iff {P : Value → Prop}
    (shared : ∀ {known key : Value}, known.keyEquals key = true → (P known ↔ P key))
    {entries : List (Value × Value)} :
    (∀ entry ∈ entriesOf entries, P entry.1) ↔ ∀ entry ∈ entries, P entry.1 := by
  induction entries using List.reverseRecOn with
  | nil => rfl
  | append_singleton entries entry ih =>
    rw [entriesOf_concat, forall_insert_iff shared, ih, List.forall_mem_append,
      List.forall_mem_singleton, and_comm]

end Value

namespace Setting

private theorem ofField?_eq_some_iff {setting : Setting} {name : String} :
    ofField? name = some setting ↔ name = setting.field := by
  constructor
  · intro found
    have same := List.find?_some found
    exact (beq_iff_eq.mp same).symm
  · rintro rfl
    cases setting <;> rfl

private theorem ofProperty?_eq_some_iff {setting : Setting} {name : String} :
    ofProperty? name = some setting ↔ name = setting.property := by
  constructor
  · intro found
    have same := List.find?_some found
    exact (beq_iff_eq.mp same).symm
  · rintro rfl
    cases setting <;> rfl

/-- Whether a key names a setting, by its field name or by its property name. -/
def IsNamedBy (setting : Setting) (key : Value) : Prop :=
  key.chars? = some setting.field.toList ∨ key.chars? = some setting.property.toList

instance (setting : Setting) (key : Value) : Decidable (setting.IsNamedBy key) :=
  inferInstanceAs (Decidable (_ ∨ _))

/-- What the last entry that names a setting gives it. -/
def lastNamed? (setting : Setting) (entries : List (Value × Value)) : Option Value :=
  (entries.reverse.find? fun entry => setting.IsNamedBy entry.1).map (·.2)

end Setting

namespace Settings

private theorem named?_eq_some_iff {key : Value} {setting : Setting} :
    named? key = some setting ↔ key.chars? = some setting.field.toList := by
  simp only [named?, Option.bind_eq_some_iff, Setting.ofField?_eq_some_iff]
  constructor
  · rintro ⟨chars, named, same⟩
    rw [named, ← same, String.toList_ofList]
  · intro named
    exact ⟨_, named, String.ofList_toList⟩

theorem named?_eq_of_keyEquals {known key : Value} (equal : known.keyEquals key = true) :
    named? known = named? key := by
  rw [named?, named?, Value.chars?_eq_of_keyEquals equal]

/-- A key is replaced exactly when it is a property name. -/
theorem normalKey_cases (key : Value) :
    (normalKey key = key ∧ ∀ setting : Setting, key.chars? ≠ some setting.property.toList) ∨
      ∃ setting : Setting, key.chars? = some setting.property.toList ∧
        normalKey key = .ofString setting.field := by
  unfold normalKey
  cases key.chars? with
  | none => exact .inl ⟨rfl, nofun⟩
  | some chars =>
    cases found : Setting.ofProperty? (String.ofList chars) with
    | none =>
      refine .inl ⟨by simp only [found], fun setting same => ?_⟩
      rw [Option.some.inj same, String.ofList_toList,
        Setting.ofProperty?_eq_some_iff.mpr rfl] at found
      cases found
    | some setting =>
      have same := Setting.ofProperty?_eq_some_iff.mp found
      exact .inr ⟨setting, by rw [← same, String.toList_ofList], by simp only [found]⟩

theorem named?_field {setting : Setting} : named? (.ofString setting.field) = some setting := by
  rw [named?_eq_some_iff]
  rfl

theorem named?_normalKey_eq_some_iff {key : Value} {setting : Setting} :
    named? (normalKey key) = some setting ↔ setting.IsNamedBy key := by
  rw [Setting.IsNamedBy]
  rcases normalKey_cases key with ⟨same, other⟩ | ⟨other, named, renamed⟩
  · rw [same, named?_eq_some_iff]
    exact (or_iff_left (other setting)).symm
  · rw [renamed, named, named?_field]
    simp only [Option.some.injEq, String.toList_inj]
    cases other <;> cases setting <;> decide

private theorem changesOf_cons {key given : Value} {entries : List (Value × Value)} :
    changesOf ((key, given) :: entries) =
      (named? key).elim (changesOf entries)
        fun setting => (setting, given) :: changesOf entries := by
  cases named : named? key <;> simp [changesOf, named]

private theorem lastGiven?_changesOf_concat {setting : Setting} {entries : List (Value × Value)}
    {entry : Value × Value} :
    lastGiven? setting (changesOf (entries ++ [entry])) =
      if named? entry.1 = some setting then some entry.2
      else lastGiven? setting (changesOf entries) := by
  have split : changesOf (entries ++ [entry]) = changesOf entries ++ changesOf [entry] :=
    List.filterMap_append
  rw [split, lastGiven?_append, changesOf_cons]
  cases named? entry.1 with
  | none => rfl
  | some other =>
    simp only [Option.elim_some, changesOf, List.filterMap_nil, lastGiven?_singleton,
      Option.some.injEq]
    split_ifs <;> rfl

/-- What the last entry under either name of a setting gives it is what the last change to it gives,
once names have been made field names. -/
private theorem lastGiven?_normalKey {setting : Setting} {entries : List (Value × Value)} :
    lastGiven? setting (changesOf (entries.map fun (key, given) => (normalKey key, given))) =
      setting.lastNamed? entries := by
  induction entries using List.reverseRecOn with
  | nil => rfl
  | append_singleton entries entry ih =>
    rw [List.map_append, List.map_singleton, lastGiven?_changesOf_concat, ih, Setting.lastNamed?,
      Setting.lastNamed?, List.reverse_concat, List.find?_cons]
    simp only [named?_normalKey_eq_some_iff]
    by_cases named : setting.IsNamedBy entry.1 <;> simp [named]

/-- Set what changes give a setting, in the place of what they gave it before. -/
def putChange (setting : Setting) (given : Value) :
    List (Setting × Value) → List (Setting × Value)
  | [] => [(setting, given)]
  | (known, old) :: rest =>
    if known = setting then (known, given) :: rest
    else (known, old) :: putChange setting given rest

private theorem changesOf_insert {key given : Value} {entries : List (Value × Value)} :
    changesOf (Value.insert key given entries) =
      (named? key).elim (changesOf entries) (putChange · given (changesOf entries)) := by
  induction entries with
  | nil => cases named : named? key <;> simp [Value.insert, changesOf, putChange, named]
  | cons entry entries ih =>
    obtain ⟨known, old⟩ := entry
    unfold Value.insert
    split_ifs with equal
    · rw [changesOf_cons, changesOf_cons, named?_eq_of_keyEquals equal]
      cases named? key with
      | none => rfl
      | some setting => simp [putChange]
    · rw [changesOf_cons, changesOf_cons, ih]
      cases named : named? key with
      | none => rfl
      | some setting =>
        cases other : named? known with
        | none => rfl
        | some before =>
          have different : before ≠ setting := by
            rintro rfl
            rw [Value.keyEquals_of_chars (named?_eq_some_iff.mp named),
              named?_eq_some_iff.mp other] at equal
            exact equal (beq_self_eq_true _)
          simp [putChange, different]

private theorem mem_names_putChange {setting other : Setting} {given : Value}
    {changes : List (Setting × Value)} :
    other ∈ (putChange setting given changes).map Prod.fst ↔
      other = setting ∨ other ∈ changes.map Prod.fst := by
  induction changes with
  | nil => simp [putChange]
  | cons change changes ih =>
    obtain ⟨known, old⟩ := change
    unfold putChange
    split_ifs with same
    · simp [same]
    · simp only [List.map_cons, List.mem_cons, ih, or_left_comm]

private theorem nodup_putChange {setting : Setting} {given : Value}
    {changes : List (Setting × Value)} (distinct : (changes.map Prod.fst).Nodup) :
    ((putChange setting given changes).map Prod.fst).Nodup := by
  induction changes with
  | nil => exact List.nodup_singleton _
  | cons change changes ih =>
    obtain ⟨known, old⟩ := change
    obtain ⟨fresh, distinct⟩ := List.nodup_cons.mp distinct
    unfold putChange
    split_ifs with same
    · exact List.nodup_cons.mpr ⟨fresh, distinct⟩
    · refine List.nodup_cons.mpr ⟨fun member => ?_, ih distinct⟩
      exact (mem_names_putChange.mp member).elim same fresh

private theorem lastGiven?_putChange {setting other : Setting} {given : Value}
    {changes : List (Setting × Value)} (distinct : (changes.map Prod.fst).Nodup) :
    lastGiven? other (putChange setting given changes) =
      if setting = other then some given else lastGiven? other changes := by
  induction changes with
  | nil => exact lastGiven?_singleton
  | cons change changes ih =>
    obtain ⟨known, old⟩ := change
    obtain ⟨fresh, distinct⟩ := List.nodup_cons.mp distinct
    unfold putChange
    by_cases first : known = setting
    · subst first
      rw [if_pos rfl, lastGiven?_cons, lastGiven?_cons]
      by_cases second : known = other
      · have none : lastGiven? other changes = none := by
          rw [lastGiven?_eq_none_iff]
          intro given member
          exact fresh (List.mem_map.mpr ⟨_, member, second.symm⟩)
        simp [second, none]
      · simp [second]
    · rw [if_neg first, lastGiven?_cons, lastGiven?_cons, ih distinct]
      split_ifs <;> rfl

/-- The changes that a built mapping makes: every setting is changed once, by the last entry. -/
private theorem changesOf_entriesOf {entries : List (Value × Value)} :
    ((changesOf (Value.entriesOf entries)).map Prod.fst).Nodup ∧ ∀ setting,
      lastGiven? setting (changesOf (Value.entriesOf entries)) =
        lastGiven? setting (changesOf entries) := by
  induction entries using List.reverseRecOn with
  | nil => exact ⟨List.nodup_nil, fun _ => rfl⟩
  | append_singleton entries entry ih =>
    obtain ⟨distinct, same⟩ := ih
    simp only [Value.entriesOf_concat, changesOf_insert, lastGiven?_changesOf_concat]
    cases named? entry.1 with
    | none => exact ⟨distinct, fun setting => same setting⟩
    | some named =>
      refine ⟨nodup_putChange distinct, fun setting => ?_⟩
      simp only [Option.elim_some, lastGiven?_putChange distinct, same, Option.some.injEq]

theorem mem_insertName {name other : List Nat} {names : List (List Nat)} :
    other ∈ insertName name names ↔ other = name ∨ other ∈ names := by
  induction names with
  | nil => simp [insertName]
  | cons known names ih =>
    rw [insertName]
    split_ifs with less same
    · exact List.mem_cons
    · rw [beq_iff_eq.mp same]
      simp
    · rw [List.mem_cons, ih, List.mem_cons, or_left_comm]

private theorem mem_foldl_insertName {names known : List (List Nat)} {name : List Nat} :
    name ∈ names.foldl (fun names name => insertName name names) known ↔
      name ∈ names ∨ name ∈ known := by
  induction names generalizing known with
  | nil => simp
  | cons first names ih =>
    rw [List.foldl_cons, ih, mem_insertName, List.mem_cons, or_left_comm, or_assoc]

theorem mem_unknownNames {entries : List (Value × Value)} {name : List Nat} :
    name ∈ unknownNames entries ↔
      ∃ entry ∈ entries, named? entry.1 = none ∧ entry.1.points? = some name := by
  rw [unknownNames, mem_foldl_insertName]
  simp [List.mem_filterMap, and_assoc]

private theorem unknownNames_eq_nil_iff {entries : List (Value × Value)} :
    unknownNames entries = [] ↔
      ∀ entry ∈ entries, named? entry.1 = none → entry.1.points? = none := by
  simp only [List.eq_nil_iff_forall_not_mem, mem_unknownNames, Option.eq_none_iff_forall_ne_some]
  constructor
  · intro absent entry member unnamed points found
    exact absent points ⟨entry, member, unnamed, found⟩
  · rintro absent points ⟨entry, member, unnamed, found⟩
    exact absent entry member unnamed points found

theorem isName_iff {key : Value} :
    isName key = true ↔
      ∃ points, key.points? = some points ∧ points ≠ "self".toList.map Char.toNat := by
  simp [isName, Option.any_eq_true]

private theorem isName_of_chars? {key : Value} {name : List Char} (named : key.chars? = some name)
    (other : name.map Char.toNat ≠ "self".toList.map Char.toNat) : isName key = true := by
  have paired : ∀ points, key ≠ .unpaired points := by
    rintro points rfl
    cases named
  rw [isName_iff, Value.points?_eq_chars paired, named]
  exact ⟨_, rfl, other⟩

theorem isName_of_named? {key : Value} {setting : Setting} (named : named? key = some setting) :
    isName key = true := by
  apply isName_of_chars? (named?_eq_some_iff.mp named)
  cases setting <;> decide

theorem override_of_named {settings : Settings} {entries : List (Value × Value)}
    (named : ∀ entry ∈ entries, (named? entry.1).isSome = true) :
    settings.override entries = settings.change (changesOf entries) := by
  have names : (entries.all fun entry => isName entry.1) = true := by
    rw [List.all_eq_true]
    intro entry member
    obtain ⟨setting, found⟩ := Option.isSome_iff_exists.mp (named entry member)
    exact isName_of_named? found
  have known : unknownNames entries = [] := by
    rw [unknownNames_eq_nil_iff]
    intro entry member unnamed
    have found := named entry member
    rw [unnamed] at found
    cases found
  rw [override, if_pos names, known]

/-- A mapping changes settings exactly when all its keys are field names. -/
private theorem override_eq_ok_iff {settings result : Settings} {entries : List (Value × Value)} :
    settings.override entries = .ok result ↔
      (∀ entry ∈ entries, (named? entry.1).isSome = true) ∧
        settings.change (changesOf entries) = .ok result := by
  constructor
  · intro done
    unfold override at done
    split_ifs at done with names
    split at done
    case h_2 => cases done
    case h_1 known =>
      refine ⟨fun entry member => ?_, done⟩
      by_contra unnamed
      have unknown := unknownNames_eq_nil_iff.mp known entry member (by simpa using unnamed)
      obtain ⟨points, found, -⟩ := isName_iff.mp (List.all_eq_true.mp names entry member)
      rw [unknown] at found
      cases found
  · rintro ⟨named, done⟩
    rw [override_of_named named]
    exact done

private theorem changesOf_fieldEntries {changes : List (Setting × Value)} :
    changesOf (fieldEntries changes) = changes := by
  induction changes with
  | nil => rfl
  | cons change changes ih =>
    rw [fieldEntries, List.map_cons, changesOf_cons, named?_field, Option.elim_some, ← fieldEntries,
      ih]

/-- Changes are made by field name. -/
theorem override_fieldEntries_eq_ok_iff {settings result : Settings}
    {changes : List (Setting × Value)} :
    settings.override (fieldEntries changes) = .ok result ↔
      settings.change changes = .ok result := by
  have named : ∀ entry ∈ fieldEntries changes, (named? entry.1).isSome = true := by
    intro entry member
    obtain ⟨change, -, rfl⟩ := List.mem_map.mp member
    rw [named?_field]
    rfl
  rw [override_eq_ok_iff, changesOf_fieldEntries]
  exact and_iff_right named

theorem override_eq_unusableKey_iff {settings : Settings} {entries : List (Value × Value)} :
    settings.override entries = .error .unusableKey ↔
      ¬ ∀ entry ∈ entries, isName entry.1 = true := by
  unfold override
  split_ifs with names
  · refine iff_of_false ?_ (not_not_intro (List.all_eq_true.mp names))
    split
    · exact change_ne_unusableKey
    · simp
  · exact iff_of_true rfl fun all => names (List.all_eq_true.mpr all)

theorem isName_normalKey {key : Value} : isName (normalKey key) = isName key := by
  rcases normalKey_cases key with ⟨same, -⟩ | ⟨setting, named, renamed⟩
  · rw [same]
  · rw [renamed, isName_of_named? named?_field]
    symm
    apply isName_of_chars? named
    cases setting <;> decide

/-- A property of keys that equal keys share, of all the keys that a mapping is made of. -/
theorem forall_normalize_iff {P : Value → Prop} {entries : List (Value × Value)}
    (shared : ∀ {known key : Value}, known.keyEquals key = true → (P known ↔ P key)) :
    (∀ entry ∈ normalize entries, P entry.1) ↔ ∀ entry ∈ entries, P (normalKey entry.1) := by
  rw [normalize, Value.forall_entriesOf_iff shared, List.forall_mem_map]

/-- A mapping has no fault to tell of exactly when one of its keys is no name. -/
theorem ofMapping_eq_unusableKey_iff {entries : List (Value × Value)} :
    ofMapping entries = .error .unusableKey ↔ ∃ entry ∈ entries, isName entry.1 = false := by
  rw [ofMapping, override_eq_unusableKey_iff,
    forall_normalize_iff (P := fun key => isName key = true)
      fun equal => by rw [isName, isName, Value.points?_eq_of_keyEquals equal]]
  simp only [isName_normalKey, not_forall, Bool.not_eq_true, exists_prop]

/-- A mapping changes every setting that it names once, by the last entry under one of its names. -/
theorem changesOf_normalize {entries : List (Value × Value)} :
    ((changesOf (normalize entries)).map Prod.fst).Nodup ∧ ∀ setting,
      lastGiven? setting (changesOf (normalize entries)) = setting.lastNamed? entries := by
  refine ⟨changesOf_entriesOf.1, fun setting => ?_⟩
  rw [normalize, changesOf_entriesOf.2, lastGiven?_normalKey]

/-- What a mapping means: all its keys name settings, and the last entry for a setting says what it
holds, the usual value standing in for nothing. -/
theorem ofMapping_eq_ok_iff {entries : List (Value × Value)} {settings : Settings} :
    ofMapping entries = .ok settings ↔
      (∀ entry ∈ entries, ∃ setting : Setting, setting.IsNamedBy entry.1) ∧ ∀ setting : Setting,
        setting.Settles (setting.lastNamed? entries) (({} : Settings).value setting)
          (settings.value setting) := by
  rw [ofMapping, override_eq_ok_iff, change_eq_ok_iff (by decide) changesOf_normalize.1,
    forall_normalize_iff (P := fun key => (named? key).isSome = true)
      fun equal => by rw [named?_eq_of_keyEquals equal]]
  simp only [changesOf_normalize.2, Option.isSome_iff_exists, named?_normalKey_eq_some_iff]

theorem valid_of_ofMapping {entries : List (Value × Value)} {settings : Settings}
    (done : ofMapping entries = .ok settings) : settings.Valid :=
  valid_of_change (override_eq_ok_iff.mp done).2

end Settings

theorem SettingsFault.stop_eq_breakdown_iff {fault : SettingsFault} {breakdown : Breakdown} :
    fault.stop = .breakdown breakdown ↔ fault = .unusableKey ∧ breakdown = .unusableKey := by
  cases fault <;> simp [stop, eq_comm]

/-- Every fault that is told is told as a configuration failure. -/
theorem SettingsFault.category_of_stop {fault : SettingsFault} {failure : Failure}
    (told : fault.stop = .failure failure) : failure.category = .configuration := by
  cases fault with
  | unusableKey => cases told
  | _ => obtain rfl := Stop.failure.inj told; rfl

end LineWidth
