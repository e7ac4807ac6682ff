import LineWidth.Proofs.Results
import LineWidth.Settings.Mapping
import Mathlib.Data.List.Nodup

/-! # Changing settings one by one

Settings are changed in stages, reading before checking, but what a change means is said setting by
setting: a setting holds what it is given, once that has been read and found right, and stays as it
was when it is given nothing. `Settings.change_eq_ok_iff` says so of any number of changes.
-/

namespace LineWidth

namespace Setting

/-- The least number that a setting can be. -/
def least : Setting → Nat
  | .lineLimit => 1
  | _ => 0

/-- A value that is right for a setting, and what is held then. -/
def Holds (setting : Setting) (given held : Value) : Prop :=
  if setting.isSwitch then ∃ truth, given = .bool truth ∧ held = .bool truth
  else ∃ number : Nat, given.integer? = some (number : Int) ∧ setting.least ≤ number ∧
    held = .int number

/-- A value that is right for a setting once it has been read, and what is held then. -/
def Accepts (setting : Setting) (given held : Value) : Prop :=
  ∃ read, Settings.coerce setting given = .ok read ∧ setting.Holds read held

/-- What becomes of a setting that may be given a value. Nothing leaves it as it was. -/
def Settles (setting : Setting) (given : Option Value) (before held : Value) : Prop :=
  match given.filter Settings.isGiven with
  | none => held = before
  | some value => setting.Accepts value held

theorem settles_some {setting : Setting} {given before held : Value}
    (present : Settings.isGiven given = true) :
    setting.Settles (some given) before held ↔ setting.Accepts given held := by
  rw [Settles, Option.filter_some, if_pos present]

/-- What a setting is given last counts, and what it was given before counts if that is nothing. -/
theorem Settles.trans {setting : Setting} {first second : Option Value}
    {before between held : Value}
    (former : setting.Settles first before between)
    (latter : setting.Settles second between held) :
    setting.Settles ((second.filter Settings.isGiven).or first) before held := by
  unfold Settles at latter
  cases given : second.filter Settings.isGiven with
  | none =>
    rw [given] at latter
    obtain rfl := latter
    rwa [Option.none_or]
  | some value =>
    rw [given] at latter
    rw [Option.some_or, settles_some (Option.filter_eq_some_iff.mp given).2]
    exact latter

end Setting

namespace SettingsFault

/-- The faults of a text that says nothing for a setting. -/
inductive CannotRead : SettingsFault → Setting → Value → Prop
  | switch {setting : Setting} {given : Value} (kind : setting.isSwitch = true) :
      CannotRead (.unreadableSwitch setting given) setting given
  | integer {setting : Setting} {given : Value} {cause : Text.IntegerFault}
      (kind : setting.isSwitch = false) :
      CannotRead (.unreadableInteger setting given cause) setting given

/-- The faults of a value of the wrong type or range for a setting. -/
inductive Refuses : SettingsFault → Setting → Value → Prop
  | notInteger {setting : Setting} {given : Value} (kind : setting.isSwitch = false)
      (other : given.integer? = none) : Refuses (.notInteger setting given) setting given
  | negative {setting : Setting} {given : Value} {number : Int} (kind : setting.isSwitch = false)
      (value : given.integer? = some number) (below : number < 0) :
      Refuses (.negative setting number) setting given
  | lineLimitTooSmall {given : Value} (value : given.integer? = some 0) :
      Refuses .lineLimitTooSmall .lineLimit given
  | notSwitch {setting : Setting} {given : Value} (kind : setting.isSwitch = true)
      (other : ∀ truth, given ≠ .bool truth) : Refuses (.notSwitch setting given) setting given

theorem Refuses.not_holds {fault : SettingsFault} {setting : Setting} {given held : Value}
    (refuses : fault.Refuses setting given) : ¬ setting.Holds given held := by
  rw [Setting.Holds]
  cases refuses with
  | notInteger kind other =>
    rw [kind]
    rintro ⟨number, value, -⟩
    rw [other] at value
    cases value
  | negative kind value below =>
    rw [kind]
    rintro ⟨number, same, -⟩
    rw [value, Option.some.injEq] at same
    omega
  | lineLimitTooSmall value =>
    rintro ⟨number, same, large, -⟩
    rw [value, Option.some.injEq] at same
    have least : 1 ≤ number := large
    omega
  | notSwitch kind other =>
    rw [kind]
    rintro ⟨truth, same, -⟩
    exact other truth same

end SettingsFault

namespace Settings

private theorem natural_eq_ok_iff {setting : Setting} {given : Value} {number : Nat} :
    natural setting given = .ok number ↔ given.integer? = some (number : Int) := by
  unfold natural
  cases given.integer? with
  | none => simp
  | some value =>
    simp only [Option.some.injEq]
    split_ifs with negative
    · simp
      omega
    · rw [Except.ok.injEq]
      omega

private theorem switch_eq_ok_iff {setting : Setting} {given : Value} {truth : Bool} :
    switch setting given = .ok truth ↔ given = .bool truth := by
  cases given <;> simp [switch]

theorem cannotRead_of_coerce {setting : Setting} {given : Value} {fault : SettingsFault}
    (failed : coerce setting given = .error fault) : fault.CannotRead setting given := by
  unfold coerce at failed
  split at failed
  · split_ifs at failed with kind
    · split at failed
      · cases failed
      · cases failed
        exact .switch kind
    · split at failed
      · cases failed
      · cases failed
        exact .integer (Bool.eq_false_iff.mpr kind)
  · split_ifs at failed with kind
    · cases failed
      exact .switch kind
    · cases failed
      exact .integer (Bool.eq_false_iff.mpr kind)
  · cases failed

private theorem refuses_of_natural {setting : Setting} {given : Value} {fault : SettingsFault}
    (kind : setting.isSwitch = false) (failed : natural setting given = .error fault) :
    fault.Refuses setting given := by
  rw [natural] at failed
  split at failed
  · next other =>
    cases failed
    exact .notInteger kind other
  · next number value =>
    split_ifs at failed with below
    cases failed
    exact .negative kind value below

private theorem refuses_of_switch {setting : Setting} {given : Value} {fault : SettingsFault}
    (kind : setting.isSwitch = true) (failed : switch setting given = .error fault) :
    fault.Refuses setting given := by
  unfold switch at failed
  split at failed
  · cases failed
  · next other =>
    cases failed
    exact .notSwitch kind other

/-- Values that make no settings are refused for one of them. -/
theorem refuses_of_ofValues {given : Setting → Value} {fault : SettingsFault}
    (failed : ofValues given = .error fault) :
    ∃ setting, fault.Refuses setting (given setting) := by
  rcases bind_eq_error_iff.mp failed with stopped | ⟨lineLimit, limited, failed⟩
  · exact ⟨_, refuses_of_natural rfl stopped⟩
  rcases bind_eq_error_iff.mp failed with stopped | ⟨hardLimit, -, failed⟩
  · exact ⟨_, refuses_of_natural rfl stopped⟩
  rcases bind_eq_error_iff.mp failed with stopped | ⟨tabWidth, -, failed⟩
  · exact ⟨_, refuses_of_natural rfl stopped⟩
  split_ifs at failed with small
  · cases failed
    refine ⟨_, .lineLimitTooSmall ?_⟩
    rw [natural_eq_ok_iff.mp limited, Nat.lt_one_iff.mp small]
    rfl
  rcases bind_eq_error_iff.mp failed with stopped | ⟨comments, -, failed⟩
  · exact ⟨_, refuses_of_switch rfl stopped⟩
  rcases bind_eq_error_iff.mp failed with stopped | ⟨useLines, -, failed⟩
  · exact ⟨_, refuses_of_switch rfl stopped⟩
  cases failed

/-- Settings are their values. -/
private theorem ext_value {first second : Settings}
    (same : ∀ setting, first.value setting = second.value setting) : first = second := by
  have lineLimit := same .lineLimit
  have hardLimit := same .absoluteLineLimit
  have comments := same .ignoreComments
  have useLines := same .ignoreUseLines
  have tabWidth := same .tabWidth
  simp only [value, Value.int.injEq, Value.bool.injEq, Int.natCast_inj] at *
  cases first
  cases second
  simp_all

/-- Values make settings exactly when each is right for its setting. -/
private theorem ofValues_eq_ok_iff {given : Setting → Value} {settings : Settings} :
    ofValues given = .ok settings ↔
      ∀ setting : Setting, setting.Holds (given setting) (settings.value setting) := by
  constructor
  · intro done
    simp only [ofValues, bind_eq_ok_iff, natural_eq_ok_iff] at done
    obtain ⟨lineLimit, atLine, hardLimit, atHard, tabWidth, atTab, done⟩ := done
    split_ifs at done with small
    simp only [bind_eq_ok_iff, switch_eq_ok_iff, pure, Except.pure, Except.ok.injEq] at done
    obtain ⟨comments, atComments, useLines, atUse, rfl⟩ := done
    rintro (_ | _ | _ | _ | _)
    · exact ⟨lineLimit, atLine, Nat.not_lt.mp small, rfl⟩
    · exact ⟨hardLimit, atHard, Nat.zero_le _, rfl⟩
    · exact ⟨comments, atComments, rfl⟩
    · exact ⟨useLines, atUse, rfl⟩
    · exact ⟨tabWidth, atTab, Nat.zero_le _, rfl⟩
  · intro holds
    obtain ⟨lineLimit, atLine, large, sameLine⟩ := holds .lineLimit
    obtain ⟨hardLimit, atHard, -, sameHard⟩ := holds .absoluteLineLimit
    obtain ⟨comments, atComments, sameComments⟩ := holds .ignoreComments
    obtain ⟨useLines, atUse, sameUse⟩ := holds .ignoreUseLines
    obtain ⟨tabWidth, atTab, -, sameTab⟩ := holds .tabWidth
    simp only [ofValues, bind_eq_ok_iff, natural_eq_ok_iff]
    refine ⟨lineLimit, atLine, hardLimit, atHard, tabWidth, atTab, ?_⟩
    have notSmall : ¬ lineLimit < 1 := Nat.not_lt.mpr large
    rw [if_neg notSmall]
    simp only [bind_eq_ok_iff, switch_eq_ok_iff, pure, Except.pure, Except.ok.injEq]
    refine ⟨comments, atComments, useLines, atUse, ?_⟩
    apply ext_value
    rintro (_ | _ | _ | _ | _)
    · exact sameLine.symm
    · exact sameHard.symm
    · exact sameComments.symm
    · exact sameUse.symm
    · exact sameTab.symm

private theorem holds_int_iff {setting : Setting} {number : Nat} {held : Value}
    (kind : setting.isSwitch = false) (large : setting.least ≤ number) :
    setting.Holds (.int number) held ↔ held = .int number := by
  simp only [Setting.Holds, kind, Bool.false_eq_true, if_false, Value.integer?, Option.some.injEq,
    Int.natCast_inj, exists_eq_left', large, true_and]

private theorem holds_bool_iff {setting : Setting} {truth : Bool} {held : Value}
    (kind : setting.isSwitch = true) :
    setting.Holds (.bool truth) held ↔ held = .bool truth := by
  simp only [Setting.Holds, kind, if_true, Value.bool.injEq, exists_eq_left']

/-- Valid settings keep their values. -/
theorem holds_value_iff {settings : Settings} (valid : settings.Valid) {setting : Setting}
    {held : Value} :
    setting.Holds (settings.value setting) held ↔ held = settings.value setting := by
  cases setting with
  | lineLimit => exact holds_int_iff rfl valid
  | absoluteLineLimit => exact holds_int_iff rfl (Nat.zero_le _)
  | ignoreComments => exact holds_bool_iff rfl
  | ignoreUseLines => exact holds_bool_iff rfl
  | tabWidth => exact holds_int_iff rfl (Nat.zero_le _)

/-- Settings that are made of values are valid. -/
private theorem valid_of_ofValues {given : Setting → Value} {settings : Settings}
    (done : ofValues given = .ok settings) : settings.Valid := by
  obtain ⟨number, -, large, same⟩ := ofValues_eq_ok_iff.mp done .lineLimit
  simp only [value, Value.int.injEq, Int.natCast_inj] at same
  rw [Valid, same]
  exact large

/-- Whether changes give a setting a value, nothing being none. -/
def Gives (changes : List (Setting × Value)) (setting : Setting) (given : Value) : Prop :=
  (setting, given) ∈ changes ∧ isGiven given = true

theorem lastGiven?_append {setting : Setting} {first second : List (Setting × Value)} :
    lastGiven? setting (first ++ second) =
      (lastGiven? setting second).or (lastGiven? setting first) := by
  simp only [lastGiven?, List.reverse_append, List.find?_append, Option.map_or]

theorem lastGiven?_singleton {setting other : Setting} {given : Value} :
    lastGiven? setting [(other, given)] = if other = setting then some given else none := by
  by_cases same : other = setting <;> simp [lastGiven?, same]

theorem lastGiven?_cons {setting other : Setting} {given : Value}
    {changes : List (Setting × Value)} :
    lastGiven? setting ((other, given) :: changes) =
      (lastGiven? setting changes).or (if other = setting then some given else none) := by
  rw [← List.singleton_append, lastGiven?_append, lastGiven?_singleton]

theorem lastGiven?_eq_none_iff {setting : Setting} {changes : List (Setting × Value)} :
    lastGiven? setting changes = none ↔ ∀ given, (setting, given) ∉ changes := by
  simp only [lastGiven?, Option.map_eq_none_iff, List.find?_eq_none, List.mem_reverse, beq_iff_eq]
  constructor
  · intro other given member
    exact other _ member rfl
  · rintro other ⟨_, given⟩ member rfl
    exact other given member

theorem mem_of_lastGiven? {setting : Setting} {changes : List (Setting × Value)} {given : Value}
    (found : lastGiven? setting changes = some given) : (setting, given) ∈ changes := by
  obtain ⟨⟨other, value⟩, last, rfl⟩ := Option.map_eq_some_iff.mp found
  have member := List.mem_reverse.mp (List.mem_of_find?_eq_some last)
  have same := List.find?_some last
  obtain rfl : other = setting := beq_iff_eq.mp same
  exact member

theorem lastGiven?_eq_some_iff {changes : List (Setting × Value)}
    (distinct : (changes.map Prod.fst).Nodup) {setting : Setting} {given : Value} :
    lastGiven? setting changes = some given ↔ (setting, given) ∈ changes := by
  refine ⟨mem_of_lastGiven?, fun member => ?_⟩
  cases found : lastGiven? setting changes with
  | none => exact absurd member (lastGiven?_eq_none_iff.mp found given)
  | some other =>
    have same := List.inj_on_of_nodup_map distinct (mem_of_lastGiven? found) member rfl
    rw [(Prod.mk.inj same).2]

section Change

variable {settings result : Settings} {changes read : List (Setting × Value)}

theorem gives_iff (distinct : (changes.map Prod.fst).Nodup) {setting : Setting} {given : Value} :
    Gives changes setting given ↔ (lastGiven? setting changes).filter isGiven = some given := by
  rw [Option.filter_eq_some_iff, lastGiven?_eq_some_iff distinct, Gives]

/-- The values that are read are those given. -/
theorem mem_readChanges_iff (done : readChanges changes = .ok read) {setting : Setting}
    {value : Value} :
    (setting, value) ∈ read ↔
      ∃ given, Gives changes setting given ∧ coerce setting given = .ok value := by
  rw [mem_of_mapM_eq_ok done]
  simp only [List.mem_filter, Prod.exists, bind_eq_ok_iff, pure, Except.pure, Except.ok.injEq,
    Prod.mk.injEq]
  constructor
  · rintro ⟨_, given, member, _, coerced, rfl, rfl⟩
    exact ⟨given, member, coerced⟩
  · rintro ⟨given, member, coerced⟩
    exact ⟨setting, given, member, value, coerced, rfl, rfl⟩

theorem exists_readChanges_iff :
    (∃ read, readChanges changes = .ok read) ↔
      ∀ setting given, Gives changes setting given → ∃ value, coerce setting given = .ok value := by
  unfold readChanges
  rw [exists_mapM_eq_ok_iff]
  simp only [List.mem_filter, Prod.forall, bind_eq_ok_iff, pure, Except.pure, Except.ok.injEq]
  constructor
  · intro all setting given gives
    obtain ⟨_, value, coerced, -⟩ := all setting given gives
    exact ⟨value, coerced⟩
  · intro all setting given gives
    obtain ⟨value, coerced⟩ := all setting given gives
    exact ⟨_, value, coerced, rfl⟩

/-- What a setting is to hold by the values read is what becomes of it by the values given. -/
private theorem holds_read_iff (valid : settings.Valid) (distinct : (changes.map Prod.fst).Nodup)
    (done : readChanges changes = .ok read) {setting : Setting} {held : Value} :
    setting.Holds ((lastGiven? setting read).getD (settings.value setting)) held ↔
      setting.Settles (lastGiven? setting changes) (settings.value setting) held := by
  unfold Setting.Settles
  cases last : lastGiven? setting read with
  | none =>
    have silent : (lastGiven? setting changes).filter isGiven = none := by
      rw [Option.eq_none_iff_forall_ne_some]
      intro given found
      have gives := (gives_iff distinct).mpr found
      obtain ⟨value, coerced⟩ := exists_readChanges_iff.mp ⟨read, done⟩ setting given gives
      have member := (mem_readChanges_iff done).mpr ⟨given, gives, coerced⟩
      exact lastGiven?_eq_none_iff.mp last value member
    rw [silent, Option.getD_none, holds_value_iff valid]
  | some value =>
    obtain ⟨given, gives, coerced⟩ := (mem_readChanges_iff done).mp (mem_of_lastGiven? last)
    rw [(gives_iff distinct).mp gives, Option.getD_some]
    constructor
    · intro holds
      exact ⟨value, coerced, holds⟩
    · rintro ⟨other, also, holds⟩
      obtain rfl := Except.ok.inj (coerced.symm.trans also)
      exact holds

/-- Changes succeed exactly when every value they give is right for its setting, and then the other
settings stay. -/
theorem change_eq_ok_iff (valid : settings.Valid) (distinct : (changes.map Prod.fst).Nodup) :
    settings.change changes = .ok result ↔ ∀ setting : Setting,
      setting.Settles (lastGiven? setting changes) (settings.value setting)
        (result.value setting) := by
  simp only [change, bind_eq_ok_iff, replace, ofValues_eq_ok_iff]
  constructor
  · rintro ⟨read, done, holds⟩ setting
    exact (holds_read_iff valid distinct done).mp (holds setting)
  · intro settles
    obtain ⟨read, done⟩ := exists_readChanges_iff.mpr fun setting given gives => by
      have accepts := settles setting
      rw [Setting.Settles, (gives_iff distinct).mp gives] at accepts
      obtain ⟨value, coerced, -⟩ := accepts
      exact ⟨value, coerced⟩
    exact ⟨read, done, fun setting => (holds_read_iff valid distinct done).mpr (settles setting)⟩

/-- Changing settings always has a fault to tell of when it fails. -/
theorem change_ne_unusableKey : settings.change changes ≠ .error .unusableKey := by
  intro failed
  rcases bind_eq_error_iff.mp failed with unread | ⟨read, -, refused⟩
  · obtain ⟨change, -, stopped⟩ := exists_of_mapM_eq_error unread
    rcases bind_eq_error_iff.mp stopped with uncoerced | ⟨_, -, impossible⟩
    · cases cannotRead_of_coerce uncoerced
    · cases impossible
  · obtain ⟨setting, refuses⟩ := refuses_of_ofValues refused
    cases refuses

theorem valid_of_change (done : settings.change changes = .ok result) : result.Valid := by
  obtain ⟨read, -, replaced⟩ := bind_eq_ok_iff.mp done
  exact valid_of_ofValues replaced

end Change

end Settings

end LineWidth
