import LineWidth.Proofs.WritableSettings

/-! # Layers of settings

The settings of a check come in three layers: the usual values, the settings file and the options.
Each layer counts setting by setting for what it gives, whatever it says of the other settings, and
a later layer counts before an earlier one. Two layers of changes therefore are one
(`Settings.change_layers`), and `FileTree.settings_layers` says what every setting of a check is.
-/

namespace LineWidth

namespace Logged

variable {α β : Type} {first : Logged α} {next : α → Logged β}

theorem bind_of_ok {value : α} (done : first.result = .ok value) :
    (first >>= next) = ⟨first.entries ++ (next value).entries, (next value).result⟩ := by
  simp only [Bind.bind, Logged.bind, done]

theorem bind_of_error {stop : Stop} (stopped : first.result = .error stop) :
    (first >>= next) = ⟨first.entries, .error stop⟩ := by
  simp only [Bind.bind, Logged.bind, stopped]

theorem note_of_canTell {entry : Entry} (told : entry.canTell = true) :
    note entry = ⟨[entry], .ok ()⟩ := if_pos told

theorem result_bind_eq_ok_iff {result : β} :
    (first >>= next).result = .ok result ↔
      ∃ value, first.result = .ok value ∧ (next value).result = .ok result := by
  cases done : first.result with
  | error stop => simp [bind_of_error done]
  | ok value => simp [bind_of_ok done]

theorem result_bind_eq_error_iff {stop : Stop} :
    (first >>= next).result = .error stop ↔
      first.result = .error stop ∨
        ∃ value, first.result = .ok value ∧ (next value).result = .error stop := by
  cases done : first.result with
  | error stop => simp [bind_of_error done]
  | ok value => simp [bind_of_ok done]

end Logged

namespace Setting

variable {setting : Setting} {held : Value}

private theorem eq_of_accepts_int {number : Int} (accepts : setting.Accepts (.int number) held) :
    held = .int number := by
  obtain ⟨read, coerced, holds⟩ := accepts
  obtain rfl := Except.ok.inj coerced
  unfold Holds at holds
  split_ifs at holds
  · obtain ⟨truth, impossible, -⟩ := holds
    cases impossible
  · obtain ⟨natural, same, -, rfl⟩ := holds
    rw [Value.integer?, Option.some.injEq] at same
    rw [same]

private theorem eq_of_accepts_bool {truth : Bool} (accepts : setting.Accepts (.bool truth) held) :
    held = .bool truth := by
  obtain ⟨read, coerced, holds⟩ := accepts
  obtain rfl := Except.ok.inj coerced
  unfold Holds at holds
  split_ifs at holds
  · obtain ⟨_, ⟨⟩, same⟩ := holds
    exact same
  · obtain ⟨_, impossible, -⟩ := holds
    cases impossible

end Setting

namespace Settings

/-- Whether changes give every setting what the second changes give it, nothing being none, and else
what the first ones do. -/
def Layered (first second both : List (Setting × Value)) : Prop :=
  ∀ setting, lastGiven? setting both =
    ((lastGiven? setting second).filter isGiven).or (lastGiven? setting first)

variable {settings between result : Settings} {first second both : List (Setting × Value)}

/-- Changes made one after the other are one change, which gives a setting what the later changes
give it, or else what the earlier ones do. -/
theorem change_layers (valid : settings.Valid) (distinctFirst : (first.map Prod.fst).Nodup)
    (distinctSecond : (second.map Prod.fst).Nodup) (distinctBoth : (both.map Prod.fst).Nodup)
    (layered : Layered first second both)
    (former : settings.change first = .ok between) (latter : between.change second = .ok result) :
    settings.change both = .ok result := by
  rw [change_eq_ok_iff valid distinctBoth]
  intro setting
  rw [layered setting]
  exact ((change_eq_ok_iff valid distinctFirst).mp former setting).trans
    ((change_eq_ok_iff (valid_of_change former) distinctSecond).mp latter setting)

end Settings

/-- What a setting is by the arguments of the command and the entries of a settings file: what its
option was given last, or else what the last entry for it gives, or else the usual value. -/
def Setting.Chosen (setting : Setting) (arguments : Arguments CheckOption)
    (entries : List (Value × Value)) (held : Value) : Prop :=
  match arguments.last? (.setting setting) with
  | some given => given.valueFor? setting = some held
  | none => setting.Settles (setting.lastNamed? entries) (({} : Settings).value setting) held

namespace FileTree

/-- The settings file of a request: the one asked for, else the usual one if it is a file. -/
def settingsFile? (tree : FileTree) (request : CheckRequest) : Option Path :=
  match request.config with
  | some path => some path
  | none =>
    if tree.isFile tree.usualSettingsFile = .ok true then some tree.usualSettingsFile else none

/-- The entries of a request's settings file; without a file there are none. -/
def SettingsEntries (tree : FileTree) (request : CheckRequest) (entries : List (Value × Value)) :
    Prop :=
  match tree.settingsFile? request with
  | none => entries = []
  | some path =>
    ∃ content, tree.lookUp path = .ok (some (.file content true)) ∧ Describes content entries

variable {tree : FileTree} {path : Path} {request : CheckRequest} {settings : Settings}

/-- A file that can be read is what its path leads to. -/
private theorem lookUp_of_read {content : ByteArray} (openable : path.hasNull = false)
    (done : tree.read path = .ok content) :
    tree.lookUp path = .ok (some (.file content true)) := by
  obtain ⟨⟨place, node⟩, found, done⟩ := bind_eq_ok_iff.mp done
  simp only [lookUp, openable, found, Bool.false_eq_true, if_false]
  cases node with
  | file other readable =>
    cases readable with
    | true => rw [Except.ok.inj done]
    | false => cases done
  | _ => cases done

private theorem exists_of_loadSettings (done : tree.loadSettings path = .ok settings) :
    ∃ content entries, tree.lookUp path = .ok (some (.file content true)) ∧
      Describes content entries ∧ Settings.ofMapping entries = .ok settings := by
  have there : ∃ content, tree.lookUp path = .ok (some (.file content true)) := by
    unfold loadSettings at done
    dsimp only at done
    split_ifs at done with null
    · split at done
      · cases done
      · cases done
      · next content readable =>
        exact ⟨content, lookUp_of_read (Bool.eq_false_iff.mpr null) readable⟩
  obtain ⟨content, there⟩ := there
  obtain ⟨-, entries, describes, made⟩ := (loadSettings_eq_ok_iff there).mp done
  exact ⟨content, entries, there, describes, made⟩

private theorem writable_of_loadSettings (done : tree.loadSettings path = .ok settings) :
    settings.Writable := by
  obtain ⟨_, entries, -, describes, made⟩ := exists_of_loadSettings done
  exact Settings.writable_of_describes describes made

/-- Loading settings makes an entry of them, which can always be worded. -/
theorem settingsAt_of_ok (done : tree.loadSettings path = .ok settings) :
    tree.settingsAt path = ⟨[.settingsLoaded path settings], .ok settings⟩ := by
  obtain ⟨lineLimit, hardLimit, tabWidth⟩ :=
    Settings.writable_iff.mp (writable_of_loadSettings done)
  have told : (Entry.settingsLoaded path settings).canTell = true := by
    simp [Entry.canTell, lineLimit, hardLimit, tabWidth]
  have loaded : (Logged.ofResult (tree.loadSettings path)).result = .ok settings := done
  have noted : (Logged.note (.settingsLoaded path settings)).result = .ok () := by
    rw [Logged.note_of_canTell told]
  rw [settingsAt, Logged.bind_of_ok loaded, Logged.bind_of_ok noted, Logged.note_of_canTell told]
  rfl

theorem settingsAt_of_error {stop : Stop} (failed : tree.loadSettings path = .error stop) :
    tree.settingsAt path = ⟨[], .error stop⟩ :=
  Logged.bind_of_error failed

theorem settingsAt_result : (tree.settingsAt path).result = tree.loadSettings path := by
  cases done : tree.loadSettings path with
  | error stop => rw [settingsAt_of_error done]
  | ok settings => rw [settingsAt_of_ok done]

/-- The settings to start from are those of the settings file, if there is one. -/
theorem baseSettings_cases (request : CheckRequest) :
    (∃ path, tree.settingsFile? request = some path ∧
      tree.baseSettings request = tree.settingsAt path) ∨
    (tree.settingsFile? request = none ∧ tree.baseSettings request = ⟨[], .ok {}⟩) ∨
    ∃ fault : QueryFault, request.config = none ∧
      tree.isFile tree.usualSettingsFile = .error fault ∧
      tree.baseSettings request = ⟨[], .error (.breakdown fault.breakdown)⟩ := by
  unfold baseSettings settingsFile?
  cases request.config with
  | some path => exact .inl ⟨path, rfl, rfl⟩
  | none =>
    dsimp only
    cases tree.isFile tree.usualSettingsFile with
    | error fault => exact .inr (.inr ⟨fault, rfl, rfl, rfl⟩)
    | ok there =>
      cases there with
      | false => exact .inr (.inl ⟨rfl, rfl⟩)
      | true => exact .inl ⟨_, rfl, rfl⟩

private theorem exists_of_baseSettings (done : (tree.baseSettings request).result = .ok settings) :
    ∃ entries, tree.SettingsEntries request entries ∧
      Settings.ofMapping entries = .ok settings := by
  unfold SettingsEntries
  rcases baseSettings_cases request with
    ⟨path, file, same⟩ | ⟨file, same⟩ | ⟨fault, -, -, same⟩
  · rw [same, settingsAt_result] at done
    obtain ⟨content, entries, there, describes, made⟩ := exists_of_loadSettings done
    rw [file]
    exact ⟨entries, ⟨content, there, describes⟩, made⟩
  · rw [same] at done
    rw [file, ← Except.ok.inj done]
    exact ⟨[], rfl, rfl⟩
  · rw [same] at done
    cases done

theorem settingsFor_eq_ok_iff :
    (tree.settingsFor request).result = .ok settings ↔
      ∃ base, (tree.baseSettings request).result = .ok base ∧
        base.change request.changes = .ok settings := by
  rw [settingsFor, Logged.result_bind_eq_ok_iff]
  simp only [Logged.ofResult, mapError_eq_ok_iff, Settings.override_fieldEntries_eq_ok_iff]

private theorem SettingsEntries.writable {entries : List (Value × Value)}
    (source : tree.SettingsEntries request entries)
    (made : Settings.ofMapping entries = .ok settings) : settings.Writable := by
  unfold SettingsEntries at source
  split at source
  · rw [source] at made
    obtain rfl := Except.ok.inj made
    exact Settings.writable_usual
  · obtain ⟨content, -, describes⟩ := source
    exact Settings.writable_of_describes describes made

private theorem settingsFor_of_prepare (prepared : (tree.prepare request).result = .ok settings) :
    (tree.settingsFor request).result = .ok settings := by
  obtain ⟨_, -, done⟩ := Logged.result_bind_eq_ok_iff.mp prepared
  exact done

private theorem isGiven_of_valueFor? {setting : Setting} {given : Given} {value : Value}
    (found : given.valueFor? setting = some value) : Settings.isGiven value = true := by
  cases given with
  | switch truth =>
    obtain rfl := Option.some.inj found
    rfl
  | value text =>
    obtain ⟨number, -, rfl⟩ := Option.map_eq_some_iff.mp found
    rfl

/-- What every setting is changed to when its option is given. -/
private theorem eq_of_settles_option {setting : Setting} {given : Given} {value before held : Value}
    (found : given.valueFor? setting = some value)
    (settles : setting.Settles (some value) before held) : held = value := by
  cases given with
  | switch truth =>
    obtain rfl := Option.some.inj found
    exact Setting.eq_of_accepts_bool ((Setting.settles_some rfl).mp settles)
  | value text =>
    obtain ⟨number, -, rfl⟩ := Option.map_eq_some_iff.mp found
    exact Setting.eq_of_accepts_int ((Setting.settles_some rfl).mp settles)

/-- Each setting of a check is settled by the layers, whatever the other settings are. -/
private theorem settles_of_prepare (distinct : (request.changes.map Prod.fst).Nodup)
    (prepared : (tree.prepare request).result = .ok settings) :
    ∃ entries, tree.SettingsEntries request entries ∧ ∀ setting : Setting,
      setting.Settles
        (((Settings.lastGiven? setting request.changes).filter Settings.isGiven).or
          (setting.lastNamed? entries))
        (({} : Settings).value setting) (settings.value setting) := by
  obtain ⟨base, based, changed⟩ := settingsFor_eq_ok_iff.mp (settingsFor_of_prepare prepared)
  obtain ⟨entries, source, made⟩ := exists_of_baseSettings based
  refine ⟨entries, source, fun setting => ?_⟩
  exact ((Settings.ofMapping_eq_ok_iff.mp made).2 setting).trans
    ((Settings.change_eq_ok_iff (Settings.valid_of_ofMapping made) distinct).mp changed setting)

/-- What settles a setting is what is chosen for it by the options. -/
private theorem chosen_of_settles {arguments : Arguments CheckOption}
    (asked : CheckRequest.ofArguments arguments = .ok request) {setting : Setting}
    {entries : List (Value × Value)} {held : Value}
    (settles : setting.Settles
      (((Settings.lastGiven? setting request.changes).filter Settings.isGiven).or
        (setting.lastNamed? entries)) (({} : Settings).value setting) held) :
    setting.Chosen arguments entries held := by
  rw [CheckRequest.lastGiven?_changes asked] at settles
  unfold Setting.Chosen
  cases last : arguments.last? (.setting setting) with
  | none =>
    rw [last] at settles
    exact settles
  | some given =>
    obtain ⟨value, found⟩ := (CheckRequest.ofArguments_changes asked).2 setting given last
    rw [last, Option.bind_some, found, Option.filter_some, if_pos (isGiven_of_valueFor? found),
      Option.some_or] at settles
    rw [eq_of_settles_option found settles]
    exact found

/-- Settings come in layers. Two change sets by field name, one after the other, are the one that
gives each setting what the second gives it or else what the first does, and leave the settings
valid. A check that gets past its settings uses settings of which each is what it is changed to; or
else what the last entry for it, under either name, of the object in the settings file gives, read
if it is a text; or else the usual value. For a command line, what a setting is changed to is what
its option was given last. -/
theorem settings_layers :
    (∀ (settings between result : Settings) (first second both : List (Setting × Value)),
      settings.Valid → (first.map Prod.fst).Nodup → (second.map Prod.fst).Nodup →
      (both.map Prod.fst).Nodup → Settings.Layered first second both →
      settings.override (Settings.fieldEntries first) = .ok between →
      between.override (Settings.fieldEntries second) = .ok result →
      settings.override (Settings.fieldEntries both) = .ok result ∧ result.Valid) ∧
    ∀ (surroundings : Surroundings) (request : CheckRequest) (settings : Settings),
      (surroundings.tree.prepare request).result = .ok settings →
      (∀ debug, ∃ entries, surroundings.check debug request =
        surroundings.checkAll debug request settings entries) ∧
      ((request.changes.map Prod.fst).Nodup →
        ∃ entries, surroundings.tree.SettingsEntries request entries ∧ ∀ setting : Setting,
          setting.Settles
            (((Settings.lastGiven? setting request.changes).filter Settings.isGiven).or
              (setting.lastNamed? entries))
            (({} : Settings).value setting) (settings.value setting)) ∧
      ∀ (words : List String) (arguments : Arguments CheckOption),
        checkAsked? words = some (arguments, request) →
        (∃ debug entries,
          surroundings.run words = surroundings.checkAll debug request settings entries) ∧
        ∃ entries, surroundings.tree.SettingsEntries request entries ∧
          ∀ setting : Setting, setting.Chosen arguments entries (settings.value setting) := by
  simp only [Settings.override_fieldEntries_eq_ok_iff]
  constructor
  · intro settings between result first second both valid distinctFirst distinctSecond distinctBoth
      layered former latter
    exact ⟨Settings.change_layers valid distinctFirst distinctSecond distinctBoth layered former
      latter, Settings.valid_of_change latter⟩
  · intro surroundings request settings prepared
    have checks (debug : Bool) : ∃ entries, surroundings.check debug request =
        surroundings.checkAll debug request settings entries := by
      refine ⟨(surroundings.tree.prepare request).entries, ?_⟩
      rw [Surroundings.check, prepared]
    refine ⟨checks, fun distinct => settles_of_prepare distinct prepared, ?_⟩
    intro words arguments asks
    have asked := ofArguments_of_checkAsked? asks
    constructor
    · obtain ⟨debug, same⟩ := run_of_checkAsked? asks surroundings
      exact ⟨debug, same ▸ checks debug⟩
    · obtain ⟨entries, source, settles⟩ :=
        settles_of_prepare (CheckRequest.nodup_changes asked) prepared
      exact ⟨entries, source, fun setting => chosen_of_settles asked (settles setting)⟩

/-- The surroundings of a run with one settings file and one empty source file. -/
def besideSettings (document : String) : Surroundings :=
  { tree :=
      ⟨.directory [("c.json", .file document.toUTF8 true), ("a.php", .file .empty true)] {}, []⟩
    clock := "12:00:00", time := "2024-01-01T12:00:00" }

/-- The surroundings of a run with a settings file that gives two settings. -/
def besideTwoSettings : Surroundings :=
  besideSettings "\x7b\"tabWidth\": 2, \"lineLimit\": \"100\"\x7d"

/-- An option counts before an entry, an entry before the usual value, and nothing for nothing. -/
theorem settings_layers_tabWidth :
    (({} : Settings).override (Settings.fieldEntries
        [(.lineLimit, .int 100), (.tabWidth, .ofString "4")]) =
      .ok { lineLimit := 100, tabWidth := 4 }) ∧
    ∃ arguments request settings entries,
      checkAsked? ["check", "--config", "c.json", "--tab-width", "4", "a.php"] =
        some (arguments, request) ∧
      (besideTwoSettings.tree.prepare request).result = .ok settings ∧
      settings = { lineLimit := 100, tabWidth := 4 } ∧
      besideTwoSettings.tree.SettingsEntries request entries ∧
      (∀ setting : Setting, setting.Chosen arguments entries (settings.value setting)) ∧
      ∃ entries, besideTwoSettings.tree.SettingsEntries request entries ∧ ∀ setting : Setting,
        setting.Settles
          (((Settings.lastGiven? setting request.changes).filter Settings.isGiven).or
            (setting.lastNamed? entries))
          (({} : Settings).value setting) (settings.value setting) := by
  constructor
  · refine (settings_layers.1 {} { lineLimit := 100, tabWidth := 2 } _
      [(.lineLimit, .int 100), (.tabWidth, .int 2)]
      [(.lineLimit, .null), (.tabWidth, .ofString "4")]
      _ (by decide) (by decide) (by decide) (by decide) ?_
      (toOption_eq_some_iff.mp (by decide +kernel))
      (toOption_eq_some_iff.mp (by decide +kernel))).1
    rintro (_ | _ | _ | _ | _) <;> rfl
  · have run : ((checkAsked? ["check", "--config", "c.json", "--tab-width", "4", "a.php"]).bind
        fun asked => (besideTwoSettings.tree.prepare asked.2).result.toOption) =
          some { lineLimit := 100, tabWidth := 4 } := by
      decide +kernel
    obtain ⟨⟨arguments, request⟩, asks, prepared⟩ := Option.bind_eq_some_iff.mp run
    have prepared := toOption_eq_some_iff.mp prepared
    obtain ⟨-, settled, asked⟩ := settings_layers.2 _ _ _ prepared
    obtain ⟨-, entries, source, chosen⟩ := asked _ _ asks
    have distinct := CheckRequest.nodup_changes (ofArguments_of_checkAsked? asks)
    exact ⟨arguments, request, _, entries, asks, prepared, rfl, source, chosen, settled distinct⟩

/-- An object of numbers by name, as a settings file may have it. -/
def writtenMembers (members : List (String × Nat)) : String :=
  "\x7b" ++ String.intercalate ", " (members.map fun member =>
    "\"" ++ member.1 ++ "\": " ++ toString member.2) ++ "\x7d"

/-- Members with one name of a setting twice and its other name in between. -/
def repeatedName : List (String × Nat) :=
  [("lineLimit", 90), ("line_limit", 100), ("lineLimit", 110)]

/-- The last entry of a file does not count when its name stands in the file before: it has the
place of the first one, and the entry under the other name comes after it. -/
theorem settings_layers_repeated_name :
    (Setting.lineLimit.lastNamed? (repeatedName.map fun member =>
      (.ofString member.1, .int member.2))).bind Value.integer? = some 110 ∧
    ∃ arguments request, checkAsked? ["check", "--config", "c.json", "a.php"] =
        some (arguments, request) ∧
      ((besideSettings (writtenMembers repeatedName)).tree.prepare request).result =
        .ok { lineLimit := 100 } := by
  refine ⟨by decide +kernel, ?_⟩
  have run : ((checkAsked? ["check", "--config", "c.json", "a.php"]).bind fun asked =>
      ((besideSettings (writtenMembers repeatedName)).tree.prepare asked.2).result.toOption) =
        some { lineLimit := 100 } := by
    decide +kernel
  obtain ⟨⟨arguments, request⟩, asks, prepared⟩ := Option.bind_eq_some_iff.mp run
  exact ⟨arguments, request, asks, toOption_eq_some_iff.mp prepared⟩

end FileTree

end LineWidth
