import LineWidth.Failure.Basic
import LineWidth.Text.Integer

/-! # Settings from mappings

A mapping may name a setting by its field name or by the property name that configuration files use,
and may give it as a text. What a mapping says goes through three stages, and the first fault found
wins: unknown names, then texts that cannot be read, then values of the wrong type or range, setting
by setting. Nothing stands for "not given". Names are compared by code points, since an escape can
spell a name that no `String` holds.
-/

namespace LineWidth

/-- What can be wrong with a mapping of settings. -/
inductive SettingsFault where
  | unusableKey
  | unknownNames (names : List (List Nat))
  | unreadableSwitch (setting : Setting) (value : Value)
  | unreadableInteger (setting : Setting) (value : Value) (cause : Text.IntegerFault)
  | notInteger (setting : Setting) (value : Value)
  | negative (setting : Setting) (number : Int)
  | lineLimitTooSmall
  | notSwitch (setting : Setting) (value : Value)
deriving Repr

/-- The properties of the settings, sorted by name. -/
def propertyList : String :=
  String.intercalate ", "
    ["absoluteLineLimit", "ignoreComments", "ignoreUseStatementsLines", "lineLimit", "tabWidth"]

/-- How a fault ends the reading of settings. -/
def SettingsFault.stop : SettingsFault → Stop
  | .unusableKey => .breakdown .unusableKey
  | .unknownNames names =>
    let list := String.intercalate ", " (names.map Text.shown)
    .failure
      { Failure.ofCategory .configuration ("Unknown line length option(s): " ++ list)
          ("Unknown option(s): " ++ list) with
        actions := [⟨"Use one of: " ++ propertyList, none⟩] }
  | .unreadableSwitch setting value =>
    .failure (.ofCategory .configuration
      (setting.field ++ " expects a boolean, got " ++ value.describe)
      ("Invalid value for " ++ setting.field ++ ": " ++ value.describe))
  | .unreadableInteger setting value cause =>
    .failure
      { Failure.ofCategory .configuration
          (setting.field ++ " expects an integer, got " ++ value.describe)
          ("Invalid value for " ++ setting.field ++ ": " ++ value.describe) with
        cause := some cause.message }
  | .notInteger setting value =>
    .failure (.ofCategory .configuration
      (setting.field ++ " must be an integer, got " ++ value.describe)
      ("Invalid value for " ++ setting.field ++ ": " ++ value.describe))
  | .negative setting number =>
    .failure (.ofCategory .configuration
      (setting.field ++ " must be non-negative, got " ++ toString number)
      (setting.field ++ " cannot be negative."))
  | .lineLimitTooSmall =>
    .failure (.ofCategory .configuration "line_limit must be at least 1"
      "line_limit must be at least 1.")
  | .notSwitch setting value =>
    .failure (.ofCategory .configuration
      (setting.field ++ " must be a boolean, got " ++ value.describe)
      ("Invalid value for " ++ setting.field ++ "."))

namespace Settings

/-- The value of a setting. -/
def value (settings : Settings) : Setting → Value
  | .lineLimit => .int settings.lineLimit
  | .absoluteLineLimit => .int settings.absoluteLineLimit
  | .ignoreComments => .bool settings.ignoreComments
  | .ignoreUseLines => .bool settings.ignoreUseLines
  | .tabWidth => .int settings.tabWidth

/-- The natural number that a setting is given as. -/
def natural (setting : Setting) (given : Value) : Except SettingsFault Nat :=
  match given.integer? with
  | none => .error (.notInteger setting given)
  | some number => if number < 0 then .error (.negative setting number) else .ok number.toNat

/-- The truth value that a setting is given as. -/
def switch (setting : Setting) (given : Value) : Except SettingsFault Bool :=
  match given with
  | .bool truth => .ok truth
  | _ => .error (.notSwitch setting given)

/-- The settings with given values: first the numbers, then the switches. -/
def ofValues (given : Setting → Value) : Except SettingsFault Settings := do
  let lineLimit ← natural .lineLimit (given .lineLimit)
  let absoluteLineLimit ← natural .absoluteLineLimit (given .absoluteLineLimit)
  let tabWidth ← natural .tabWidth (given .tabWidth)
  if lineLimit < 1 then
    .error .lineLimitTooSmall
  else
    let ignoreComments ← switch .ignoreComments (given .ignoreComments)
    let ignoreUseLines ← switch .ignoreUseLines (given .ignoreUseLines)
    return { lineLimit, absoluteLineLimit, ignoreComments, ignoreUseLines, tabWidth }

/-- Read a text that stands for a switch. -/
def readSwitch? (text : List Char) : Option Bool :=
  let word := String.ofList (Text.lower (Text.strip text))
  if ["true", "1", "yes", "on"].contains word then some true
  else if ["false", "0", "no", "off"].contains word then some false
  else none

/-- Read a value that is given as a text; other values stand as they are. -/
def coerce (setting : Setting) (given : Value) : Except SettingsFault Value :=
  match given.chars?, given with
  | some chars, _ =>
    if setting.isSwitch then
      match readSwitch? chars with
      | some truth => .ok (.bool truth)
      | none => .error (.unreadableSwitch setting given)
    else
      match Text.readInteger (Text.strip chars) with
      | .ok number => .ok (.int number)
      | .error cause => .error (.unreadableInteger setting given cause)
  | none, .unpaired points =>
    if setting.isSwitch then .error (.unreadableSwitch setting given)
    else .error (.unreadableInteger setting given (.unpaired (Text.stripPoints points)))
  | none, _ => .ok given

/-- The last value given for a setting. -/
def lastGiven? (setting : Setting) (changes : List (Setting × Value)) : Option Value :=
  (changes.reverse.find? (·.1 == setting)).map (·.2)

/-- Whether a key can be a name: it has to be a text, and `self` is no name. -/
def isName (key : Value) : Bool := key.points?.any (· != "self".toList.map Char.toNat)

/-- The setting that a key names by its field name. -/
def named? (key : Value) : Option Setting :=
  key.chars?.bind fun chars => Setting.ofField? (String.ofList chars)

/-- Insert into a sorted list without repetition. -/
def insertName (name : List Nat) : List (List Nat) → List (List Nat)
  | [] => [name]
  | known :: rest =>
    if name < known then name :: known :: rest
    else if name == known then known :: rest
    else known :: insertName name rest

/-- The names that are no field name, sorted. -/
def unknownNames (entries : List (Value × Value)) : List (List Nat) :=
  ((entries.filter fun entry => (named? entry.1).isNone).filterMap (·.1.points?)).foldl
    (fun names name => insertName name names) []

/-- Changes as entries by field name. -/
def fieldEntries (changes : List (Setting × Value)) : List (Value × Value) :=
  changes.map fun (setting, given) => (.ofString setting.field, given)

/-- The settings that a mapping names by field, with what it gives them. -/
def changesOf (entries : List (Value × Value)) : List (Setting × Value) :=
  entries.filterMap fun (key, given) => (named? key).map (·, given)

/-- Replace settings by values as they are given. -/
def replace (settings : Settings) (changes : List (Setting × Value)) :
    Except SettingsFault Settings :=
  ofValues fun setting => (lastGiven? setting changes).getD (settings.value setting)

/-- Whether a value says anything. -/
def isGiven : Value → Bool
  | .null => false
  | _ => true

/-- The changes that say anything, with their values read. -/
def readChanges (changes : List (Setting × Value)) :
    Except SettingsFault (List (Setting × Value)) :=
  (changes.filter fun change => isGiven change.2).mapM fun (setting, given) =>
    return (setting, ← coerce setting given)

/-- Replace settings by given values. Texts are read, and nothing leaves a setting as it is. -/
def change (settings : Settings) (changes : List (Setting × Value)) :
    Except SettingsFault Settings := do
  settings.replace (← readChanges changes)

/-- Replace the settings that a mapping names by field, which is to have no other entries. -/
def override (settings : Settings) (entries : List (Value × Value)) :
    Except SettingsFault Settings :=
  if entries.all fun entry => isName entry.1 then
    match unknownNames entries with
    | [] => settings.change (changesOf entries)
    | unknown => .error (.unknownNames unknown)
  else .error .unusableKey

/-- The key that stands for a setting by its field name; other keys stand for themselves. -/
def normalKey (key : Value) : Value :=
  match key.chars? with
  | none => key
  | some chars =>
    match Setting.ofProperty? (String.ofList chars) with
    | none => key
    | some setting => .ofString setting.field

/-- Field names in place of property names. Of two entries that come to name one setting the later
one counts, in the place of the earlier one. -/
def normalize (entries : List (Value × Value)) : List (Value × Value) :=
  Value.entriesOf (entries.map fun (key, given) => (normalKey key, given))

/-- The settings that a mapping describes, by field or by property name; the others are the usual
ones. -/
def ofMapping (entries : List (Value × Value)) : Except SettingsFault Settings :=
  ({} : Settings).override (normalize entries)

/-- The settings with exactly the given values, by field name and with no text read. -/
def ofFields (entries : List (Value × Value)) : Except SettingsFault Settings :=
  if entries.all fun entry => (named? entry.1).isSome then
    ({} : Settings).replace (changesOf entries)
  else .error .unusableKey

/-- The settings that a mapping gives as failure codes, which count as their numbers. -/
def codesIn (entries : List (Value × Value)) : List (Setting × FailureCode) :=
  entries.filterMap fun
    | (key, .member (.failureCode code)) => (named? key).map (·, code)
    | _ => none

end Settings

/-- The settings with exactly the given values, as a value. -/
def Value.ofSettings (entries : List (Value × Value)) : Except SettingsFault Value := do
  return .settings (← Settings.ofFields entries) (Settings.codesIn entries)

end LineWidth
