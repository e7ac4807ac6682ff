/-! # Settings

The thresholds and switches of the line length rule. Limits are counted in columns; a hard limit of
zero switches the hard limit off.
-/

namespace LineWidth

/-- The five settings by name. -/
inductive Setting where
  | lineLimit
  | absoluteLineLimit
  | ignoreComments
  | ignoreUseLines
  | tabWidth
deriving DecidableEq, Repr

namespace Setting

/-- Every setting, in the order of the fields. -/
def all : List Setting :=
  [.lineLimit, .absoluteLineLimit, .ignoreComments, .ignoreUseLines, .tabWidth]

/-- The field name of a setting. -/
def field : Setting → String
  | .lineLimit => "line_limit"
  | .absoluteLineLimit => "absolute_line_limit"
  | .ignoreComments => "ignore_comments"
  | .ignoreUseLines => "ignore_use_statements_lines"
  | .tabWidth => "tab_width"

/-- The property name of a setting. -/
def property : Setting → String
  | .lineLimit => "lineLimit"
  | .absoluteLineLimit => "absoluteLineLimit"
  | .ignoreComments => "ignoreComments"
  | .ignoreUseLines => "ignoreUseStatementsLines"
  | .tabWidth => "tabWidth"

/-- Whether the setting is a switch rather than a number. -/
def isSwitch : Setting → Bool
  | .ignoreComments | .ignoreUseLines => true
  | _ => false

/-- The setting with a field name. -/
def ofField? (name : String) : Option Setting := all.find? (·.field == name)

/-- The setting with a property name. -/
def ofProperty? (name : String) : Option Setting := all.find? (·.property == name)

end Setting

/-- The five settings of the rule. -/
structure Settings where
  lineLimit : Nat := 80
  absoluteLineLimit : Nat := 80
  ignoreComments : Bool := false
  ignoreUseLines : Bool := true
  tabWidth : Nat := 0
deriving DecidableEq, Repr

namespace Settings

/-- Settings are valid when the soft limit admits some line. -/
def Valid (settings : Settings) : Prop := 1 ≤ settings.lineLimit

instance (settings : Settings) : Decidable settings.Valid :=
  inferInstanceAs (Decidable (1 ≤ settings.lineLimit))

/-- Whether the hard limit is in force. -/
def hardLimitEnabled (settings : Settings) : Bool := 0 < settings.absoluteLineLimit

/-- A truth value as messages write it. -/
def truthText (b : Bool) : String := if b then "True" else "False"

/-- The text of one setting. -/
def text (settings : Settings) : Setting → String
  | .lineLimit => toString settings.lineLimit
  | .absoluteLineLimit => toString settings.absoluteLineLimit
  | .ignoreComments => truthText settings.ignoreComments
  | .ignoreUseLines => truthText settings.ignoreUseLines
  | .tabWidth => toString settings.tabWidth

/-- A one-line description, given the text of each setting. -/
def describeWith (text : Setting → String) : String :=
  "LineLengthConfig(" ++
    String.intercalate ", " (Setting.all.map fun setting => setting.field ++ "=" ++ text setting) ++
    ")"

/-- A one-line description. -/
def describe (settings : Settings) : String := describeWith settings.text

end Settings

end LineWidth
