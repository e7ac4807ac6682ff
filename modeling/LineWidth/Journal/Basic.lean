import LineWidth.FileTree.Path
import LineWidth.Settings.Basic
import LineWidth.Text.Integer

/-! # The journal

Operations note what they did as entries. An entry is data; its level, its origin and its wording
are read off it, and the level alone decides whether it is shown.
-/

namespace LineWidth

/-- How important an entry is. -/
inductive Level where
  | debug
  | warning
deriving DecidableEq, Repr

/-- The name of a level. -/
def Level.name : Level → String
  | .debug => "DEBUG"
  | .warning => "WARNING"

/-- Something that an operation did. -/
inductive Entry where
  | tokenized (count : Nat) (lineEnd : List Char) (tabWidth : Nat)
  | analyzed (records tokens : Nat)
  | checked (path : String) (errors warnings measured : Nat)
  | settingsLoaded (path : Path) (settings : Settings)
  | pathMissing (path : Path)
  | oversizedSkipped (path : Path)
  | sourceUnreadable (message : String)
deriving DecidableEq, Repr

namespace Entry

/-- The level of an entry. -/
def level : Entry → Level
  | .pathMissing _ | .sourceUnreadable _ => .warning
  | _ => .debug

/-- The part of the program that an entry comes from. -/
def origin : Entry → String
  | .tokenized .. => "linegauge.tokens.lexer:tokenize"
  | .analyzed .. => "linegauge.analysis.line_length:analyze"
  | .checked .. => "linegauge.analysis.report:check_source"
  | .settingsLoaded .. => "linegauge.analysis.config:load_config"
  | .pathMissing _ | .oversizedSkipped _ => "linegauge.analysis.report:discover_files"
  | .sourceUnreadable _ => "linegauge.cli.main:check"

/-- The wording of an entry. -/
def message : Entry → String
  | .tokenized count lineEnd tabWidth =>
    "Tokenized " ++ toString count ++ " tokens (eol=" ++ Text.quoted lineEnd ++ ", tab_width=" ++
      toString tabWidth ++ ")"
  | .analyzed records tokens =>
    "Line length rule produced " ++ toString records ++ " records for " ++ toString tokens ++
      " tokens"
  | .checked path errors warnings measured =>
    path ++ ": " ++ toString errors ++ " error(s), " ++ toString warnings ++
      " warning(s) over " ++ toString measured ++ " measured lines"
  | .settingsLoaded path settings => "Loaded config from " ++ path.text ++ ": " ++ settings.describe
  | .pathMissing path => "Path does not exist: " ++ path.text
  | .oversizedSkipped path => "Skipping oversized file: " ++ path.text
  | .sourceUnreadable message => message

/-- Whether the settings that an entry tells can be written; counts are always short. An entry is
worded whether or not it is shown. -/
def canTell : Entry → Bool
  | .tokenized _ _ tabWidth => Text.canWrite tabWidth
  | .settingsLoaded _ settings =>
    [settings.lineLimit, settings.absoluteLineLimit, settings.tabWidth].all
      fun number => Text.canWrite number
  | _ => true

/-- Whether an entry is shown. -/
def isShown (debug : Bool) (entry : Entry) : Bool := debug || entry.level == .warning

/-- An entry as a line, at a time of day. -/
def line (time : String) (entry : Entry) : String :=
  let level := entry.level.name
  let padding := String.ofList (List.replicate (8 - level.length) ' ')
  time ++ " | " ++ level ++ padding ++ " | " ++ entry.origin ++ " - " ++ entry.message ++ "\n"

end Entry

/-- Whether a setting of the environment asks for all entries. The word has no letter that other
alphabets lower to, so lowering ASCII letters decides. -/
def debugRequested (setting : Option String) : Bool :=
  setting.any fun text => Text.lower text.toList == "true".toList

end LineWidth
