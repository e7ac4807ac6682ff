import LineWidth.Number.Shortest
import LineWidth.Value.Basic

/-! # Descriptions of values

Messages show a value as it would be written down: texts in quotes, lists in brackets, mappings in
braces, and the program's own records with their fields.
-/

namespace LineWidth

/-- The name of a member within its enumeration, the enumeration first. -/
def Member.name : Member → String
  | .severity .warning => "Severity.WARNING"
  | .severity .error => "Severity.ERROR"
  | .diagnosticCode .tooLong => "DiagnosticCode.TOO_LONG"
  | .diagnosticCode .maxExceeded => "DiagnosticCode.MAX_EXCEEDED"
  | .tokenKind kind => "TokenKind." ++ kind.name
  | .failureCode code => "ErrorCode." ++ code.name
  | .failureSeverity s => "ErrorSeverity." ++ s.name

/-- A member with its name and what it stands for. -/
def Member.describe (member : Member) : String :=
  let stands := match member.text? with
    | some text => Text.quoted text.toList
    | none => member.number?.elim "" toString
  "<" ++ member.name ++ ": " ++ stands ++ ">"

/-- A string in quotes. -/
def Text.quotedString (text : String) : String := Text.quoted text.toList

/-- A type with its name. -/
def NamedType.describe (type : NamedType) : String :=
  if type.isEnumeration then "<enum " ++ Text.quotedString type.name ++ ">"
  else "<class '" ++ type.name ++ "'>"

/-- A diagnostic with its fields. -/
def Diagnostic.describe (d : Diagnostic) : String :=
  "Diagnostic(severity=" ++ (Member.severity d.severity).describe ++
    ", code=" ++ (Member.diagnosticCode d.code).describe ++
    ", anchor=" ++ toString d.anchor ++ ", line=" ++ toString d.line ++
    ", column=" ++ toString d.column ++ ", template=" ++ Text.quotedString d.template ++
    ", data=(" ++ toString d.limit ++ ", " ++ toString d.length ++ "))"

/-- An observation with its fields. -/
def Observation.describe (o : Observation) : String :=
  "MetricObservation(anchor=" ++ toString o.anchor ++ ", line=" ++ toString o.line ++
    ", value=" ++ Text.quotedString o.value ++ ", name=" ++ Text.quotedString o.name ++ ")"

/-- A record with its fields. -/
def Record.describe : Record → String
  | .diagnostic d => d.describe
  | .observation o => o.describe

/-- A report with its fields. -/
def Report.describe (report : Report) : String :=
  "FileReport(path=" ++ Text.quotedString report.path ++ ", records=[" ++
    String.intercalate ", " (report.records.map Record.describe) ++ "])"

/-- An action with its fields. -/
def Action.describe (action : Action) : String :=
  "RecoveryAction(description=" ++ Text.quotedString action.description ++
    ", command=" ++ action.command.elim "None" Text.quotedString ++ ")"

/-- Settings with their fields, failure codes among them as members. -/
def Settings.describeCodes (settings : Settings) (codes : List (Setting × FailureCode)) : String :=
  describeWith fun setting =>
    match codes.lookup setting with
    | some code => (Member.failureCode code).describe
    | none => settings.text setting

namespace Value

mutual

/-- A value as messages show it. -/
def describe : Value → String
  | .null => "None"
  | .bool truth => Settings.truthText truth
  | .int number => toString number
  | .float number => number.text
  | .text chars => Text.quoted chars
  | .unpaired points => String.ofList (Text.quotePoints points)
  | .bytes data => Text.quotedBytes data
  | .path p => "PosixPath(" ++ Text.quotedString p.text ++ ")"
  | .moment m => m.describe
  | .member m => m.describe
  | .type t => t.describe
  | .list items => "[" ++ String.intercalate ", " (describeAll items) ++ "]"
  | .tuple [] => "()"
  | .tuple [item] => "(" ++ item.describe ++ ",)"
  | .tuple (first :: second :: rest) =>
    "(" ++ String.intercalate ", " (first.describe :: second.describe :: describeAll rest) ++ ")"
  | .dict entries => "\x7b" ++ String.intercalate ", " (describeEntries entries) ++ "\x7d"
  | .token t => t.describe
  | .record r => r.describe
  | .report r => r.describe
  | .settings s codes => s.describeCodes codes
  | .action a => a.describe

/-- Every item as messages show it. -/
def describeAll : List Value → List String
  | [] => []
  | item :: rest => item.describe :: describeAll rest

/-- Every entry as messages show it. -/
def describeEntries : List (Value × Value) → List String
  | [] => []
  | (key, value) :: rest => (key.describe ++ ": " ++ value.describe) :: describeEntries rest

end

end Value

end LineWidth
