import LineWidth.CommandLine.Survey
import LineWidth.Number.Fixed
import LineWidth.Value.JsonText

/-! # Output

A survey is told as text, a line for every diagnostic and a summary, or as one JSON document.
-/

namespace LineWidth

/-- A text padded on the right. -/
def padRight (width : Nat) (text : String) : String :=
  text ++ String.ofList (List.replicate (width - text.length) ' ')

/-- A text padded on the left. -/
def padLeft (width : Nat) (text : String) : String :=
  String.ofList (List.replicate (width - text.length) ' ') ++ text

/-- The line that tells of a diagnostic. -/
def Diagnostic.tell (path : String) (diagnostic : Diagnostic) : Except Breakdown String := do
  if Text.canWrite diagnostic.line && Text.canWrite diagnostic.column then
    let message ← diagnostic.message.mapError TemplateFault.breakdown
    if message.all fun point => point.isValidChar then
      return path ++ ":" ++ toString diagnostic.line ++ ":" ++ toString diagnostic.column ++ ": " ++
        diagnostic.severity.label ++ ": " ++ String.ofList (message.map Char.ofNat) ++
        " (" ++ diagnostic.code.label ++ ")"
    else .error .unencodableText
  else .error .unwritableNumber

/-- The lines that tell of diagnostics, behind those already told (last first), as far as they can
be told. -/
def tellOnto (told : List String) :
    List (String × Diagnostic) → List String × Option Breakdown
  | [] => (told.reverse, none)
  | (path, diagnostic) :: rest =>
    match diagnostic.tell path with
    | .ok line => tellOnto (line :: told) rest
    | .error breakdown => (told.reverse, some breakdown)

/-- What is told of a survey: output, errors beside it, and the breakdown that ended the telling, if
one did. -/
structure Account where
  output : String
  errors : String := ""
  breakdown : Option Breakdown := none

/-- The share of a count in percent; nothing measured counts as no share. -/
def shareText (count measured : Nat) : String :=
  if measured = 0 then "0.0" else (Binary64.percentage count measured).onePlace

namespace Survey

/-- The counts of all buckets over all reports; none without reports. -/
def bucketTotals (survey : Survey) : List (String × Nat) :=
  if survey.reports.isEmpty then []
  else
    Bucket.all.map fun bucket =>
      (bucket.label,
        (survey.reports.flatMap (·.observations)).countP (·.value == bucket.label))

/-- The distribution of line lengths. -/
def distribution (survey : Survey) : List String :=
  let totals := survey.bucketTotals
  let measured := totals.foldl (fun measured total => measured + total.2) 0
  "Line length:" :: totals.map fun (label, count) =>
    "  " ++ padRight 12 label ++ " " ++ padLeft 6 (toString count) ++ " [" ++
      padLeft 5 (shareText count measured) ++ "%]"

/-- The summary line. -/
def summary (survey : Survey) : String :=
  "Checked " ++ toString survey.reports.length ++ " file(s): " ++ toString survey.errorCount ++
    " error(s), " ++ toString survey.warningCount ++ " warning(s)"

/-- The diagnostics of all reports, each with the path of its report. -/
def diagnostics (survey : Survey) : List (String × Diagnostic) :=
  survey.reports.flatMap fun report => report.diagnostics.map (report.path, ·)

/-- The failures as told beside the text. -/
def failureText (survey : Survey) : String := unlines (survey.failures.map Failure.present)

/-- The survey told as text. -/
def text (survey : Survey) (metrics : Bool) : Account :=
  match tellOnto [] survey.diagnostics with
  | (lines, some breakdown) => { output := unlines lines, breakdown := some breakdown }
  | (lines, none) =>
    let distribution := if metrics then survey.distribution else []
    { output := unlines (lines ++ survey.summary :: distribution), errors := survey.failureText }

/-- The survey as a value, with the time when failures happened. -/
def toValue (survey : Survey) (settings : Settings) (time : String) : Value :=
  .fields
    [("config", .settings settings []), ("files", .list (survey.reports.map .report)),
      ("failures", .list (survey.failures.map fun failure => failure.toValue time)),
      ("totals", .fields
        [("files", .int survey.reports.length), ("errors", .int survey.errorCount),
          ("warnings", .int survey.warningCount)])]

/-- The survey told as a JSON document. -/
def json (survey : Survey) (settings : Settings) (time : String) : Account :=
  match (survey.toValue settings time).primitive with
  | .error fault => { output := "", breakdown := some fault.breakdown }
  | .ok value =>
    if Json.canWrite value then { output := Json.text value ++ "\n" }
    else { output := "", breakdown := some .unwritableNumber }

end Survey

end LineWidth
