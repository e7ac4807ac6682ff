import LineWidth.Report.Rule

/-! # Reports

A report holds the records of one file. Its counts are read off the records.
-/

namespace LineWidth

/-- The records of one file, in order. -/
structure Report where
  path : String
  records : List Record := []
deriving DecidableEq, Repr

namespace Report

/-- Add records at the end. -/
def extend (report : Report) (records : List Record) : Report :=
  { report with records := report.records ++ records }

/-- The diagnostics, in order. -/
def diagnostics (report : Report) : List Diagnostic :=
  report.records.filterMap fun
    | .diagnostic diagnostic => some diagnostic
    | .observation _ => none

/-- The observations, in order. -/
def observations (report : Report) : List Observation :=
  report.records.filterMap fun
    | .observation observation => some observation
    | .diagnostic _ => none

/-- The diagnostics that are errors. -/
def errors (report : Report) : List Diagnostic := report.diagnostics.filter (·.severity == .error)

/-- The diagnostics that are warnings. -/
def warnings (report : Report) : List Diagnostic :=
  report.diagnostics.filter (·.severity == .warning)

/-- Whether anything was diagnosed. -/
def hasIssues (report : Report) : Bool := !report.diagnostics.isEmpty

/-- The number of observed lines in each bucket, shortest lines first. -/
def bucketCounts (report : Report) : List (String × Nat) :=
  Bucket.all.map fun bucket => (bucket.label, report.observations.countP (·.value == bucket.label))

end Report

/-- The report on a stream that goes by the name `path`. -/
def TokenStream.report (stream : TokenStream) (settings : Settings) (path : String) :
    Except StreamFault Report := do
  let records ← stream.analyze settings
  return { path, records }

/-- The report on a source. -/
def Report.ofSource (source : List Char) (settings : Settings) (path : String) :
    Except StreamFault Report :=
  (TokenStream.ofSource source settings.tabWidth).report settings path

end LineWidth
