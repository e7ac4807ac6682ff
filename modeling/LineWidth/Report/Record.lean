import LineWidth.Text.Template

/-! # Records

The rule says two kinds of things about a line: an observation of the bucket that its length falls
into, and a diagnostic when it is too long. Both are anchored to a token by its index.
-/

namespace LineWidth

/-- The ranges of line lengths that are counted, shortest first. -/
inductive Bucket where
  | upTo80
  | upTo120
  | upTo150
  | beyond
deriving DecidableEq, Repr

namespace Bucket

/-- Every bucket, shortest lines first. -/
def all : List Bucket := [.upTo80, .upTo120, .upTo150, .beyond]

/-- The label of a bucket. -/
def label : Bucket → String
  | .upTo80 => "80 or less"
  | .upTo120 => "81-120"
  | .upTo150 => "121-150"
  | .beyond => "151 or more"

/-- The bucket of a length, upper bounds inclusive. -/
def ofLength (length : Int) : Bucket :=
  if length ≤ 80 then .upTo80
  else if length ≤ 120 then .upTo120
  else if length ≤ 150 then .upTo150
  else .beyond

end Bucket

/-- How serious a diagnostic is. -/
inductive Severity where
  | warning
  | error
deriving DecidableEq, Repr

/-- Every severity. -/
def Severity.all : List Severity := [.warning, .error]

/-- The label of a severity. -/
def Severity.label : Severity → String
  | .warning => "warning"
  | .error => "error"

/-- The two verdicts on a line. -/
inductive DiagnosticCode where
  | tooLong
  | maxExceeded
deriving DecidableEq, Repr

/-- Every code. -/
def DiagnosticCode.all : List DiagnosticCode := [.tooLong, .maxExceeded]

/-- The label of a code. -/
def DiagnosticCode.label : DiagnosticCode → String
  | .tooLong => "TooLong"
  | .maxExceeded => "MaxExceeded"

/-- A verdict on one line. The template should have a place for the limit and one for the length. -/
structure Diagnostic where
  severity : Severity
  code : DiagnosticCode
  anchor : Int
  line : Int
  column : Int
  template : String
  limit : Int
  length : Int
deriving DecidableEq, Repr

/-- The message of a diagnostic, as code points: its template filled with its two numbers. -/
def Diagnostic.message (diagnostic : Diagnostic) : Except TemplateFault (List Nat) :=
  fillTemplate diagnostic.template.toList [diagnostic.limit, diagnostic.length]

/-- The bucket that a measured line falls into. -/
structure Observation where
  anchor : Int
  line : Int
  value : String
  name : String := "Line length"
deriving DecidableEq, Repr

/-- What the rule says about a line. -/
inductive Record where
  | observation (observation : Observation)
  | diagnostic (diagnostic : Diagnostic)
deriving DecidableEq, Repr

namespace Diagnostic

/-- The warning for a line above the soft limit. -/
def tooLong (anchor line column limit length : Int) : Diagnostic :=
  { severity := .warning, code := .tooLong, anchor, line, column, limit, length
    template := "Line exceeds %s characters; has %s characters" }

/-- The error for a line above the hard limit. -/
def maxExceeded (anchor line column limit length : Int) : Diagnostic :=
  { severity := .error, code := .maxExceeded, anchor, line, column, limit, length
    template := "Line exceeds limit of %s characters; has %s characters" }

end Diagnostic

end LineWidth
