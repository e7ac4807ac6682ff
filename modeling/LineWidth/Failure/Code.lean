/-! # Codes, severities and suggested actions of failures -/

namespace LineWidth

/-- The number that classifies a failure. -/
inductive FailureCode where
  | fileReadFailed
  | tokenStreamInvalid
  | invalidConfig
  | validationFailed
deriving DecidableEq, Repr

namespace FailureCode

/-- Every code. -/
def all : List FailureCode :=
  [.fileReadFailed, .tokenStreamInvalid, .invalidConfig, .validationFailed]

/-- The number of a code. -/
def number : FailureCode → Nat
  | .fileReadFailed => 2002
  | .tokenStreamInvalid => 3001
  | .invalidConfig => 4001
  | .validationFailed => 6003

/-- The name of a code. -/
def name : FailureCode → String
  | .fileReadFailed => "FILE_READ_FAILED"
  | .tokenStreamInvalid => "TOKEN_STREAM_INVALID"
  | .invalidConfig => "INVALID_CONFIG"
  | .validationFailed => "VALIDATION_FAILED"

end FailureCode

/-- How serious a failure is. -/
inductive FailureSeverity where
  | medium
  | high
  | critical
deriving DecidableEq, Repr

namespace FailureSeverity

/-- Every severity. -/
def all : List FailureSeverity := [.medium, .high, .critical]

/-- The label of a severity. -/
def label : FailureSeverity → String
  | .medium => "medium"
  | .high => "high"
  | .critical => "critical"

/-- The name of a severity. -/
def name : FailureSeverity → String
  | .medium => "MEDIUM"
  | .high => "HIGH"
  | .critical => "CRITICAL"

end FailureSeverity

/-- Something the user may do about a failure, with a command that does it. -/
structure Action where
  description : String
  command : Option String := none
deriving DecidableEq, Repr

end LineWidth
