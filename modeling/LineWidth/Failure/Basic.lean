import LineWidth.Value.Primitive

/-! # Failures

A failure is what the program tells its user when it cannot do its work: an internal message, a
message for the user, where it happened and what may help. Some conditions have no such
presentation; they are breakdowns, and end the program.
-/

namespace LineWidth

/-- The family that a failure belongs to, which decides its code, its severity and the user message
that stands in for a missing one. -/
inductive FailureCategory where
  | general
  | configuration
  | validation
  | resource
  | tokenStream
deriving DecidableEq, Repr

namespace FailureCategory

/-- The name of a category in reports. -/
def name : FailureCategory → String
  | .general => "LineGaugeError"
  | .configuration => "ConfigurationError"
  | .validation => "ValidationError"
  | .resource => "ResourceError"
  | .tokenStream => "TokenStreamError"

/-- The code of a category; general failures bring their own. -/
def code : FailureCategory → FailureCode
  | .general | .configuration => .invalidConfig
  | .validation => .validationFailed
  | .resource => .fileReadFailed
  | .tokenStream => .tokenStreamInvalid

/-- The severity of a category; general failures bring their own. -/
def severity : FailureCategory → FailureSeverity
  | .configuration => .high
  | .tokenStream => .critical
  | .general | .validation | .resource => .medium

/-- The user message of a failure that brings none. -/
def userMessage : FailureCategory → String
  | .general => ""
  | .configuration => "Configuration error occurred."
  | .validation => "Validation failed."
  | .resource => "Could not read source file."
  | .tokenStream => "Malformed token stream."

end FailureCategory

/-- Where a failure happened. -/
structure FailureContext where
  operation : Option String := none
  filePath : Option String := none
  component : Option String := none
  info : Value := .dict []
deriving Repr

/-- A failure as the program presents it. -/
structure Failure where
  category : FailureCategory
  code : FailureCode
  severity : FailureSeverity
  message : String
  userMessage : String
  context : FailureContext := {}
  actions : List Action := []
  cause : Option String := none
deriving Repr

namespace Failure

/-- A failure of a category; an empty user message counts as missing. -/
def ofCategory (category : FailureCategory) (message userMessage : String) : Failure :=
  { category, code := category.code, severity := category.severity, message
    userMessage := if userMessage.isEmpty then category.userMessage else userMessage }

/-- A line that names a part of the context, unless that part is missing or empty. -/
def contextLine (label : String) : Option String → List String
  | none => []
  | some text => if text.isEmpty then [] else ["   " ++ label ++ ": " ++ text]

/-- The lines of suggested actions, numbered from `number` on. -/
def actionLines (number : Nat) : List Action → List String
  | [] => []
  | action :: rest =>
    ("   " ++ toString number ++ ". " ++ action.description) ::
      (contextLine "   Run" action.command ++ actionLines (number + 1) rest)

/-- The failure as shown to the user. -/
def present (failure : Failure) : String :=
  let context := failure.context
  String.intercalate "\n"
    (["[Error] " ++ failure.userMessage, "   Code: " ++ toString failure.code.number] ++
      contextLine "Operation" context.operation ++ contextLine "File" context.filePath ++
      contextLine "Component" context.component ++
      if failure.actions.isEmpty then []
      else ["", "Suggested actions:"] ++ actionLines 1 failure.actions)

/-- The failure as a mapping, with the time when it happened. -/
def toValue (failure : Failure) (time : String) : Value :=
  let context := failure.context
  .fields
    [("name", .ofString failure.category.name), ("code", .int failure.code.number),
      ("message", .ofString failure.message), ("user_message", .ofString failure.userMessage),
      ("severity", .ofString failure.severity.label),
      ("context", .fields
        [("operation", .ofString? context.operation), ("file_path", .ofString? context.filePath),
          ("component", .ofString? context.component), ("timestamp", .ofString time),
          ("additional_info", context.info)]),
      ("recovery_actions", .list (failure.actions.map Action.toValue)),
      ("original_error", .ofString? failure.cause)]

end Failure

/-- A condition that the program has no message for. -/
inductive Breakdown where
  | unusableKey
  | unusablePath
  | overlongName
  | accessDenied
  | undecodableText
  | unencodableText
  | tooManyDigits
  | unwritableNumber
  | tooDeep
  | badTemplate (fault : TemplateFault)
  | malformedPattern
  | absolutePattern
  | dotPattern
  | dotDirectoryPattern
deriving DecidableEq, Repr

/-- Why an operation gave no result. -/
inductive Stop where
  | failure (failure : Failure)
  | breakdown (breakdown : Breakdown)
deriving Repr

namespace Breakdown

/-- The name that a breakdown is told by. -/
def name : Breakdown → String
  | .unusableKey => "TypeError"
  | .unusablePath | .tooManyDigits | .unwritableNumber | .malformedPattern => "ValueError"
  | .overlongName => "OSError"
  | .accessDenied => "PermissionError"
  | .undecodableText => "UnicodeDecodeError"
  | .unencodableText => "UnicodeEncodeError"
  | .tooDeep => "RecursionError"
  | .badTemplate fault =>
    match fault.kind with
    | .mismatch => "TypeError"
    | .malformed => "ValueError"
    | .range => "OverflowError"
  | .absolutePattern => "NotImplementedError"
  | .dotPattern => "IndexError"
  | .dotDirectoryPattern => "AttributeError"

/-- What is told beside the name of a breakdown that comes from a text that could not be written. -/
def message? : Breakdown → Option String
  | .unwritableNumber => some Text.unwritableMessage
  | .badTemplate fault => fault.message?
  | _ => none

end Breakdown

/-- How a template that cannot be filled ends the program. -/
def TemplateFault.breakdown (fault : TemplateFault) : Breakdown := .badTemplate fault

/-- How a value without a primitive form ends the program. -/
def PrimitiveFault.breakdown : PrimitiveFault → Breakdown
  | .unusableKey => .unusableKey
  | .template fault => fault.breakdown

/-- A broken stream as a failure. -/
def StreamFault.failure : StreamFault → Failure
  | .emptyLineEnd => .ofCategory .tokenStream "eol_char must not be empty" ""
  | .indexOutOfRange index size =>
    { Failure.ofCategory .tokenStream
        ("token index " ++ toString index ++ " out of range for stream of " ++ toString size ++
          " tokens") "" with
      context :=
        { operation := some "token_access"
          info := .fields [("index", .int index), ("size", .int size)] } }
  | .negativeBound start bound =>
    { Failure.ofCategory .tokenStream ("search bound " ++ toString bound ++ " is negative") "" with
      context :=
        { operation := some "find_previous"
          info := .fields [("start", .int start), ("end", .int bound)] } }

/-- How a broken stream ends an operation. The integer that a failure tells of has to be written. -/
def StreamFault.stop (fault : StreamFault) : Stop :=
  let writable := match fault with
    | .emptyLineEnd => true
    | .indexOutOfRange index _ => Text.canWrite index
    | .negativeBound _ bound => Text.canWrite bound
  if writable then .failure fault.failure else .breakdown .unwritableNumber

end LineWidth
