import LineWidth.CommandLine.Usage
import LineWidth.Settings.Mapping

/-! # The options of the commands

The options of the `check` command are read in the order in which they first occur, each with the
value that it was given last, and the paths come after them. The first fault found is the one told.
-/

namespace LineWidth

/-- The options of the program. -/
inductive ProgramOption where
  | version
  | debug
  | help
deriving DecidableEq, Repr

/-- The spellings of the program's options. -/
def programSpellings : List (Spelling ProgramOption) :=
  [⟨"--version", .version, .switch true⟩, ⟨"--debug", .debug, .switch true⟩,
    ⟨"--help", .help, .switch true⟩]

/-- The options of the `check` command. -/
inductive CheckOption where
  | setting (setting : Setting)
  | config
  | format
  | metrics
  | help
deriving DecidableEq, Repr

/-- The spellings of the options of the `check` command. -/
def checkSpellings : List (Spelling CheckOption) :=
  [⟨"--line-limit", .setting .lineLimit, .value⟩,
    ⟨"--absolute-line-limit", .setting .absoluteLineLimit, .value⟩,
    ⟨"--ignore-comments", .setting .ignoreComments, .switch true⟩,
    ⟨"--no-ignore-comments", .setting .ignoreComments, .switch false⟩,
    ⟨"--ignore-use-statements", .setting .ignoreUseLines, .switch true⟩,
    ⟨"--no-ignore-use-statements", .setting .ignoreUseLines, .switch false⟩,
    ⟨"--tab-width", .setting .tabWidth, .value⟩,
    ⟨"--config", .config, .value⟩,
    ⟨"--format", .format, .value⟩,
    ⟨"--metrics", .metrics, .switch true⟩,
    ⟨"--help", .help, .switch true⟩]

/-- The forms of the report. -/
inductive Format where
  | text
  | json
deriving DecidableEq, Repr

/-- The format with a name. -/
def Format.ofName? (name : String) : Option Format :=
  if name == "text" then some .text else if name == "json" then some .json else none

/-- What the `check` command is asked to do. -/
structure CheckRequest where
  changes : List (Setting × Value) := []
  config : Option Path := none
  format : Format := .text
  metrics : Bool := false
  paths : List Path := []
deriving Repr

/-- Why a command line asks for nothing that can be done. -/
inductive RequestFault where
  | usage (fault : UsageFault)
  | breakdown (breakdown : Breakdown)
deriving Repr

/-- The option that gives a number, and the least number it may give. -/
def numberOption : Setting → String × Nat
  | .lineLimit => ("--line-limit", 1)
  | .absoluteLineLimit => ("--absolute-line-limit", 0)
  | _ => ("--tab-width", 0)

/-- Read a path argument. -/
def readPath (text : String) : Except RequestFault Path :=
  if text.toList.contains '\x00' then .error (.breakdown .unusablePath) else .ok (Path.parse text)

/-- Read a number that is given to a setting. -/
def readNumber (setting : Setting) (text : String) : Except RequestFault Int :=
  let (name, least) := numberOption setting
  match Text.readInteger text.toList with
  | .error _ => .error (.usage (.notInteger name text))
  | .ok number =>
    if number < least then .error (.usage (.outOfRange name number least)) else .ok number

namespace CheckRequest

/-- Add what one option asks for. -/
def add (request : CheckRequest) : CheckOption × Given → Except RequestFault CheckRequest
  | (.setting setting, .value text) => do
    let number ← readNumber setting text
    return { request with changes := request.changes ++ [(setting, .int number)] }
  | (.setting setting, .switch truth) =>
    .ok { request with changes := request.changes ++ [(setting, .bool truth)] }
  | (.config, .value text) => do return { request with config := some (← readPath text) }
  | (.format, .value text) =>
    match Format.ofName? text with
    | some format => .ok { request with format }
    | none => .error (.usage (.unknownFormat text))
  | (.metrics, _) => .ok { request with metrics := true }
  | _ => .ok request

/-- What the arguments of the `check` command ask for. -/
def ofArguments (arguments : Arguments CheckOption) : Except RequestFault CheckRequest := do
  let request ← arguments.settled.foldlM add {}
  if arguments.others.isEmpty then .error (.usage .pathsMissing)
  else return { request with paths := ← arguments.others.mapM readPath }

end CheckRequest

end LineWidth
