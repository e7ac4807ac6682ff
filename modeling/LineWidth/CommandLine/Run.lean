import LineWidth.CommandLine.Output

/-! # Running the program

A run is a function of the arguments and of what surrounds the program: the file tree, the
environment and the time. It exits with 0 when nothing is wrong, with 1 when a line is reported or a
file cannot be read, and with 2 when it cannot start to check.
-/

namespace LineWidth

/-- What surrounds a run: the files, the environment's wish for debug entries, the time of day for
the journal and the full time for failures. -/
structure Surroundings where
  tree : FileTree
  debugSetting : Option String := none
  clock : String
  time : String

namespace Surroundings

/-- The entries that are shown, as text. -/
def journal (surroundings : Surroundings) (debug : Bool) (entries : List Entry) : String :=
  String.join ((entries.filter (Entry.isShown debug)).map (Entry.line surroundings.clock))

/-- What is told of a survey in the format asked for. -/
def account (surroundings : Surroundings) (request : CheckRequest) (settings : Settings)
    (survey : Survey) : Account :=
  match request.format with
  | .json => survey.json settings surroundings.time
  | .text => survey.text request.metrics

/-- Check all files with settings that were found leaving `entries`. -/
def checkAll (surroundings : Surroundings) (debug : Bool) (request : CheckRequest)
    (settings : Settings) (entries : List Entry) : Outcome :=
  let surveyed := surroundings.tree.survey settings request.paths
  let entries := entries ++ surveyed.entries
  let journal := surroundings.journal debug entries
  match surveyed.result with
  | .error stop => ⟨.error stop, "", journal, entries⟩
  | .ok survey =>
    let account := surroundings.account request settings survey
    let status := match account.breakdown with
      | some breakdown => .error (.breakdown breakdown)
      | none => .ok (if survey.isClean then 0 else 1)
    ⟨status, Text.plain account.output, journal ++ Text.plain account.errors, entries⟩

/-- Do what the `check` command is asked to do. -/
def check (surroundings : Surroundings) (debug : Bool) (request : CheckRequest) : Outcome :=
  let prepared := surroundings.tree.prepare request
  let journal := surroundings.journal debug prepared.entries
  match prepared.result with
  | .error (.failure failure) =>
    ⟨.ok 2, "", journal ++ Text.plain (failure.present ++ "\n"), prepared.entries⟩
  | .error stop => ⟨.error stop, "", journal, prepared.entries⟩
  | .ok settings => surroundings.checkAll debug request settings prepared.entries

/-- Run the `check` command. -/
def runCheck (surroundings : Surroundings) (debug : Bool) (arguments : List String) : Outcome :=
  match Arguments.read checkSpellings true arguments with
  | .error fault => (UsageFault.option fault).outcome .check
  | .ok arguments =>
    if arguments.given.any (·.1 == .help) then .say Command.check.help
    else
      match CheckRequest.ofArguments arguments with
      | .error (.usage fault) => fault.outcome .check
      | .error (.breakdown breakdown) => { status := .error (.breakdown breakdown) }
      | .ok request => surroundings.check debug request

/-- Run the program. Of help and version the one asked for first is told. -/
def run (surroundings : Surroundings) (arguments : List String) : Outcome :=
  match Arguments.read programSpellings false arguments with
  | .error fault => (UsageFault.option fault).outcome .program
  | .ok arguments =>
    let wanted : Option ProgramOption := (arguments.given.map (·.1)).find? (· != .debug)
    match wanted, arguments.others with
    | some .version, _ => .say versionText
    | some _, _ => .say Command.program.help
    | none, [] => .say Command.program.help
    | none, command :: rest =>
      let debug := !arguments.given.isEmpty || debugRequested surroundings.debugSetting
      if command = "check" then surroundings.runCheck debug rest
      else (UsageFault.unknownCommand command).outcome .program

end Surroundings

end LineWidth
