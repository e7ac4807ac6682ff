import LineWidth.CommandLine.Options
import LineWidth.Journal.Operation

/-! # Checking all files

The `check` command finds the files, checks one after the other and collects reports. A file that
cannot be read becomes a failure beside the reports and does not keep the others from being checked.
-/

namespace LineWidth

/-- The reports on the files that were checked, and the failures of the others. -/
structure Survey where
  reports : List Report := []
  failures : List Failure := []

namespace Survey

/-- The number of errors. -/
def errorCount (survey : Survey) : Nat := (survey.reports.flatMap (·.errors)).length

/-- The number of warnings. -/
def warningCount (survey : Survey) : Nat := (survey.reports.flatMap (·.warnings)).length

/-- Whether everything was read and nothing was diagnosed. -/
def isClean (survey : Survey) : Bool :=
  survey.failures.isEmpty && survey.reports.all fun report => !report.hasIssues

/-- Take in the outcome of checking one file. Only a failure to read it is collected. -/
def add (survey : Survey) (checked : Logged Report) : Logged Survey :=
  match checked.result with
  | .ok report => ⟨checked.entries, .ok { survey with reports := survey.reports ++ [report] }⟩
  | .error (.failure failure) =>
    if failure.category = .resource then
      ⟨checked.entries ++ [.sourceUnreadable failure.message],
        .ok { survey with failures := survey.failures ++ [failure] }⟩
    else ⟨checked.entries, .error (.failure failure)⟩
  | .error stop => ⟨checked.entries, .error stop⟩

/-- Take in one thing that a search came across. -/
def step (tree : FileTree) (settings : Settings) (survey : Survey) (find : Find) : Logged Survey :=
  match find.file? with
  | some path => survey.add (tree.checkFile path settings)
  | none => ⟨find.entry?.toList, .ok survey⟩

end Survey

namespace FileTree

/-- The path of the settings file in the working directory. -/
def usualSettingsFile (tree : FileTree) : Path := ⟨"/", tree.workingDirectory ++ [settingsFileName]⟩

/-- The settings to start from: those of the file asked for, else of the usual file if it is there.
-/
def baseSettings (tree : FileTree) (request : CheckRequest) : Logged Settings :=
  match request.config with
  | some path => tree.settingsAt path
  | none => do
    let usual := tree.usualSettingsFile
    let isThere ← .ofResult ((tree.isFile usual).mapError fun fault => .breakdown fault.breakdown)
    if isThere then tree.settingsAt usual else return {}

/-- The settings to check with: those to start from, changed as asked. -/
def settingsFor (tree : FileTree) (request : CheckRequest) : Logged Settings := do
  let settings ← tree.baseSettings request
  let entries := Settings.fieldEntries request.changes
  .ofResult ((settings.override entries).mapError SettingsFault.stop)

/-- Make sure that the paths lead somewhere, and find the settings. -/
def prepare (tree : FileTree) (request : CheckRequest) : Logged Settings := do
  let _ ← .ofResult (tree.validate request.paths)
  tree.settingsFor request

/-- Check all files below paths. Files that were found before a search broke down are checked. -/
def survey (tree : FileTree) (settings : Settings) (paths : List Path) : Logged Survey := do
  let discovery := tree.discover [] paths
  let survey ← discovery.finds.foldlM (Survey.step tree settings) {}
  match discovery.breakdown with
  | some breakdown => .ofResult (.error (.breakdown breakdown))
  | none => return survey

end FileTree

end LineWidth
