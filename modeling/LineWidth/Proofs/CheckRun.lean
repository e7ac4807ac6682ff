import LineWidth.Proofs.SurveyAccount
import LineWidth.Proofs.SurveyRun

/-! # What a run of the `check` command comes to

A run ends with 2 exactly when a path argument leads nowhere or there are no settings, and then its
output is empty and nothing is checked. Any other run is the check of its files one by one
(`Surroundings.run_check`). A run breaks down over a path that cannot be asked about, over a number
that is too long to be written, and over a settings file that escapes
(`Surroundings.run_settingsFile`).
-/

namespace LineWidth

private theorem isWorded_of_verdict? {settings : Settings} {anchor : Token} {index : Int}
    {width : Nat}
    {found : Diagnostic} (verdict : settings.verdict? anchor index width = some found) :
    found.IsWorded := by
  rw [Settings.verdict?] at verdict
  split_ifs at verdict
  · obtain rfl := Option.some.inj verdict
    exact .inr rfl
  · obtain rfl := Option.some.inj verdict
    exact .inl rfl

private theorem isWorded_of_checkLine {stream : TokenStream} {settings : Settings} {pointer : Int}
    {records : List Record} (done : stream.checkLine settings pointer = .ok records)
    {found : Diagnostic} (member : .diagnostic found ∈ records) : found.IsWorded := by
  obtain ⟨last, -, done⟩ := bind_eq_ok_iff.mp done
  dsimp only at done
  split_ifs at done
  iterate 3
    · obtain rfl := Except.ok.inj done
      cases member
  · obtain ⟨anchor, -, done⟩ := bind_eq_ok_iff.mp done
    obtain rfl := Except.ok.inj done
    simp at member
  · obtain ⟨anchor, -, done⟩ := bind_eq_ok_iff.mp done
    obtain rfl := Except.ok.inj done
    simp only [List.mem_cons, reduceCtorEq, false_or, Option.mem_toList, Option.map_eq_some_iff,
      Record.diagnostic.injEq, exists_eq_right] at member
    exact isWorded_of_verdict? member

private theorem isWorded_of_ofSource {source : List Char} {settings : Settings} {name : String}
    {report : Report} (done : Report.ofSource source settings name = .ok report)
    {found : Diagnostic} (member : found ∈ report.diagnostics) : found.IsWorded := by
  obtain ⟨records, analyzed, same⟩ := bind_eq_ok_iff.mp done
  obtain rfl := Except.ok.inj same
  obtain ⟨perLine, checked, flat⟩ := bind_eq_ok_iff.mp analyzed
  obtain rfl := Except.ok.inj flat
  obtain ⟨record, among, same⟩ := List.mem_filterMap.mp member
  obtain ⟨line, listed, within⟩ := List.mem_flatten.mp among
  obtain ⟨pointer, -, done⟩ := (mem_of_mapM_eq_ok checked).mp listed
  cases record with
  | observation seen => cases same
  | diagnostic other =>
    obtain rfl := Option.some.inj same
    exact isWorded_of_checkLine done within

namespace FileTree

variable {tree : FileTree} {request : CheckRequest} {settings : Settings}

private theorem isPlain_surveyOf (tellable : Text.canWrite settings.tabWidth = true)
    {files : List Path} (isFile : ∀ file ∈ files, tree.isFile file = .ok true) :
    (tree.surveyOf settings files).IsPlain := by
  constructor
  · intro report member diagnostic found
    obtain ⟨file, among, given⟩ := List.mem_filterMap.mp member
    obtain ⟨content, readable, there⟩ := exists_of_isFile (isFile file among)
    rcases checkFile_cases there tellable with ⟨_, other, -, -, made, checked⟩ | ⟨-, _, failed⟩
    · rw [reportOn?, checked] at given
      obtain rfl := Option.some.inj given
      exact isWorded_of_ofSource made found
    · rw [reportOn?, failed] at given
      cases given
  · intro failure member
    obtain ⟨file, among, given⟩ := List.mem_filterMap.mp member
    obtain ⟨content, readable, there⟩ := exists_of_isFile (isFile file among)
    rcases checkFile_cases there tellable with ⟨_, _, -, -, -, checked⟩ | ⟨-, reason, failed⟩
    · rw [failureAt?, checked] at given
      cases given
    · rw [failureAt?, failed] at given
      exact ⟨_, _, (Option.some.inj given).symm⟩

private theorem mem_missing_iff {paths missing : List Path}
    (done : tree.missing paths = .ok missing)
    {path : Path} : path ∈ missing ↔ path ∈ paths ∧ tree.contains path = .ok false := by
  apply (mem_of_filterM_eq_ok done).trans
  apply and_congr_right
  intro _
  apply bind_eq_ok_iff.trans
  constructor
  · rintro ⟨there, found, same⟩
    cases there with
    | true => cases same
    | false => exact found
  · intro found
    exact ⟨false, found, rfl⟩

private theorem exists_missing_iff {paths : List Path} :
    (∃ missing, tree.missing paths = .ok missing) ↔
      ∀ path ∈ paths, ∃ there, tree.contains path = .ok there := by
  apply exists_filterM_eq_ok_iff.trans
  apply forall₂_congr
  intro path _
  constructor
  · rintro ⟨truth, asked⟩
    obtain ⟨there, found, -⟩ := bind_eq_ok_iff.mp asked
    exact ⟨there, found⟩
  · rintro ⟨there, found⟩
    exact ⟨!there, bind_eq_ok_iff.mpr ⟨there, found, rfl⟩⟩

/-- Path arguments are all there, or the run ends for those that are not. -/
private theorem validate_cases {paths : List Path}
    (named : ∀ path ∈ paths, ∃ there, tree.contains path = .ok there) :
    ((∀ path ∈ paths, tree.contains path ≠ .ok false) ∧ tree.validate paths = .ok paths) ∨
      (∃ path ∈ paths, tree.contains path = .ok false) ∧
        ∃ failure, tree.validate paths = .error (.failure failure) := by
  obtain ⟨missing, done⟩ := exists_missing_iff.mpr named
  rw [validate, done]
  cases missing with
  | nil =>
    refine .inl ⟨fun path member away => ?_, rfl⟩
    exact List.not_mem_nil ((mem_missing_iff done).mpr ⟨member, away⟩)
  | cons path missing =>
    exact .inr ⟨⟨path, (mem_missing_iff done).mp (List.mem_cons_self ..)⟩, _, rfl⟩

/-- Finding settings breaks down only where the settings to start from do. -/
private theorem settingsFor_eq_breakdown_iff {breakdown : Breakdown} :
    (tree.settingsFor request).result = .error (.breakdown breakdown) ↔
      (tree.baseSettings request).result = .error (.breakdown breakdown) := by
  apply Logged.result_bind_eq_error_iff.trans
  apply or_iff_left
  rintro ⟨base, -, refused⟩
  obtain ⟨fault, refused, told⟩ := mapError_eq_error_iff.mp refused
  obtain ⟨rfl, -⟩ := SettingsFault.stop_eq_breakdown_iff.mp told
  apply Settings.override_eq_unusableKey_iff.mp refused
  intro entry member
  obtain ⟨change, -, rfl⟩ := List.mem_map.mp member
  exact Settings.isName_of_named? Settings.named?_field

private theorem prepare_of_ok (valid : tree.validate request.paths = .ok request.paths) :
    tree.prepare request = tree.settingsFor request := by
  have done : (Logged.ofResult (tree.validate request.paths)).result = .ok request.paths := valid
  rw [prepare, Logged.bind_of_ok done]
  rfl

/-- Whether a file comes to what checking it alone gives: the report on its text, or, when it cannot
be read or is no text, one failure. -/
def ChecksAlone (tree : FileTree) (settings : Settings) (file : Path) : Prop :=
  ∃ content readable, tree.lookUp file = .ok (some (.file content readable)) ∧
    ((∃ (text : List Char) (report : Report), readable = true ∧ content = text.utf8Encode ∧
        Report.ofSource text settings file.text = .ok report ∧
        tree.reportOn? settings file = some report ∧ tree.failureAt? settings file = none) ∨
      (¬ (readable = true ∧ content.IsValidUTF8) ∧ tree.reportOn? settings file = none ∧
        ∃ reason, tree.failureAt? settings file = some (sourceFailure file.text reason)))

private theorem checksAlone_of_isFile (tellable : Text.canWrite settings.tabWidth = true)
    {file : Path} (isFile : tree.isFile file = .ok true) : tree.ChecksAlone settings file := by
  obtain ⟨content, readable, there⟩ := exists_of_isFile isFile
  refine ⟨content, readable, there, ?_⟩
  rcases checkFile_cases there tellable with
    ⟨text, report, can, encodes, made, checked⟩ | ⟨refused, reason, failed⟩
  · exact .inl ⟨text, report, can, encodes, made, by rw [reportOn?, checked]; rfl,
      by rw [failureAt?, checked]⟩
  · exact .inr ⟨refused, by rw [reportOn?, failed]; rfl, reason, by rw [failureAt?, failed]⟩

private theorem isFile_of_discover {paths : List Path} {file : Path}
    (member : file ∈ (tree.discover [] paths).files) : tree.isFile file = .ok true := by
  obtain ⟨find, among, given⟩ := List.mem_filterMap.mp member
  cases find with
  | file path =>
    obtain rfl := Option.some.inj given
    exact isFile_of_mem_search among
  | _ => cases given

end FileTree

private theorem Survey.isClean_iff {survey : Survey} :
    survey.isClean = true ↔
      survey.failures = [] ∧ ∀ report ∈ survey.reports, report.diagnostics = [] := by
  simp [Survey.isClean, Report.hasIssues]

namespace Surroundings

/-- What a run comes to that checks its files with settings, having made entries before. -/
structure Checks (surroundings : Surroundings) (request : CheckRequest) (settings : Settings)
    (before : List Entry) (discovery : Discovery) (survey : Survey) (outcome : Outcome) : Prop where
  /-- Each file comes to what it comes to alone. -/
  alone : ∀ file ∈ discovery.files, surroundings.tree.ChecksAlone settings file
  /-- The reports are those of the files that give one, in order. -/
  reports : survey.reports = discovery.files.filterMap (surroundings.tree.reportOn? settings)
  /-- The failures are those of the other files, in order. -/
  failures : survey.failures = discovery.files.filterMap (surroundings.tree.failureAt? settings)
  total : survey.reports.length + survey.failures.length = discovery.files.length
  /-- The journal tells of each find once, in order. -/
  entries : outcome.entries =
    before ++ discovery.finds.flatMap (surroundings.tree.entriesFor settings)
  clean : outcome.status = .ok 0 ↔
    survey.failures = [] ∧ ∀ report ∈ survey.reports, report.diagnostics = []
  unclean : outcome.status = .ok 1 ↔
    survey.failures ≠ [] ∨ ∃ report ∈ survey.reports, report.diagnostics ≠ []
  /-- The text is a line for each diagnostic and then the summary. -/
  text : request.format = .text → ∃ lines, List.Forall₂ Tells survey.diagnostics lines ∧
    outcome.output = Text.plain (unlines
      (lines ++ survey.summary :: if request.metrics then survey.distribution else []))
  /-- The document has the reports, the failures and the number of the reports. -/
  json : request.format = .json → ∃ (document : Value) (reports : List Value),
    outcome.output = Text.plain (Json.text document ++ "\n") ∧
    survey.reports.mapM Report.toValue = .ok reports ∧
    document.field? "files" = some (.list reports) ∧
    document.field? "failures" =
      some (.list (survey.failures.map fun failure => failure.toValue surroundings.time)) ∧
    (document.field? "totals").bind (Value.field? "files") = some (.int survey.reports.length)

variable {surroundings : Surroundings} {words : List String} {arguments : Arguments CheckOption}
  {request : CheckRequest} {settings : Settings}

private theorem account_breakdown {survey : Survey} (plain : survey.IsPlain)
    (writable : survey.Writable settings) :
    (surroundings.account request settings survey).breakdown = none := by
  rw [account]
  cases request.format with
  | text =>
    obtain ⟨_, -, told⟩ := Survey.text_eq plain writable request.metrics
    exact congrArg Account.breakdown told
  | json =>
    obtain ⟨_, -, told⟩ := Survey.json_eq plain writable surroundings.time
    exact congrArg Account.breakdown told

private theorem checkAll_entries (tellable : Text.canWrite settings.tabWidth = true) (debug : Bool)
    (before : List Entry) :
    (surroundings.checkAll debug request settings before).entries =
      before ++ (surroundings.tree.discover [] request.paths).finds.flatMap
        (surroundings.tree.entriesFor settings) := by
  rw [checkAll]
  cases done : (surroundings.tree.survey settings request.paths).result with
  | error stop => rw [FileTree.survey_eq tellable]
  | ok survey => rw [FileTree.survey_eq tellable]

private theorem checks_of_checkAll {debug : Bool} {before : List Entry} {survey : Survey}
    (surveyed : (surroundings.tree.survey settings request.paths).result = .ok survey)
    (writable : survey.Writable settings) :
    surroundings.Checks request settings before (surroundings.tree.discover [] request.paths)
      survey (surroundings.checkAll debug request settings before) := by
  have isFile : ∀ file ∈ (surroundings.tree.discover [] request.paths).files,
      surroundings.tree.isFile file = .ok true := fun _ => FileTree.isFile_of_discover
  have tellable := writable.tabWidth
  obtain ⟨-, made⟩ := (FileTree.survey_eq_ok_iff tellable).mp surveyed
  have plain : survey.IsPlain := made ▸ FileTree.isPlain_surveyOf tellable isFile
  have told := @account_breakdown surroundings request settings survey plain writable
  have outcome : (surroundings.checkAll debug request settings before).status =
      .ok (if survey.isClean then 0 else 1) := by
    simp only [checkAll, surveyed, told]
  constructor
  case alone =>
    intro file member
    exact FileTree.checksAlone_of_isFile tellable (isFile file member)
  case reports => rw [← made, FileTree.surveyOf]
  case failures => rw [← made, FileTree.surveyOf]
  case total => exact made ▸ length_reports_add_failures tellable isFile
  case entries => exact checkAll_entries tellable debug before
  case clean =>
    rw [outcome, ← Survey.isClean_iff]
    split_ifs with clean <;> simp [clean]
  case unclean =>
    have dirty := not_congr (@Survey.isClean_iff survey)
    simp only [not_and_or, not_forall, exists_prop] at dirty
    rw [outcome, ne_eq, ← dirty]
    split_ifs with clean <;> simp [clean]
  case text =>
    intro format
    obtain ⟨lines, tells, account⟩ := Survey.text_eq plain writable request.metrics
    refine ⟨lines, tells, ?_⟩
    simp only [checkAll, surveyed, Surroundings.account, format, account]
  case json =>
    intro format
    obtain ⟨reports, done, account⟩ := Survey.json_eq plain writable surroundings.time
    refine ⟨survey.document settings surroundings.time reports, reports, ?_, done, ?_, ?_, ?_⟩
    · simp only [checkAll, surveyed, Surroundings.account, format, account]
    · rw [Survey.document, Value.field?_fields]
      rfl
    · rw [Survey.document, Value.field?_fields]
      rfl
    · rw [Survey.document, Value.field?_fields]
      simp [Value.field?_fields]

private theorem check_of_failure {failure : Failure}
    (told : (surroundings.tree.prepare request).result = .error (.failure failure))
    (debug : Bool) :
    (surroundings.check debug request).status = .ok 2 ∧
      (surroundings.check debug request).output = "" ∧
      (surroundings.check debug request).entries = (surroundings.tree.prepare request).entries := by
  simp only [check, told, and_self]

private theorem check_of_breakdown {breakdown : Breakdown}
    (broken : (surroundings.tree.prepare request).result = .error (.breakdown breakdown))
    (debug : Bool) : (surroundings.check debug request).status = .error (.breakdown breakdown) := by
  simp only [check, broken]

private theorem check_of_settings (done : (surroundings.tree.prepare request).result = .ok settings)
    (debug : Bool) :
    surroundings.check debug request = surroundings.checkAll debug request settings
      (surroundings.tree.prepare request).entries := by
  simp only [check, done]

private theorem check_status {debug : Bool} {request : CheckRequest}
    (searched : (surroundings.tree.discover [] request.paths).breakdown = none)
    (writable : ∀ settings, (surroundings.tree.settingsFor request).result = .ok settings →
      (surroundings.tree.surveyOf settings
        (surroundings.tree.discover [] request.paths).files).Writable settings)
    (valid : surroundings.tree.validate request.paths = .ok request.paths) :
    (∃ status ≤ 2, (surroundings.check debug request).status = .ok status) ↔
      ∀ breakdown,
        (surroundings.tree.settingsFor request).result ≠ .error (.breakdown breakdown) := by
  have prepared := FileTree.prepare_of_ok valid
  cases done : (surroundings.tree.settingsFor request).result with
  | ok settings =>
    have surveyed := (FileTree.survey_eq_ok_iff (writable settings done).tabWidth).mpr
      ⟨searched, (rfl : surroundings.tree.surveyOf settings _ = _)⟩
    have checks := @checks_of_checkAll surroundings request settings debug
      (surroundings.tree.prepare request).entries _ surveyed (writable settings done)
    refine iff_of_true ?_ nofun
    rw [check_of_settings (prepared ▸ done) debug]
    by_cases clean : (surroundings.tree.surveyOf settings
        (surroundings.tree.discover [] request.paths).files).isClean = true
    · exact ⟨0, by decide, checks.clean.mpr (Survey.isClean_iff.mp clean)⟩
    · refine ⟨1, by decide, checks.unclean.mpr ?_⟩
      simpa only [Survey.isClean_iff, not_and_or, not_forall, exists_prop] using clean
  | error stop =>
    cases stop with
    | failure failure =>
      obtain ⟨status, -⟩ := check_of_failure (prepared ▸ done) debug
      exact iff_of_true ⟨2, Nat.le_refl 2, status⟩ nofun
    | breakdown breakdown =>
      have status := check_of_breakdown (prepared ▸ done) debug
      apply iff_of_false
      · rintro ⟨_, -, ended⟩
        rw [status] at ended
        cases ended
      · exact fun never => never breakdown rfl

/-- A settings file gives valid settings or a configuration failure, unless it can be read and
escapes: it is no text, it has a number with too many digits or is nested too deep, or it names the
setting `self`. A check that asks for the file, with paths that are all there, ends in order exactly
when the file does not escape, and so does a run of a command line that asks for such a check. -/
theorem run_settingsFile {path : Path} {content : ByteArray} {readable : Bool}
    (there : surroundings.tree.lookUp path = .ok (some (.file content readable))) :
    (match surroundings.tree.loadSettings path with
      | .ok settings => settings.Valid
      | .error (.failure failure) => failure.category = .configuration
      | .error (.breakdown breakdown) => readable = true ∧ Escapes content breakdown) ∧
    (readable = true → ∀ breakdown, Escapes content breakdown →
      surroundings.tree.loadSettings path = .error (.breakdown breakdown)) ∧
    ∀ request : CheckRequest, request.config = some path →
      (∀ argument ∈ request.paths, surroundings.tree.contains argument = .ok true) →
      (surroundings.tree.discover [] request.paths).breakdown = none →
      (∀ settings, (surroundings.tree.settingsFor request).result = .ok settings →
        (surroundings.tree.surveyOf settings
          (surroundings.tree.discover [] request.paths).files).Writable settings) →
      (∀ debug, (∃ status ≤ 2, (surroundings.check debug request).status = .ok status) ↔
        ∀ breakdown, ¬ (readable = true ∧ Escapes content breakdown)) ∧
      ∀ words arguments, checkAsked? words = some (arguments, request) →
        ((∃ status ≤ 2, (surroundings.run words).status = .ok status) ↔
          ∀ breakdown, ¬ (readable = true ∧ Escapes content breakdown)) := by
  have breaks {breakdown : Breakdown} :
      surroundings.tree.loadSettings path = .error (.breakdown breakdown) ↔
        readable = true ∧ Escapes content breakdown :=
    FileTree.loadSettings_eq_breakdown_iff there
  refine ⟨?_, fun can breakdown escapes => breaks.mpr ⟨can, escapes⟩, ?_⟩
  · cases done : surroundings.tree.loadSettings path with
    | ok settings => exact FileTree.valid_of_loadSettings done
    | error stop =>
      cases stop with
      | failure failure => exact FileTree.category_of_loadSettings done
      | breakdown breakdown => exact breaks.mp done
  · intro request config contained searched writable
    have valid : surroundings.tree.validate request.paths = .ok request.paths := by
      rcases FileTree.validate_cases fun argument member => ⟨true, contained argument member⟩ with
        ⟨-, valid⟩ | ⟨⟨argument, member, away⟩, -⟩
      · exact valid
      · rw [contained argument member] at away
        cases away
    have ends : ∀ debug, (∃ status ≤ 2, (surroundings.check debug request).status = .ok status) ↔
        ∀ breakdown, ¬ (readable = true ∧ Escapes content breakdown) := by
      intro debug
      rw [check_status searched writable valid]
      apply forall_congr'
      intro breakdown
      apply not_congr
      rw [FileTree.settingsFor_eq_breakdown_iff, FileTree.baseSettings, config]
      exact FileTree.settingsAt_result ▸ breaks
    refine ⟨ends, fun words arguments asks => ?_⟩
    obtain ⟨debug, same⟩ := run_of_checkAsked? asks surroundings
    rw [same]
    exact ends debug

/-- What a result broke down at, if it did. -/
def brokenBy? {α : Type} : Except Stop α → Option Breakdown
  | .error (.breakdown breakdown) => some breakdown
  | _ => none

private theorem brokenBy?_eq_some_iff {α : Type} {result : Except Stop α} {breakdown : Breakdown} :
    brokenBy? result = some breakdown ↔ result = .error (.breakdown breakdown) := by
  rcases result with (_ | _) | _ <;> simp [brokenBy?]

/-- The surroundings of a run with a settings file that names a setting. -/
def besideTabWidth : Surroundings := FileTree.besideSettings "\x7b\"tabWidth\": 2\x7d"

/-- The surroundings of a run with a settings file that names `self`. -/
def besideSelf : Surroundings := FileTree.besideSettings "\x7b\"self\": 1\x7d"

/-- A settings file that names a setting does not escape, and one that names `self` does. -/
theorem run_settingsFile_self :
    (∃ status ≤ 2,
      (besideTabWidth.run ["check", "--config", "c.json", "a.php"]).status = .ok status) ∧
    ∃ content, besideSelf.tree.lookUp ⟨"", ["c.json"]⟩ = .ok (some (.file content true)) ∧
      Escapes content .unusableKey := by
  constructor
  · have run : ∃ asked ∈ checkAsked? ["check", "--config", "c.json", "a.php"],
        ∃ settings ∈ (besideTabWidth.tree.settingsFor asked.2).result.toOption,
          asked.2.config = some ⟨"", ["c.json"]⟩ ∧
          (∀ path ∈ asked.2.paths, (besideTabWidth.tree.contains path).toOption = some true) ∧
          (besideTabWidth.tree.discover [] asked.2.paths).breakdown = none ∧
          (besideTabWidth.tree.surveyOf settings
            (besideTabWidth.tree.discover [] asked.2.paths).files).Writable settings ∧
          (besideTabWidth.tree.loadSettings ⟨"", ["c.json"]⟩).toOption.isSome = true ∧
          (besideTabWidth.tree.isFile ⟨"", ["c.json"]⟩).toOption = some true := by
      decide +kernel
    obtain ⟨⟨arguments, request⟩, asks, settings, found, config, contained, searched, writable,
      loads, isFile⟩ := run
    obtain ⟨content, readable, there⟩ :=
      FileTree.exists_of_isFile (toOption_eq_some_iff.mp isFile)
    obtain ⟨-, escapes, ends⟩ := run_settingsFile there
    apply ((ends request config ?_ searched ?_).2 _ arguments asks).mpr
    · rintro breakdown ⟨can, escaping⟩
      rw [escapes can breakdown escaping] at loads
      cases loads
    · exact fun path member => toOption_eq_some_iff.mp (contained path member)
    · intro other same
      obtain rfl := Except.ok.inj ((toOption_eq_some_iff.mp found).symm.trans same)
      exact writable
  · have isFile : (besideSelf.tree.isFile ⟨"", ["c.json"]⟩).toOption = some true := by
      decide +kernel
    obtain ⟨content, readable, there⟩ :=
      FileTree.exists_of_isFile (toOption_eq_some_iff.mp isFile)
    have broken : besideSelf.tree.loadSettings ⟨"", ["c.json"]⟩ =
        .error (.breakdown .unusableKey) :=
      brokenBy?_eq_some_iff.mp (by decide +kernel)
    have escapes := (run_settingsFile there).1
    rw [broken] at escapes
    obtain ⟨rfl, escapes⟩ := escapes
    exact ⟨content, there, escapes⟩

end Surroundings

end LineWidth
