import LineWidth.Proofs.RecordStream
import LineWidth.Proofs.SettingLayers

/-! # Checking all files one by one

A search gives only files, so what is checked gives its report, or it cannot be read or is no text
(`FileTree.checkFile_cases`). What one step of a survey does is then said once, in
`Survey.step_eq`, and a whole survey is what its files give one by one (`FileTree.survey_eq`): no
file has a part in what becomes of another one. All this is for settings with a tab width that can
be told.
-/

namespace LineWidth

namespace FileTree

variable {tree : FileTree} {path : Path} {paths : List Path} {patterns : List String}

theorem exists_of_isFile (isFile : tree.isFile path = .ok true) :
    ∃ content readable, tree.lookUp path = .ok (some (.file content readable)) := by
  rw [FileTree.isFile] at isFile
  cases there : tree.lookUp path with
  | error fault =>
    rw [there] at isFile
    cases isFile
  | ok node =>
    rw [there] at isFile
    cases node with
    | none => cases isFile
    | some node =>
      cases node with
      | file content readable => exact ⟨content, readable, rfl⟩
      | _ => cases isFile

/-- What is kept of a lead. -/
theorem mem_filesOf_iff {leads : List Lead} (done : tree.filesOf leads = .ok paths) :
    path ∈ paths ↔ .found path ∈ leads ∧ tree.isFile path = .ok true := by
  obtain ⟨groups, asked, same⟩ := bind_eq_ok_iff.mp done
  obtain rfl := Except.ok.inj same
  rw [List.mem_flatten]
  constructor
  · rintro ⟨group, among, member⟩
    obtain ⟨lead, here, kept⟩ := (mem_of_mapM_eq_ok asked).mp among
    cases lead with
    | broken fault => cases kept
    | found other =>
      obtain ⟨_, ⟨⟩, kept⟩ := bind_eq_ok_iff.mp kept
      obtain ⟨truth, file, kept⟩ := bind_eq_ok_iff.mp kept
      obtain rfl := Except.ok.inj kept
      cases truth with
      | false => cases member
      | true =>
        obtain rfl := List.mem_singleton.mp member
        exact ⟨here, file⟩
  · rintro ⟨here, file⟩
    refine ⟨[path], (mem_of_mapM_eq_ok asked).mpr ⟨.found path, here, ?_⟩, List.mem_cons_self ..⟩
    exact bind_eq_ok_iff.mpr ⟨path, rfl, bind_eq_ok_iff.mpr ⟨true, file, rfl⟩⟩

/-- The leads can be looked at exactly if none is broken and each path can be asked about. -/
theorem exists_filesOf_iff {leads : List Lead} :
    (∃ files, tree.filesOf leads = .ok files) ↔
      ∃ found : List Path, leads = found.map .found ∧
        ∀ path ∈ found, ∃ truth, tree.isFile path = .ok truth := by
  have whole {groups : Except QueryFault (List (List Path))} :
      (∃ files, (do return (← groups).flatten) = Except.ok files) ↔
        ∃ found, groups = .ok found := by
    cases groups <;> simp [bind, Except.bind, pure, Except.pure]
  rw [filesOf, whole, exists_mapM_eq_ok_iff]
  constructor
  · intro asked
    induction leads with
    | nil => exact ⟨[], rfl, List.forall_mem_nil _⟩
    | cons lead rest ih =>
      obtain ⟨⟨group, kept⟩, others⟩ := List.forall_mem_cons.mp asked
      obtain ⟨found, rfl, answers⟩ := ih others
      cases lead with
      | broken fault => cases kept
      | found path =>
        obtain ⟨_, ⟨⟩, kept⟩ := bind_eq_ok_iff.mp kept
        obtain ⟨truth, first, -⟩ := bind_eq_ok_iff.mp kept
        exact ⟨path :: found, rfl, List.forall_mem_cons.mpr ⟨⟨truth, first⟩, answers⟩⟩
  · rintro ⟨found, rfl, answers⟩ lead member
    obtain ⟨path, among, rfl⟩ := List.mem_map.mp member
    obtain ⟨truth, asked⟩ := answers path among
    exact ⟨_, bind_eq_ok_iff.mpr ⟨path, rfl, bind_eq_ok_iff.mpr ⟨truth, asked, rfl⟩⟩⟩

private theorem isFile_of_candidates {directory : Path}
    (found : tree.candidates patterns directory = .ok paths) (member : path ∈ paths) :
    tree.isFile path = .ok true := by
  obtain ⟨groups, searched, sorted⟩ := bind_eq_ok_iff.mp found
  obtain rfl := Except.ok.inj sorted
  obtain ⟨group, among, member⟩ := List.mem_flatten.mp (List.mem_mergeSort.mp member)
  obtain ⟨text, -, matched⟩ := (mem_of_mapM_eq_ok searched).mp among
  obtain ⟨pattern, -, filtered⟩ := bind_eq_ok_iff.mp matched
  exact ((mem_filesOf_iff (mapError_eq_ok_iff.mp filtered)).mp member).2

theorem isFile_of_expand {base : Path} (expanded : tree.expand patterns base = .ok (some paths))
    (member : path ∈ paths) : tree.isFile path = .ok true := by
  obtain ⟨node, there, expanded⟩ := bind_eq_ok_iff.mp expanded
  have there := mapError_eq_ok_iff.mp there
  cases node with
  | none => cases expanded
  | some node =>
    cases node with
    | file content readable =>
      obtain rfl := Option.some.inj (Except.ok.inj expanded)
      obtain rfl := List.mem_singleton.mp member
      rw [isFile, there]
      rfl
    | directory entries access =>
      obtain ⟨found, searched, same⟩ := bind_eq_ok_iff.mp expanded
      obtain rfl := Option.some.inj (Except.ok.inj same)
      exact isFile_of_candidates searched member
    | link target => cases expanded

private theorem mem_of_mem_sift {ignored : Path → Bool} {seen : List (List String)}
    (member : .file path ∈ (tree.sift ignored seen paths).1) : path ∈ paths := by
  induction paths generalizing seen with
  | nil => cases member
  | cons other paths ih =>
    simp only [sift] at member
    split_ifs at member
    · exact List.mem_cons_of_mem _ (ih member)
    · rcases List.mem_cons.mp member with impossible | member
      · cases impossible
      · exact List.mem_cons_of_mem _ (ih member)
    · rcases List.mem_cons.mp member with same | member
      · obtain rfl := Find.file.inj same
        exact List.mem_cons_self ..
      · exact List.mem_cons_of_mem _ (ih member)

theorem isFile_of_mem_search {bases : List Path} {seen : List (List String)}
    (member : .file path ∈ (tree.search patterns seen bases).finds) :
    tree.isFile path = .ok true := by
  induction bases generalizing seen with
  | nil => cases member
  | cons base bases ih =>
    simp only [search] at member
    split at member
    · cases member
    · rcases List.mem_cons.mp member with impossible | member
      · cases impossible
      · exact ih member
    · next found expanded =>
      rcases List.mem_append.mp member with member | member
      · exact isFile_of_expand expanded (mem_of_mem_sift member)
      · exact ih member

variable {content : ByteArray} {readable : Bool} {settings : Settings}

private theorem readSource_of_unreadable
    (there : tree.lookUp path = .ok (some (.file content false))) :
    tree.readSource path = .error (.failure (sourceFailure path.text
      (FileFault.denied.message (Text.quoted path.text.toList)))) := by
  obtain ⟨openable, refused⟩ := read_of_lookUp there
  simp only [readSource, openable, refused, Bool.false_eq_true, if_false]

private theorem readSource_of_text (there : tree.lookUp path = .ok (some (.file content true)))
    {text : List Char} (encodes : content = text.utf8Encode) : tree.readSource path = .ok text := by
  obtain ⟨openable, done⟩ := read_of_lookUp there
  simp only [readSource, openable, done, Text.decodeUtf8_content_iff.mpr encodes,
    Bool.false_eq_true, if_false, if_true]

private theorem readSource_of_invalid (there : tree.lookUp path = .ok (some (.file content true)))
    (invalid : ¬ content.IsValidUTF8) :
    ∃ reason, tree.readSource path = .error (.failure (sourceFailure path.text reason)) := by
  obtain ⟨openable, done⟩ := read_of_lookUp there
  simp only [readSource, openable, done, Bool.false_eq_true, if_false, if_true]
  split
  · next fault _ => exact ⟨fault.message, rfl⟩
  · next text decoded => exact absurd (Text.exists_decodeUtf8_iff.mp ⟨text, decoded⟩) invalid

/-- Checking a source gives the report on it, if the tab width can be told. -/
theorem checkSource_result (source : List Char)
    (tellable : Text.canWrite settings.tabWidth = true) (name : String) :
    ∃ report, Report.ofSource source settings name = .ok report ∧
      (checkSource source settings name).result = .ok report := by
  obtain ⟨report, done⟩ : ∃ report, Report.ofSource source settings name = .ok report :=
    ⟨_, Report.ofSource_eq source settings name⟩
  refine ⟨report, done, ?_⟩
  rw [Report.ofSource] at done
  have tokenized : (tokenizeLogged source settings.tabWidth).result =
      .ok (TokenStream.ofSource source settings.tabWidth) := by
    apply Logged.result_bind_eq_ok_iff.mpr
    refine ⟨(), ?_, rfl⟩
    rw [Logged.note_of_canTell]
    exact tellable
  apply Logged.result_bind_eq_ok_iff.mpr
  refine ⟨_, tokenized, Logged.result_bind_eq_ok_iff.mpr ⟨report, ?_, rfl⟩⟩
  exact mapError_eq_ok_iff.mpr done

/-- A file that can be read and is a text gives the report on that text, and any other one gives a
failure. -/
theorem checkFile_cases (there : tree.lookUp path = .ok (some (.file content readable)))
    (tellable : Text.canWrite settings.tabWidth = true) :
    (∃ (text : List Char) (report : Report), readable = true ∧ content = text.utf8Encode ∧
      Report.ofSource text settings path.text = .ok report ∧
      (tree.checkFile path settings).result = .ok report) ∨
    (¬ (readable = true ∧ content.IsValidUTF8) ∧ ∃ reason, tree.checkFile path settings =
      ⟨[], .error (.failure (sourceFailure path.text reason))⟩) := by
  cases readable with
  | false =>
    have failed := readSource_of_unreadable there
    exact .inr ⟨fun both => Bool.noConfusion both.1, _, Logged.bind_of_error failed⟩
  | true =>
    by_cases valid : content.IsValidUTF8
    · obtain ⟨text, encodes⟩ := exists_utf8Encode_of_valid valid
      obtain ⟨report, made, checked⟩ := checkSource_result text tellable path.text
      refine .inl ⟨text, report, rfl, encodes, made, ?_⟩
      exact Logged.result_bind_eq_ok_iff.mpr ⟨text, readSource_of_text there encodes, checked⟩
    · obtain ⟨reason, failed⟩ := readSource_of_invalid there valid
      exact .inr ⟨fun both => valid both.2, reason, Logged.bind_of_error failed⟩

/-- The report on a file that can be checked. -/
def reportOn? (tree : FileTree) (settings : Settings) (file : Path) : Option Report :=
  (tree.checkFile file settings).result.toOption

/-- The failure of a file that cannot be checked. -/
def failureAt? (tree : FileTree) (settings : Settings) (file : Path) : Option Failure :=
  match (tree.checkFile file settings).result with
  | .error (.failure failure) => some failure
  | _ => none

/-- What files give one by one. -/
def surveyOf (tree : FileTree) (settings : Settings) (files : List Path) : Survey :=
  { reports := files.filterMap (tree.reportOn? settings)
    failures := files.filterMap (tree.failureAt? settings) }

/-- The entries that taking in one find makes. -/
def entriesFor (tree : FileTree) (settings : Settings) : Find → List Entry
  | .file path =>
    (tree.checkFile path settings).entries ++
      ((tree.failureAt? settings path).map fun failure => .sourceUnreadable failure.message).toList
  | find => find.entry?.toList

end FileTree

section Run

variable {tree : FileTree} {settings : Settings}

/-- One step takes in the report or the failure of a file, and nothing for any other find. -/
theorem Survey.step_eq {find : Find} (tellable : Text.canWrite settings.tabWidth = true)
    (isFile : ∀ path, find.file? = some path → tree.isFile path = .ok true) (survey : Survey) :
    survey.step tree settings find =
      ⟨tree.entriesFor settings find, .ok
        { reports := survey.reports ++ (find.file?.bind (tree.reportOn? settings)).toList
          failures :=
            survey.failures ++ (find.file?.bind (tree.failureAt? settings)).toList }⟩ := by
  cases find with
  | file path =>
    obtain ⟨content, readable, there⟩ := FileTree.exists_of_isFile (isFile path rfl)
    rcases FileTree.checkFile_cases there tellable with
      ⟨text, report, -, -, -, checked⟩ | ⟨-, reason, failed⟩
    · simp [Survey.step, Survey.add, Find.file?, FileTree.entriesFor, FileTree.reportOn?,
        FileTree.failureAt?, checked, Except.toOption]
    · have resource : (sourceFailure path.text reason).category = .resource := rfl
      simp [Survey.step, Survey.add, Find.file?, FileTree.entriesFor, FileTree.reportOn?,
        FileTree.failureAt?, failed, resource, Except.toOption]
  | oversized path => simp [Survey.step, Find.file?, FileTree.entriesFor]
  | missing path => simp [Survey.step, Find.file?, FileTree.entriesFor]

private theorem filterMap_cons_eq {α β : Type} {give : α → Option β} {item : α} {items : List α} :
    (item :: items).filterMap give = (give item).toList ++ items.filterMap give := by
  rw [List.filterMap_cons]
  cases give item <;> rfl

/-- All steps together take in what the finds give one by one. -/
private theorem Survey.foldlM_step {finds : List Find}
    (tellable : Text.canWrite settings.tabWidth = true)
    (isFile : ∀ path, .file path ∈ finds → tree.isFile path = .ok true) (survey : Survey) :
    finds.foldlM (Survey.step tree settings) survey =
      ⟨finds.flatMap (tree.entriesFor settings), .ok
        { reports := survey.reports ++
            (finds.filterMap Find.file?).filterMap (tree.reportOn? settings)
          failures := survey.failures ++
            (finds.filterMap Find.file?).filterMap (tree.failureAt? settings) }⟩ := by
  induction finds generalizing survey with
  | nil => simp [pure]
  | cons find finds ih =>
    have first : ∀ path, find.file? = some path → tree.isFile path = .ok true := by
      intro path found
      apply isFile path
      cases find with
      | file other => exact Option.some.inj found ▸ List.mem_cons_self ..
      | _ => cases found
    have step := Survey.step_eq tellable first survey
    rw [List.foldlM_cons, Logged.bind_of_ok (congrArg Logged.result step),
      ih fun path member => isFile path (List.mem_cons_of_mem _ member), step]
    rw [List.filterMap_filterMap, List.filterMap_filterMap, List.filterMap_filterMap,
      List.filterMap_filterMap, filterMap_cons_eq, filterMap_cons_eq, List.flatMap_cons,
      List.append_assoc, List.append_assoc]

/-- A survey is what the files give one by one, unless the search for them broke down. -/
theorem FileTree.survey_eq (tellable : Text.canWrite settings.tabWidth = true)
    (paths : List Path) :
    tree.survey settings paths =
      ⟨(tree.discover [] paths).finds.flatMap (tree.entriesFor settings),
        match (tree.discover [] paths).breakdown with
        | some breakdown => .error (.breakdown breakdown)
        | none => .ok (tree.surveyOf settings (tree.discover [] paths).files)⟩ := by
  have isFile : ∀ path, .file path ∈ (tree.discover [] paths).finds →
      tree.isFile path = .ok true := fun _ => FileTree.isFile_of_mem_search
  have run := Survey.foldlM_step tellable isFile {}
  rw [FileTree.survey, Logged.bind_of_ok (congrArg Logged.result run), run]
  cases (tree.discover [] paths).breakdown with
  | some breakdown => simp [Logged.ofResult]
  | none => simp [pure, Discovery.files, FileTree.surveyOf]

theorem FileTree.survey_eq_ok_iff (tellable : Text.canWrite settings.tabWidth = true)
    {paths : List Path} {survey : Survey} :
    (tree.survey settings paths).result = .ok survey ↔
      (tree.discover [] paths).breakdown = none ∧
        tree.surveyOf settings (tree.discover [] paths).files = survey := by
  rw [FileTree.survey_eq tellable]
  cases (tree.discover [] paths).breakdown <;> simp

private theorem isSome_reportOn?_iff (tellable : Text.canWrite settings.tabWidth = true)
    {path : Path} (isFile : tree.isFile path = .ok true) :
    (tree.reportOn? settings path).isSome = !(tree.failureAt? settings path).isSome := by
  obtain ⟨content, readable, there⟩ := FileTree.exists_of_isFile isFile
  rcases FileTree.checkFile_cases there tellable with
    ⟨_, _, -, -, -, checked⟩ | ⟨-, _, failed⟩
  · simp [FileTree.reportOn?, FileTree.failureAt?, checked, Except.toOption]
  · simp [FileTree.reportOn?, FileTree.failureAt?, failed, Except.toOption]

/-- Every file gives a report or a failure, and never both. -/
theorem length_reports_add_failures (tellable : Text.canWrite settings.tabWidth = true)
    {files : List Path} (isFile : ∀ file ∈ files, tree.isFile file = .ok true) :
    (tree.surveyOf settings files).reports.length +
      (tree.surveyOf settings files).failures.length = files.length := by
  unfold FileTree.surveyOf
  induction files with
  | nil => rfl
  | cons file files ih =>
    obtain ⟨first, rest⟩ := List.forall_mem_cons.mp isFile
    have one := isSome_reportOn?_iff tellable first
    have others := ih rest
    dsimp only at others ⊢
    rw [filterMap_cons_eq, filterMap_cons_eq, List.length_append, List.length_append,
      List.length_cons]
    cases report : tree.reportOn? settings file <;>
      cases failure : tree.failureAt? settings file <;>
      simp [report, failure] at one ⊢ <;> omega

end Run

end LineWidth
