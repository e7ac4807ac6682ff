import Mathlib.Tactic.MkIffOfInductiveProp
import LineWidth.CommandLine.Output
import LineWidth.Proofs.IntegerText
import LineWidth.Proofs.SettingsMapping
import LineWidth.Proofs.TemplateFilling

/-! # What is told of a survey

An account fails only over an integer that has too many digits to be written. As long as every
number is short enough (`Survey.Writable`), the text has one line for each diagnostic, in order and
before the summary (`Survey.text_eq`), and the document has all reports, all failures and the totals
(`Survey.json_eq`).
-/

namespace LineWidth

namespace Json

@[simp] theorem canWrite_int {number : Int} :
    canWrite (.int number) = Text.canWrite number := rfl

@[simp] theorem canWrite_bool {truth : Bool} : canWrite (.bool truth) = true := rfl

@[simp] theorem canWrite_text {chars : List Char} : canWrite (.text chars) = true := rfl

@[simp] theorem canWrite_ofString {text : String} : canWrite (.ofString text) = true := rfl

@[simp] theorem canWrite_ofString? {text : Option String} : canWrite (.ofString? text) = true := by
  cases text <;> rfl

@[simp] theorem canWrite_list_iff {items : List Value} :
    canWrite (.list items) = true ↔ ∀ item ∈ items, canWrite item = true := by
  change canWriteAll items = true ↔ _
  induction items with
  | nil => exact iff_of_true rfl (List.forall_mem_nil _)
  | cons item items ih =>
    change (canWrite item && canWriteAll items) = true ↔ _
    rw [List.forall_mem_cons, Bool.and_eq_true, ih]

@[simp] theorem canWrite_fields_iff {entries : List (String × Value)} :
    canWrite (.fields entries) = true ↔ ∀ entry ∈ entries, canWrite entry.2 = true := by
  induction entries with
  | nil => exact iff_of_true rfl (List.forall_mem_nil _)
  | cons entry entries ih =>
    change (canWrite (.ofString entry.1) && canWrite entry.2 &&
      canWrite (.fields entries)) = true ↔ _
    rw [List.forall_mem_cons, Bool.and_eq_true, ih, canWrite_ofString, Bool.true_and]

end Json

namespace Value

/-- The value of a field of a mapping. -/
def field? (name : String) : Value → Option Value
  | .dict entries => lookup? (.ofString name) entries
  | _ => none

private theorem keyEquals_ofString {first second : String} :
    (ofString first).keyEquals (ofString second) = (first == second) := by
  rw [keyEquals_of_chars rfl, Bool.eq_iff_iff, beq_iff_eq, beq_iff_eq, ofString, chars?,
    Option.some.injEq, String.toList_inj]

theorem field?_fields {name : String} {entries : List (String × Value)} :
    (Value.fields entries).field? name = (entries.find? (·.1 == name)).map (·.2) := by
  rw [Value.fields, field?, lookup?, List.find?_map, Option.map_map]
  simp only [Function.comp_def, keyEquals_ofString]

private theorem insert_of_fresh {key value : Value} {known : List (Value × Value)}
    (fresh : ∀ entry ∈ known, entry.1.keyEquals key = false) :
    insert key value known = known ++ [(key, value)] := by
  induction known with
  | nil => rfl
  | cons entry known ih =>
    obtain ⟨different, fresh⟩ := List.forall_mem_cons.mp fresh
    rw [insert, different, ih fresh]
    rfl

private theorem primitive_ofString {text : String} : (ofString text).primitive = .ok
    (ofString text) := rfl

private theorem primitive_ofString? {text : Option String} :
    (ofString? text).primitive = .ok (ofString? text) := by
  cases text <;> rfl

theorem primitive_int {number : Int} : (Value.int number).primitive = .ok (.int number) := rfl

/-- Fields as the entries of a mapping. -/
def fieldList (fields : List (String × Value)) : List (Value × Value) :=
  fields.map fun (name, value) => (.ofString name, value)

/-- Fields with different names are entries with different keys. -/
theorem pairwise_fieldList {fields : List (String × Value)}
    (distinct : (fields.map Prod.fst).Nodup) :
    (fieldList fields).Pairwise fun first second => first.1.keyEquals second.1 = false := by
  rw [fieldList, List.pairwise_map]
  have apart := List.pairwise_map.mp distinct
  exact apart.imp fun different => by simpa [keyEquals_ofString] using different

/-- Entries whose keys stay different are set one after the other. -/
theorem primitiveEntries_of_distinct {known entries results : List (Value × Value)}
    (each : List.Forall₂ (fun entry result => entry.1.primitive = .ok result.1 ∧
      entry.2.primitive = .ok result.2 ∧ result.1.isScalar = true) entries results)
    (distinct : (known ++ results).Pairwise fun first second =>
      first.1.keyEquals second.1 = false) :
    primitiveEntries known entries = .ok (known ++ results) := by
  induction each generalizing known with
  | nil => rw [List.append_nil]; rfl
  | @cons entry result entries results first _ ih =>
    obtain ⟨key, value⟩ := entry
    obtain ⟨keyForm, valueForm⟩ := result
    obtain ⟨atKey, atValue, scalar⟩ := first
    have fresh : ∀ entry ∈ known, entry.1.keyEquals keyForm = false := fun entry member =>
      (List.pairwise_append.mp distinct).2.2 entry member _ (List.mem_cons_self ..)
    have next := @ih (known ++ [(keyForm, valueForm)]) (by simpa using distinct)
    rw [primitiveEntries, atKey, atValue]
    refine (if_pos scalar).trans ?_
    rw [insert_of_fresh fresh, next, List.append_assoc, List.singleton_append]

/-- The primitive form of fields has the primitive forms of their values. -/
private theorem primitive_fields {entries results : List (String × Value)}
    (distinct : (entries.map Prod.fst).Nodup)
    (each : List.Forall₂ (fun entry result => result.1 = entry.1 ∧ entry.2.primitive = .ok result.2)
      entries results) :
    (Value.fields entries).primitive = .ok (Value.fields results) := by
  have names : results.map Prod.fst = entries.map Prod.fst := by
    induction each with
    | nil => rfl
    | cons first _ ih =>
      rw [List.map_cons, List.map_cons, first.1, ih (List.nodup_cons.mp distinct).2]
  have entered : List.Forall₂ (fun entry result => entry.1.primitive = .ok result.1 ∧
      entry.2.primitive = .ok result.2 ∧ result.1.isScalar = true)
      (fieldList entries) (fieldList results) := by
    apply List.forall₂_map_left_iff.mpr
    apply List.forall₂_map_right_iff.mpr
    apply each.imp
    rintro ⟨_, value⟩ ⟨name, read⟩ ⟨rfl, done⟩
    exact ⟨rfl, done, rfl⟩
  have done := @primitiveEntries_of_distinct [] _ _ entered (pairwise_fieldList (names ▸ distinct))
  rw [Value.fields, primitive]
  exact congrArg (Except.map Value.dict) done

private theorem primitive_list {items results : List Value}
    (each : List.Forall₂ (fun item result => item.primitive = .ok result) items results) :
    (Value.list items).primitive = .ok (.list results) := by
  suffices all : primitiveAll items = .ok results by rw [primitive, all]; rfl
  induction each with
  | nil => rw [primitiveAll]
  | cons first _ ih =>
    rw [primitiveAll, first, ih]
    rfl

private theorem primitive_fields_self {entries : List (String × Value)}
    (distinct : (entries.map Prod.fst).Nodup)
    (each : ∀ entry ∈ entries, entry.2.primitive = .ok entry.2) :
    (Value.fields entries).primitive = .ok (Value.fields entries) :=
  primitive_fields distinct (List.forall₂_same.mpr fun entry member => ⟨rfl, each entry member⟩)

theorem primitive_list_self {items : List Value}
    (each : ∀ item ∈ items, item.primitive = .ok item) :
    (Value.list items).primitive = .ok (.list items) :=
  primitive_list (List.forall₂_same.mpr each)

end Value

private theorem all_isValidChar (text : List Char) :
    ((text.map Char.toNat).all fun point => point.isValidChar) = true := by
  simp only [List.all_map, List.all_eq_true, Function.comp_apply, decide_eq_true_eq]
  exact fun c _ => c.valid

private theorem map_ofNat_toNat
    (text : List Char) : (text.map Char.toNat).map Char.ofNat = text := by
  simp [Function.comp_def, Char.ofNat_toNat]

/-- The code points of a text stand for that text. -/
private theorem Value.ofPoints_toNat (text : List Char) : ofPoints
    (text.map Char.toNat) = .text text := by
  rw [ofPoints, if_pos (all_isValidChar text), map_ofNat_toNat]

/-- Whether a line tells of a diagnostic in a file: its path and place, and what is wrong there. -/
def Tells (told : String × Diagnostic) (line : String) : Prop :=
  ∃ message : String, told.2.message = .ok (message.toList.map Char.toNat) ∧
    line = told.1 ++ ":" ++ toString told.2.line ++ ":" ++ toString told.2.column ++ ": " ++
      told.2.severity.label ++ ": " ++ message ++ " (" ++ told.2.code.label ++ ")"

namespace Diagnostic

/-- Whether a diagnostic is worded as the rule words it. -/
def IsWorded (diagnostic : Diagnostic) : Prop :=
  diagnostic.template = (tooLong 0 0 0 0 0).template ∨
    diagnostic.template = (maxExceeded 0 0 0 0 0).template

/-- Whether all numbers of a diagnostic are short enough to be written. -/
@[mk_iff]
structure Writable (diagnostic : Diagnostic) : Prop where
  anchor : Text.canWrite diagnostic.anchor = true
  line : Text.canWrite diagnostic.line = true
  column : Text.canWrite diagnostic.column = true
  limit : Text.canWrite diagnostic.limit = true
  length : Text.canWrite diagnostic.length = true

instance (diagnostic : Diagnostic) : Decidable diagnostic.Writable :=
  decidable_of_iff' _ (writable_iff diagnostic)

variable {diagnostic : Diagnostic}

private theorem exists_message (worded : diagnostic.IsWorded) (writable : diagnostic.Writable) :
    ∃ message : List Char, diagnostic.message = .ok (message.map Char.toNat) := by
  have places : templatePlaces diagnostic.template.toList = some 2 := by
    rcases worded with template | template <;> rw [template] <;> decide
  have numbers : ∀ number ∈ [diagnostic.limit, diagnostic.length], Text.canWrite number = true := by
    simp [writable.limit, writable.length]
  rcases fillTemplate_of_places places numbers with ⟨-, filled⟩ | ⟨other, -⟩
  · exact filled
  · exact absurd rfl other

private theorem exists_tell (worded : diagnostic.IsWorded) (writable : diagnostic.Writable)
    (path : String) : ∃ line, Tells (path, diagnostic) line ∧ diagnostic.tell path = .ok line := by
  obtain ⟨message, done⟩ := exists_message worded writable
  refine ⟨_, ⟨String.ofList message, by rw [done, String.toList_ofList], rfl⟩, ?_⟩
  rw [tell, writable.line, writable.column, done]
  simp only [Except.mapError, bind, Except.bind, all_isValidChar, map_ofNat_toNat]
  rfl

private theorem exists_toValue (worded : diagnostic.IsWorded) (writable : diagnostic.Writable) :
    ∃ value, diagnostic.toValue = .ok value ∧ Json.canWrite value = true := by
  obtain ⟨message, done⟩ := exists_message worded writable
  refine ⟨_, by rw [toValue, done]; rfl, ?_⟩
  rw [Value.ofPoints_toNat]
  simp [writable.anchor, writable.line, writable.column, writable.limit, writable.length]

end Diagnostic

/-- The number of anything among the records of a report is at most the number of records. -/
theorem Report.counts_le (report : Report) :
    report.errors.length ≤ report.records.length ∧ report.warnings.length ≤ report.records.length ∧
      ∀ bucket ∈ report.bucketCounts, bucket.2 ≤ report.records.length := by
  have diagnostics : report.diagnostics.length ≤ report.records.length :=
    List.length_filterMap_le ..
  refine ⟨Nat.le_trans (List.length_filter_le ..) diagnostics,
    Nat.le_trans (List.length_filter_le ..) diagnostics, ?_⟩
  intro bucket member
  obtain ⟨kind, -, rfl⟩ := List.mem_map.mp member
  exact Nat.le_trans List.countP_le_length (List.length_filterMap_le ..)

private theorem canWrite_of_le {count bound : Nat} (le : count ≤ bound)
    (can : Text.canWrite (bound : Int) = true) : Text.canWrite (count : Int) = true :=
  Text.canWrite_natCast_iff.mpr (Nat.lt_of_le_of_lt le (Text.canWrite_natCast_iff.mp can))

/-- Whether all numbers of a report are short enough to be written. -/
@[mk_iff]
structure Report.Writable (report : Report) : Prop where
  records : Text.canWrite (report.records.length : Int) = true
  diagnostics : ∀ diagnostic ∈ report.diagnostics, diagnostic.Writable

instance (report : Report) : Decidable report.Writable :=
  decidable_of_iff' _ (Report.writable_iff report)

private theorem Report.exists_toValue {report : Report}
    (worded : ∀ diagnostic ∈ report.diagnostics, diagnostic.IsWorded) (writable : report.Writable) :
    ∃ value, report.toValue = .ok value ∧ Json.canWrite value = true := by
  obtain ⟨values, done, written⟩ := exists_mapM_forall fun diagnostic member =>
    Diagnostic.exists_toValue (worded diagnostic member) (writable.diagnostics diagnostic member)
  obtain ⟨errors, warnings, buckets⟩ := report.counts_le
  refine ⟨_, by rw [toValue, done]; rfl, ?_⟩
  simp only [Json.canWrite_fields_iff, List.forall_mem_cons, List.not_mem_nil, false_implies,
    implies_true, and_true, Json.canWrite_ofString, Json.canWrite_int, Json.canWrite_list_iff,
    List.forall_mem_map, true_and]
  exact ⟨canWrite_of_le errors writable.records, canWrite_of_le warnings writable.records, written,
    fun bucket member => canWrite_of_le (buckets bucket member) writable.records⟩

private theorem Action.primitive_toValue (action : Action) :
    action.toValue.primitive = .ok action.toValue := by
  apply Value.primitive_fields_self (by simp)
  simp only [List.forall_mem_cons, List.not_mem_nil, false_implies, implies_true, and_true]
  exact ⟨Value.primitive_ofString, Value.primitive_ofString?⟩

/-- A failure is told as it is, and only what it may bring along has to be looked at. -/
private theorem Failure.primitive_toValue {failure : Failure}
    (plain : failure.context.info.primitive = .ok failure.context.info) (time : String) :
    (failure.toValue time).primitive = .ok (failure.toValue time) := by
  apply Value.primitive_fields_self (by simp)
  simp only [List.forall_mem_cons, List.not_mem_nil, false_implies, implies_true, and_true,
    Value.primitive_ofString, Value.primitive_ofString?, Value.primitive_int, true_and]
  constructor
  · apply Value.primitive_fields_self (by simp)
    simp only [List.forall_mem_cons, List.not_mem_nil, false_implies, implies_true, and_true,
      Value.primitive_ofString, Value.primitive_ofString?, plain]
  · apply Value.primitive_list_self
    exact List.forall_mem_map.mpr fun action _ => action.primitive_toValue

private theorem Failure.canWrite_toValue {failure : Failure}
    (plain : Json.canWrite failure.context.info = true)
    (code : Text.canWrite (failure.code.number : Int) = true) (time : String) :
    Json.canWrite (failure.toValue time) = true := by
  simp [Failure.toValue, Action.toValue, plain, code]

/-- The lines that tell of diagnostics are told in order, behind those told before. -/
private theorem tellOnto_eq {diagnostics : List (String × Diagnostic)}
    (worded : ∀ told ∈ diagnostics, told.2.IsWorded)
    (writable : ∀ told ∈ diagnostics, told.2.Writable) (before : List String) :
    ∃ lines, List.Forall₂ Tells diagnostics lines ∧
      tellOnto before diagnostics = (before.reverse ++ lines, none) := by
  induction diagnostics generalizing before with
  | nil => exact ⟨[], .nil, by rw [tellOnto, List.append_nil]⟩
  | cons told rest ih =>
    obtain ⟨wordedFirst, wordedRest⟩ := List.forall_mem_cons.mp worded
    obtain ⟨writableFirst, writableRest⟩ := List.forall_mem_cons.mp writable
    obtain ⟨line, first, done⟩ := Diagnostic.exists_tell wordedFirst writableFirst told.1
    obtain ⟨lines, tells, later⟩ := ih wordedRest writableRest (line :: before)
    refine ⟨line :: lines, .cons first tells, ?_⟩
    rw [List.reverse_cons, List.append_assoc, List.singleton_append] at later
    rw [tellOnto, done]
    exact later

namespace Survey

/-- Whether all numbers that an account of a survey may write are short enough. -/
@[mk_iff]
structure Writable (survey : Survey) (settings : Settings) : Prop where
  lineLimit : Text.canWrite (settings.lineLimit : Int) = true
  hardLimit : Text.canWrite (settings.absoluteLineLimit : Int) = true
  tabWidth : Text.canWrite (settings.tabWidth : Int) = true
  files : Text.canWrite (survey.reports.length : Int) = true
  errors : Text.canWrite (survey.errorCount : Int) = true
  warnings : Text.canWrite (survey.warningCount : Int) = true
  reports : ∀ report ∈ survey.reports, report.Writable

instance (survey : Survey) (settings : Settings) : Decidable (survey.Writable settings) :=
  decidable_of_iff' _ (writable_iff survey settings)

/-- Whether a survey comes from the rule and from files that could not be read. -/
structure IsPlain (survey : Survey) : Prop where
  worded : ∀ report ∈ survey.reports, ∀ diagnostic ∈ report.diagnostics, diagnostic.IsWorded
  unread : ∀ failure ∈ survey.failures, ∃ path reason, failure = sourceFailure path reason

variable {survey : Survey} {settings : Settings}

theorem text_eq (plain : survey.IsPlain) (writable : survey.Writable settings) (metrics : Bool) :
    ∃ lines, List.Forall₂ Tells survey.diagnostics lines ∧ survey.text metrics =
      { output := unlines (lines ++ survey.summary :: if metrics then survey.distribution else [])
        errors := survey.failureText } := by
  have member : ∀ told ∈ survey.diagnostics,
      ∃ report ∈ survey.reports, told.2 ∈ report.diagnostics := by
    intro told member
    obtain ⟨report, among, member⟩ := List.mem_flatMap.mp member
    obtain ⟨diagnostic, found, rfl⟩ := List.mem_map.mp member
    exact ⟨report, among, found⟩
  obtain ⟨lines, tells, done⟩ := @tellOnto_eq survey.diagnostics
    (fun told within => by
      obtain ⟨report, among, found⟩ := member told within
      exact plain.worded report among _ found)
    (fun told within => by
      obtain ⟨report, among, found⟩ := member told within
      exact (writable.reports report among).diagnostics _ found) []
  refine ⟨lines, tells, ?_⟩
  rw [text, done]
  rfl

/-- The document of a survey, given the values of its reports. -/
def document (survey : Survey) (settings : Settings) (time : String) (reports : List Value) :
    Value :=
  .fields
    [("config", settings.toValue), ("files", .list reports),
      ("failures", .list (survey.failures.map fun failure => failure.toValue time)),
      ("totals", .fields
        [("files", .int survey.reports.length), ("errors", .int survey.errorCount),
          ("warnings", .int survey.warningCount)])]

private theorem primitive_reports {reports : List Value}
    (done : survey.reports.mapM Report.toValue = .ok reports) :
    (Value.list (survey.reports.map .report)).primitive = .ok (.list reports) := by
  apply Value.primitive_list
  rw [List.forall₂_map_left_iff]
  apply (forall₂_of_mapM_eq_ok done).imp
  intro report value done
  rw [Value.primitive, Value.primitiveLeaf, done]
  · rfl
  all_goals nofun

private theorem primitive_failures (plain : survey.IsPlain) (time : String) :
    (Value.list (survey.failures.map fun failure => failure.toValue time)).primitive =
      .ok (.list (survey.failures.map fun failure => failure.toValue time)) := by
  apply Value.primitive_list_self
  rw [List.forall_mem_map]
  intro failure member
  obtain ⟨path, reason, rfl⟩ := plain.unread failure member
  apply Failure.primitive_toValue
  rw [sourceFailure, Value.primitive]
  rfl

private theorem primitive_toValue (plain : survey.IsPlain) {time : String} {reports : List Value}
    (done : survey.reports.mapM Report.toValue = .ok reports) :
    (survey.toValue settings time).primitive = .ok (survey.document settings time reports) := by
  apply Value.primitive_fields (by simp)
  refine .cons ⟨rfl, ?_⟩ (.cons ⟨rfl, primitive_reports done⟩
    (.cons ⟨rfl, primitive_failures plain time⟩ (.cons ⟨rfl, ?_⟩ .nil)))
  · rw [Value.primitive, Value.primitiveLeaf]
    all_goals nofun
  · apply Value.primitive_fields_self (by simp)
    simp [Value.primitive_int]

private theorem canWrite_document (plain : survey.IsPlain) (writable : survey.Writable settings)
    {time : String} {reports : List Value}
    (each : ∀ report ∈ reports, Json.canWrite report = true) :
    Json.canWrite (survey.document settings time reports) = true := by
  have failures : ∀ failure ∈ survey.failures, Json.canWrite (failure.toValue time) = true := by
    intro failure member
    obtain ⟨path, reason, rfl⟩ := plain.unread failure member
    apply Failure.canWrite_toValue
    · simp [sourceFailure, Failure.ofCategory, Json.canWrite, Json.canWriteEntries]
    · have code : Text.canWrite (FailureCode.fileReadFailed.number : Int) = true := by
        decide +kernel
      exact code
  simp only [document, Settings.toValue, Json.canWrite_fields_iff, Json.canWrite_list_iff,
    Json.canWrite_int, Json.canWrite_bool, List.forall_mem_cons, List.not_mem_nil, false_implies,
    implies_true, and_true, true_and, List.forall_mem_map]
  exact ⟨⟨writable.lineLimit, writable.hardLimit, writable.tabWidth⟩, each, failures,
    writable.files, writable.errors, writable.warnings⟩

theorem json_eq (plain : survey.IsPlain) (writable : survey.Writable settings) (time : String) :
    ∃ reports, survey.reports.mapM Report.toValue = .ok reports ∧ survey.json settings time =
      { output := Json.text (survey.document settings time reports) ++ "\n" } := by
  obtain ⟨reports, done, written⟩ := exists_mapM_forall fun report member =>
    Report.exists_toValue (plain.worded report member) (writable.reports report member)
  refine ⟨reports, done, ?_⟩
  rw [json, primitive_toValue plain done]
  exact if_pos (canWrite_document plain writable written)

end Survey

end LineWidth
