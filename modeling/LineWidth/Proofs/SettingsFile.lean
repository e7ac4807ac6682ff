import LineWidth.Proofs.IntegerText
import LineWidth.Proofs.SettingsMapping
import LineWidth.Proofs.Utf8
import LineWidth.Settings.File
import Mathlib.Data.List.TakeDrop
import Mathlib.Data.List.TakeWhile

/-! # What a settings file can come to

Every settings file gives valid settings or a configuration failure, with few exceptions. They are
listed in `Escapes` and are exactly the contents on which reading breaks down
(`FileTree.loadSettings_eq_breakdown_iff`): bytes that are no text, more digits or a deeper nesting
than is read, and an entry by the name `self`. Beside them only the keys matter, and these are texts
since an object of a document has no others.
-/

namespace LineWidth

namespace Value

/-- A value that a document can hold. Its integers are short enough to be read, and an object is
built from its members, of which each has a text as its name. -/
inductive IsJson : Value → Prop
  | null : IsJson .null
  | bool (truth : Bool) : IsJson (.bool truth)
  | int {number : Int} (short : Text.canWrite number = true) : IsJson (.int number)
  | float (number : Binary64) : IsJson (.float number)
  | string (points : List Nat) : IsJson (.ofPoints points)
  | list {items : List Value} (each : ∀ item ∈ items, IsJson item) : IsJson (.list items)
  | object {members : List (Value × Value)}
      (names : ∀ member ∈ members, ∃ points, member.1 = .ofPoints points)
      (each : ∀ member ∈ members, IsJson member.2) : IsJson (.dict (entriesOf members))

section Entries

variable {P Q : Value → Prop} {entries : List (Value × Value)}

theorem forall_mem_insert {key value : Value} (atKey : P key) (atValue : Q value)
    (each : ∀ entry ∈ entries, P entry.1 ∧ Q entry.2) :
    ∀ entry ∈ insert key value entries, P entry.1 ∧ Q entry.2 := by
  induction entries with
  | nil => exact List.forall_mem_singleton.mpr ⟨atKey, atValue⟩
  | cons entry entries ih =>
    obtain ⟨⟨known, old⟩, rest⟩ := List.forall_mem_cons.mp each
    unfold insert
    split_ifs
    · exact List.forall_mem_cons.mpr ⟨⟨known, atValue⟩, rest⟩
    · exact List.forall_mem_cons.mpr ⟨⟨known, old⟩, ih rest⟩

/-- The keys and the values of a mapping are among those that it was built from. -/
private theorem forall_mem_entriesOf (each : ∀ entry ∈ entries, P entry.1 ∧ Q entry.2) :
    ∀ entry ∈ entriesOf entries, P entry.1 ∧ Q entry.2 := by
  induction entries using List.reverseRecOn with
  | nil => exact each
  | append_singleton entries entry ih =>
    obtain ⟨before, last⟩ := List.forall_mem_append.mp each
    obtain ⟨atKey, atValue⟩ := List.forall_mem_singleton.mp last
    rw [entriesOf_concat]
    exact forall_mem_insert atKey atValue (ih before)

theorem IsJson.of_dict (json : IsJson (.dict entries)) :
    ∀ entry ∈ entries, (∃ points, entry.1 = .ofPoints points) ∧ IsJson entry.2 := by
  generalize same : Value.dict entries = value at json
  cases json with
  | object names each =>
    obtain rfl := Value.dict.inj same
    apply forall_mem_entriesOf (P := fun key => ∃ points, key = .ofPoints points)
    exact fun member within => ⟨names member within, each member within⟩
  | string points =>
    unfold ofPoints at same
    split_ifs at same
  | _ => cases same

end Entries

end Value

namespace Json

private theorem isDigit_of_mem_digitsAt {text : List Char} :
    ∀ c ∈ (digitsAt text).1, c.isDigit = true := by
  rw [digitsAt, List.span_eq_takeWhile_dropWhile]
  exact fun _ => List.mem_takeWhile_imp

private theorem digitValues_lt_ten {digits : List Char} (decimal : ∀ c ∈ digits, c.isDigit = true) :
    ∀ digit ∈ digitValues digits, digit < 10 := by
  intro digit member
  obtain ⟨c, among, rfl⟩ := List.mem_map.mp member
  exact Text.digitValue?_lt (if_pos (decimal c among))

private theorem numberAt_isJson {text rest : List Char} {value : Value}
    (done : numberAt text = .ok (value, rest)) : value.IsJson := by
  simp only [numberAt] at done
  generalize (text.head? == some '-') = negative at done
  generalize (if negative then text.drop 1 else text) = unsigned at done
  have decimal : ∀ c ∈ (if unsigned.head? == some '0' then (['0'], unsigned.drop 1)
      else digitsAt unsigned).1, c.isDigit = true := by
    split_ifs
    · exact List.forall_mem_singleton.mpr rfl
    · exact isDigit_of_mem_digitsAt
  generalize (if unsigned.head? == some '0' then (['0'], unsigned.drop 1)
    else digitsAt unsigned) = taken at done decimal
  split at done
  · cases done
  split at done
  · split at done
    · cases done
    · next short =>
      obtain ⟨rfl, -⟩ := Prod.mk.inj (Except.ok.inj done)
      have can : Text.canWrite (Text.ofDigits (digitValues taken.1) : Int) = true := by
        apply Text.canWrite_ofDigits (digitValues_lt_ten decimal)
        rw [digitValues, List.length_map]
        exact Nat.not_lt.mp short
      apply Value.IsJson.int
      split_ifs
      · rw [Text.canWrite_neg]
        exact can
      · exact can
  · obtain ⟨rfl, -⟩ := Prod.mk.inj (Except.ok.inj done)
    exact .float _

private theorem words_isJson : ∀ word ∈ words, word.2.IsJson := by
  simp only [words, List.forall_mem_cons, List.not_mem_nil, false_implies, implies_true, and_true]
  exact ⟨.null, .bool _, .bool _, .float _, .float _, .float _⟩

private theorem scalarAt_isJson {text rest : List Char} {value : Value}
    (done : scalarAt text = .ok (value, rest)) : value.IsJson := by
  unfold scalarAt at done
  split at done
  · next word read found =>
    obtain ⟨rfl, -⟩ := Prod.mk.inj (Except.ok.inj done)
    exact words_isJson _ (List.mem_of_find?_eq_some found)
  · exact numberAt_isJson done

/-- Whatever the readers read is a value that a document can hold. -/
private theorem readers_isJson (fuel : Nat) :
    (∀ {depth text value rest}, valueAt fuel depth text = .ok (value, rest) → value.IsJson) ∧
    (∀ {depth items text value rest}, (∀ item ∈ items, Value.IsJson item) →
      itemsAt fuel depth items text = .ok (value, rest) → value.IsJson) ∧
    ∀ {depth} {members : List (Value × Value)} {text value rest},
      (∀ member ∈ members, (∃ points, member.1 = .ofPoints points) ∧ member.2.IsJson) →
      membersAt fuel depth members text = .ok (value, rest) → value.IsJson := by
  induction fuel with
  | zero => simp [valueAt, itemsAt, membersAt]
  | succ fuel ih =>
    obtain ⟨ofValue, ofItems, ofMembers⟩ := ih
    refine ⟨fun {depth text value rest} done => ?_,
      fun {depth items text value rest} each done => ?_,
      fun {depth members text value rest} each done => ?_⟩
    · unfold valueAt at done
      split at done
      · obtain ⟨⟨points, after⟩, -, same⟩ := bind_eq_ok_iff.mp done
        obtain ⟨rfl, -⟩ := Prod.mk.inj (Except.ok.inj same)
        exact .string points
      · split_ifs at done
        split at done
        · obtain ⟨rfl, -⟩ := Prod.mk.inj (Except.ok.inj done)
          exact .list (List.forall_mem_nil _)
        · exact ofItems (List.forall_mem_nil _) done
      · split_ifs at done
        split at done
        · obtain ⟨rfl, -⟩ := Prod.mk.inj (Except.ok.inj done)
          exact @Value.IsJson.object [] (List.forall_mem_nil _) (List.forall_mem_nil _)
        · exact ofMembers (List.forall_mem_nil _) done
      · exact scalarAt_isJson done
    · unfold itemsAt at done
      split at done
      · cases done
      · next item after read =>
        have more := List.forall_mem_cons.mpr ⟨ofValue read, each⟩
        split at done
        · obtain ⟨rfl, -⟩ := Prod.mk.inj (Except.ok.inj done)
          exact .list fun item member => more item (List.mem_reverse.mp member)
        · exact ofItems more done
        · cases done
    · unfold membersAt at done
      split at done
      case h_2 => cases done
      split at done
      · cases done
      next points afterName named =>
      split at done
      case h_2 => cases done
      split at done
      · cases done
      next item afterItem read =>
      have more : ∀ member ∈ (Value.ofPoints points, item) :: members,
          (∃ points, member.1 = .ofPoints points) ∧ member.2.IsJson :=
        List.forall_mem_cons.mpr ⟨⟨⟨points, rfl⟩, ofValue read⟩, each⟩
      split at done
      · obtain ⟨rfl, -⟩ := Prod.mk.inj (Except.ok.inj done)
        exact .object (fun member within => (more member (List.mem_reverse.mp within)).1)
          fun member within => (more member (List.mem_reverse.mp within)).2
      · exact ofMembers more done
      · cases done

theorem document_isJson {text : List Char} {value : Value} (done : document text = .ok value) :
    value.IsJson := by
  unfold document at done
  split_ifs at done
  split at done
  · cases done
  · next read rest found =>
    split at done
    · obtain rfl := Except.ok.inj done
      exact (readers_isJson _).1 found
    · cases done

end Json

private theorem isJson_of_lookup? {key value : Value} {entries : List (Value × Value)}
    (json : Value.IsJson (.dict entries)) (found : Value.lookup? key entries = some value) :
    value.IsJson := by
  obtain ⟨entry, first, rfl⟩ := Option.map_eq_some_iff.mp found
  exact (json.of_dict entry (List.mem_of_find?_eq_some first)).2

/-- The settings part of a document is an object of the document. -/
theorem isJson_of_settingsIn? {document : Value} {entries : List (Value × Value)}
    (json : document.IsJson) (found : settingsIn? document = some entries) :
    Value.IsJson (.dict entries) := by
  cases document with
  | dict outer =>
    simp only [settingsIn?] at found
    cases section? : Value.lookup? (.ofString settingsSection) outer with
    | none =>
      rw [section?, Option.getD_none] at found
      rwa [← Option.some.inj found]
    | some inner =>
      rw [section?, Option.getD_some] at found
      have json := isJson_of_lookup? json section?
      cases inner with
      | dict entries =>
        rwa [← Option.some.inj found]
      | _ => cases found
  | _ => cases found

private theorem points?_ofPoints
    {points : List Nat} : (Value.ofPoints points).points? = some points := by
  unfold Value.ofPoints
  split_ifs with valid
  · have same : ∀ point ∈ points, (Char.toNat ∘ Char.ofNat) point = point := by
      intro point member
      have inRange := of_decide_eq_true (List.all_eq_true.mp valid point member)
      exact (Text.eq_ofNat_iff inRange).mp rfl
    simp only [Value.points?, Value.chars?, Option.map_some, List.map_map]
    rw [List.map_congr_left same, List.map_id']
  · rfl

/-- The one text that is no name. -/
private theorem isName_ofPoints_eq_false_iff {points : List Nat} :
    Settings.isName (.ofPoints points) = false ↔ Value.ofPoints points = .ofString "self" := by
  rw [Settings.isName, points?_ofPoints, Option.any_some, bne_eq_false_iff_eq]
  constructor
  · rintro rfl
    rfl
  · intro same
    have both : (Value.ofPoints points).points? = some points := points?_ofPoints
    rw [same] at both
    exact (Option.some.inj both).symm

private theorem ofMapping_eq_unusableKey_iff_self {entries : List (Value × Value)}
    (names : ∀ entry ∈ entries, ∃ points, entry.1 = .ofPoints points) :
    Settings.ofMapping entries = .error .unusableKey ↔
      ∃ value, (.ofString "self", value) ∈ entries := by
  rw [Settings.ofMapping_eq_unusableKey_iff]
  constructor
  · rintro ⟨⟨key, value⟩, member, unusable⟩
    obtain ⟨points, rfl⟩ := names _ member
    rw [isName_ofPoints_eq_false_iff.mp unusable] at member
    exact ⟨value, member⟩
  · rintro ⟨value, member⟩
    exact ⟨_, member, rfl⟩

/-- The settings by name that a text holds as a document. -/
def Holds (text : List Char) (entries : List (Value × Value)) : Prop :=
  ∃ document, Json.document text = .ok document ∧ settingsIn? document = some entries

namespace Settings

variable {name : String} {text : List Char}

private theorem ofText_eq_ok_iff {settings : Settings} :
    ofText name text = .ok settings ↔
      ∃ entries, Holds text entries ∧ ofMapping entries = .ok settings := by
  unfold ofText Holds
  cases read : Json.document text with
  | error fault => cases fault <;> simp
  | ok document =>
    simp only [Except.ok.injEq, exists_eq_left']
    cases settingsIn? document with
    | none => simp
    | some entries => simp [mapError_eq_ok_iff]

private theorem ofText_eq_breakdown_iff {breakdown : Breakdown} :
    ofText name text = .error (.breakdown breakdown) ↔
      (Json.document text = .error .tooManyDigits ∧ breakdown = .tooManyDigits) ∨
      (Json.document text = .error .tooDeep ∧ breakdown = .tooDeep) ∨
      ∃ entries value, Holds text entries ∧ (.ofString "self", value) ∈ entries ∧
        breakdown = .unusableKey := by
  unfold ofText Holds
  cases read : Json.document text with
  | error fault => cases fault <;> simp [unreadableSettings, settingsFailure, eq_comm]
  | ok document =>
    simp only [Except.ok.injEq, exists_eq_left', reduceCtorEq, false_and, false_or]
    cases found : settingsIn? document with
    | none => simp [settingsFailure]
    | some entries =>
      have part := isJson_of_settingsIn? (Json.document_isJson read) found
      have self := ofMapping_eq_unusableKey_iff_self fun entry member =>
        (part.of_dict entry member).1
      simp only [mapError_eq_error_iff, SettingsFault.stop_eq_breakdown_iff, Option.some.injEq]
      constructor
      · rintro ⟨_, refused, rfl, rfl⟩
        obtain ⟨value, member⟩ := self.mp refused
        exact ⟨entries, value, rfl, member, rfl⟩
      · rintro ⟨_, value, rfl, member, rfl⟩
        exact ⟨_, self.mpr ⟨value, member⟩, rfl, rfl⟩

private theorem category_of_ofText {failure : Failure}
    (told : ofText name text = .error (.failure failure)) : failure.category = .configuration := by
  unfold ofText at told
  split at told
  · obtain rfl := Stop.failure.inj (Except.error.inj told)
    rfl
  · cases told
  · cases told
  · split at told
    · obtain rfl := Stop.failure.inj (Except.error.inj told)
      rfl
    · obtain ⟨fault, -, stopped⟩ := mapError_eq_error_iff.mp told
      exact SettingsFault.category_of_stop stopped

end Settings

/-- The settings by name that the content of a file holds. -/
def Describes (content : ByteArray) (entries : List (Value × Value)) : Prop :=
  ∃ text : List Char, content = text.utf8Encode ∧ Holds (unifyLineEnds text) entries

/-- The contents of settings files on which the program breaks down, and how it does. -/
inductive Escapes (content : ByteArray) : Breakdown → Prop
  | undecodable (invalid : ¬ content.IsValidUTF8) : Escapes content .undecodableText
  | tooManyDigits {text : List Char} (encodes : content = text.utf8Encode)
      (refused : Json.document (unifyLineEnds text) = .error .tooManyDigits) :
      Escapes content .tooManyDigits
  | tooDeep {text : List Char} (encodes : content = text.utf8Encode)
      (refused : Json.document (unifyLineEnds text) = .error .tooDeep) : Escapes content .tooDeep
  | unusableKey {entries : List (Value × Value)} {value : Value}
      (describes : Describes content entries) (member : (.ofString "self", value) ∈ entries) :
      Escapes content .unusableKey

namespace FileTree

variable {tree : FileTree} {path : Path} {content : ByteArray} {readable : Bool}

/-- What reading the file that a path leads to gives. -/
theorem read_of_lookUp (there : tree.lookUp path = .ok (some (.file content readable))) :
    path.hasNull = false ∧
      tree.read path = if readable then .ok content else .error .denied := by
  unfold lookUp at there
  split_ifs at there with null
  · cases there
  · refine ⟨Bool.eq_false_iff.mpr null, ?_⟩
    split at there
    · next place node found =>
      obtain rfl := Option.some.inj (Except.ok.inj there)
      rw [read, found]
      rfl
    · cases there
    · cases there
    · cases there

private theorem loadSettings_of_unreadable
    (there : tree.lookUp path = .ok (some (.file content false))) :
    tree.loadSettings path = .error (unreadableSettings path.text
      (FileFault.denied.message (Text.quoted path.text.toList))) := by
  obtain ⟨openable, refused⟩ := read_of_lookUp there
  simp only [loadSettings, openable, refused, Bool.false_eq_true, if_false]

private theorem loadSettings_of_valid (there : tree.lookUp path = .ok (some (.file content true)))
    {text : List Char} (encodes : content = text.utf8Encode) :
    tree.loadSettings path = Settings.ofText path.text (unifyLineEnds text) := by
  obtain ⟨openable, readable⟩ := read_of_lookUp there
  simp only [loadSettings, openable, readable, Bool.false_eq_true, if_false, if_true,
    Text.decodeUtf8_content_iff.mpr encodes]

private theorem loadSettings_of_invalid (there : tree.lookUp path = .ok (some (.file content true)))
    (invalid : ¬ content.IsValidUTF8) :
    tree.loadSettings path = .error (.breakdown .undecodableText) := by
  obtain ⟨openable, readable⟩ := read_of_lookUp there
  simp only [loadSettings, openable, readable, Bool.false_eq_true, if_false, if_true]
  split
  · rfl
  · next text decoded => exact absurd (Text.exists_decodeUtf8_iff.mp ⟨text, decoded⟩) invalid

theorem exists_utf8Encode_of_valid (valid : content.IsValidUTF8) :
    ∃ text : List Char, content = text.utf8Encode := by
  obtain ⟨text, decoded⟩ := Text.exists_decodeUtf8_iff.mpr valid
  exact ⟨text, Text.decodeUtf8_content_iff.mp decoded⟩

private theorem utf8Encode_injective {first second : List Char}
    (same : first.utf8Encode = second.utf8Encode) : first = second := by
  have read := Text.decodeUtf8_content_iff.mpr same
  rw [Text.decodeUtf8_content_iff.mpr rfl] at read
  exact Except.ok.inj read

/-- A settings file gives the settings that its entries give, if it can be read. -/
theorem loadSettings_eq_ok_iff (there : tree.lookUp path = .ok (some (.file content readable)))
    {settings : Settings} :
    tree.loadSettings path = .ok settings ↔ readable = true ∧
      ∃ entries, Describes content entries ∧ Settings.ofMapping entries = .ok settings := by
  cases readable with
  | false =>
    rw [loadSettings_of_unreadable there]
    refine iff_of_false ?_ fun both => Bool.noConfusion both.1
    rintro ⟨⟩
  | true =>
    rw [eq_self_iff_true, true_and]
    by_cases valid : content.IsValidUTF8
    · obtain ⟨text, rfl⟩ := exists_utf8Encode_of_valid valid
      rw [loadSettings_of_valid there rfl, Settings.ofText_eq_ok_iff]
      constructor
      · rintro ⟨entries, holds, done⟩
        exact ⟨entries, ⟨text, rfl, holds⟩, done⟩
      · rintro ⟨entries, ⟨other, same, holds⟩, done⟩
        obtain rfl := utf8Encode_injective same
        exact ⟨entries, holds, done⟩
    · rw [loadSettings_of_invalid there valid]
      refine iff_of_false (by rintro ⟨⟩) ?_
      rintro ⟨entries, ⟨text, encodes, -⟩, -⟩
      exact valid ⟨text, encodes⟩

/-- The program breaks down on a settings file exactly when it can be read and its content escapes.
-/
theorem loadSettings_eq_breakdown_iff
    (there : tree.lookUp path = .ok (some (.file content readable))) {breakdown : Breakdown} :
    tree.loadSettings path = .error (.breakdown breakdown) ↔
      readable = true ∧ Escapes content breakdown := by
  cases readable with
  | false =>
    rw [loadSettings_of_unreadable there]
    refine iff_of_false ?_ fun both => Bool.noConfusion both.1
    rintro ⟨⟩
  | true =>
    rw [eq_self_iff_true, true_and]
    by_cases valid : content.IsValidUTF8
    · obtain ⟨text, rfl⟩ := exists_utf8Encode_of_valid valid
      rw [loadSettings_of_valid there rfl, Settings.ofText_eq_breakdown_iff]
      constructor
      · rintro (⟨refused, rfl⟩ | ⟨refused, rfl⟩ | ⟨entries, value, holds, member, rfl⟩)
        · exact .tooManyDigits rfl refused
        · exact .tooDeep rfl refused
        · exact .unusableKey ⟨text, rfl, holds⟩ member
      · rintro (invalid | ⟨same, refused⟩ | ⟨same, refused⟩ | ⟨⟨other, same, holds⟩, member⟩)
        · exact absurd valid invalid
        · obtain rfl := utf8Encode_injective same
          exact .inl ⟨refused, rfl⟩
        · obtain rfl := utf8Encode_injective same
          exact .inr (.inl ⟨refused, rfl⟩)
        · obtain rfl := utf8Encode_injective same
          exact .inr (.inr ⟨_, _, holds, member, rfl⟩)
    · rw [loadSettings_of_invalid there valid]
      constructor
      · rintro ⟨⟩
        exact .undecodable valid
      · rintro (- | ⟨same, -⟩ | ⟨same, -⟩ | ⟨⟨text, same, -⟩, -⟩)
        · rfl
        all_goals exact absurd ⟨_, same⟩ valid

/-- Loading settings fails with configuration failures only. -/
theorem category_of_loadSettings {failure : Failure}
    (told : tree.loadSettings path = .error (.failure failure)) :
    failure.category = .configuration := by
  simp only [loadSettings] at told
  split_ifs at told
  · cases told
  · split at told
    · obtain rfl := Stop.failure.inj (Except.error.inj told)
      rfl
    · obtain rfl := Stop.failure.inj (Except.error.inj told)
      rfl
    · split at told
      · cases told
      · exact Settings.category_of_ofText told

theorem valid_of_loadSettings {settings : Settings} (done : tree.loadSettings path = .ok settings) :
    settings.Valid := by
  simp only [loadSettings] at done
  split_ifs at done
  split at done
  · cases done
  · cases done
  · split at done
    · cases done
    · obtain ⟨entries, -, made⟩ := Settings.ofText_eq_ok_iff.mp done
      exact Settings.valid_of_ofMapping made

end FileTree

end LineWidth
