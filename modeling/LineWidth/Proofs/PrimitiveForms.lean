import LineWidth.Proofs.SettingsFile
import LineWidth.Proofs.SurveyAccount

/-! # Primitive forms

A primitive value is its own primitive form, and a primitive form is a primitive value, so taking it
twice changes nothing more. A value has no primitive form exactly when it holds a mapping with a key
that would become a list or a mapping, or a diagnostic whose template cannot be filled with its two
numbers (`Value.primitive_outcome`).
-/

namespace LineWidth

namespace Value

/-- Whether a value is no list, tuple or mapping. -/
def isLeaf : Value → Bool
  | .list _ | .tuple _ | .dict _ => false
  | _ => true

/-- Induction over values that hold other values. -/
theorem nestedInduction {P : Value → Prop} (leaf : ∀ value : Value, value.isLeaf = true → P value)
    (list : ∀ items, (∀ item ∈ items, P item) → P (.list items))
    (tuple : ∀ items, (∀ item ∈ items, P item) → P (.tuple items))
    (dict : ∀ entries : List (Value × Value), (∀ entry ∈ entries, P entry.1 ∧ P entry.2) →
      P (.dict entries)) (value : Value) : P value := by
  induction size : sizeOf value using Nat.strong_induction_on generalizing value with
  | _ _ ih =>
    subst size
    cases value with
    | list items =>
      apply list
      intro item member
      have smaller := List.sizeOf_lt_of_mem member
      exact ih (sizeOf item) (by simp; omega) item rfl
    | tuple items =>
      apply tuple
      intro item member
      have smaller := List.sizeOf_lt_of_mem member
      exact ih (sizeOf item) (by simp; omega) item rfl
    | dict entries =>
      apply dict
      rintro ⟨key, value⟩ member
      have smaller := List.sizeOf_lt_of_mem member
      rw [Prod.mk.sizeOf_spec] at smaller
      exact ⟨ih (sizeOf key) (by simp; omega) key rfl, ih (sizeOf value) (by simp; omega) value rfl⟩
    | _ => exact leaf _ rfl

/-- The values that a traversal of a value comes to, itself among them. A report is traversed as far
as its diagnostics. -/
inductive Reaches : Value → Value → Prop
  | self (value : Value) : Reaches value value
  | listItem {items : List Value} {item target : Value} (member : item ∈ items)
      (rest : Reaches item target) : Reaches (.list items) target
  | tupleItem {items : List Value} {item target : Value} (member : item ∈ items)
      (rest : Reaches item target) : Reaches (.tuple items) target
  | key {entries : List (Value × Value)} {entry : Value × Value} {target : Value}
      (member : entry ∈ entries) (rest : Reaches entry.1 target) : Reaches (.dict entries) target
  | value {entries : List (Value × Value)} {entry : Value × Value} {target : Value}
      (member : entry ∈ entries) (rest : Reaches entry.2 target) : Reaches (.dict entries) target
  | diagnostic {report : Report} {diagnostic : Diagnostic}
      (member : diagnostic ∈ report.diagnostics) :
      Reaches (.report report) (.record (.diagnostic diagnostic))

private theorem Reaches.trans {value part target : Value} (reaches : value.Reaches part)
    (further : part.Reaches target) : value.Reaches target := by
  induction reaches with
  | self value => exact further
  | listItem member _ ih => exact .listItem member (ih further)
  | tupleItem member _ ih => exact .tupleItem member (ih further)
  | key member _ ih => exact .key member (ih further)
  | value member _ ih => exact .value member (ih further)
  | diagnostic member =>
    cases further with
    | self => exact .diagnostic member

/-- Whether every key of every mapping in a value can be a key. -/
def HasUsableKeys (value : Value) : Prop :=
  ∀ entries, value.Reaches (.dict entries) → ∀ entry ∈ entries, entry.1.canBeKey = true

private theorem HasUsableKeys.of_reaches {value part : Value} (usable : value.HasUsableKeys)
    (reaches : value.Reaches part) : part.HasUsableKeys :=
  fun entries further => usable entries (reaches.trans further)

/-- Whether a value is a tuple or one of the program's records. -/
def isComposite : Value → Bool
  | .tuple _ | .token _ | .record _ | .report _ | .settings _ _ | .action _ => true
  | _ => false

/-- What keeps a value that holds it from having a primitive form: a mapping with a tuple or a
record as a key, and a diagnostic whose template cannot be filled with its numbers. -/
def IsObstacle : Value → Prop
  | .dict entries => ∃ entry ∈ entries, entry.1.isComposite = true
  | .record (.diagnostic diagnostic) => ∃ fault, diagnostic.message = .error fault
  | _ => False

/-- A value made of nothing, truth values, integers, finite doubles, texts, lists and mappings with
keys that are none of the latter two. -/
inductive IsPrimitive : Value → Prop
  | null : IsPrimitive .null
  | bool (truth : Bool) : IsPrimitive (.bool truth)
  | int (number : Int) : IsPrimitive (.int number)
  | float {number : Binary64} (finite : number.isFinite = true) : IsPrimitive (.float number)
  | text (chars : List Char) : IsPrimitive (.text chars)
  | unpaired (points : List Nat) : IsPrimitive (.unpaired points)
  | list {items : List Value} (each : ∀ item ∈ items, IsPrimitive item) : IsPrimitive (.list items)
  | dict {entries : List (Value × Value)}
      (scalars : ∀ entry ∈ entries, entry.1.isScalar = true)
      (keys : ∀ entry ∈ entries, IsPrimitive entry.1)
      (values : ∀ entry ∈ entries, IsPrimitive entry.2)
      (distinct : entries.Pairwise fun first second => first.1.keyEquals second.1 = false) :
      IsPrimitive (.dict entries)

private theorem primitive_of_isLeaf {value : Value} (leaf : value.isLeaf = true) :
    value.primitive = value.primitiveLeaf := by
  cases value with
  | list _ => cases leaf
  | tuple _ => cases leaf
  | dict _ => cases leaf
  | _ => rfl

private theorem primitiveAll_eq
    (items : List Value) : primitiveAll items = items.mapM primitive := by
  induction items with
  | nil => rfl
  | cons item rest ih =>
    rw [List.mapM_cons, ← ih]
    rfl

private theorem primitive_list_eq (items : List Value) :
    (Value.list items).primitive = (items.mapM primitive).map .list := by
  rw [← primitiveAll_eq]
  rfl

private theorem primitive_tuple_eq (items : List Value) :
    (Value.tuple items).primitive = (items.mapM primitive).map .list := by
  rw [← primitiveAll_eq]
  rfl

private theorem primitive_dict_eq (entries : List (Value × Value)) :
    (Value.dict entries).primitive = (primitiveEntries [] entries).map .dict := rfl

section Entries

variable {known rest result : List (Value × Value)} {key value : Value} {fault : PrimitiveFault}

private theorem primitiveEntries_cons_eq_ok_iff :
    primitiveEntries known ((key, value) :: rest) = .ok result ↔
      ∃ keyForm valueForm, key.primitive = .ok keyForm ∧ value.primitive = .ok valueForm ∧
        keyForm.isScalar = true ∧
        primitiveEntries (insert keyForm valueForm known) rest = .ok result := by
  rw [primitiveEntries]
  cases key.primitive with
  | error _ => simp [bind, Except.bind]
  | ok keyForm =>
    cases value.primitive with
    | error _ => simp [bind, Except.bind]
    | ok valueForm => cases scalar : keyForm.isScalar <;> simp [bind, Except.bind, scalar]

private theorem primitiveEntries_cons_eq_error_iff :
    primitiveEntries known ((key, value) :: rest) = .error fault ↔
      key.primitive = .error fault ∨ ∃ keyForm, key.primitive = .ok keyForm ∧
        (value.primitive = .error fault ∨ ∃ valueForm, value.primitive = .ok valueForm ∧
          (keyForm.isScalar = false ∧ fault = .unusableKey ∨ keyForm.isScalar = true ∧
            primitiveEntries (insert keyForm valueForm known) rest = .error fault)) := by
  rw [primitiveEntries]
  cases key.primitive with
  | error _ => simp [bind, Except.bind]
  | ok keyForm =>
    cases value.primitive with
    | error _ => simp [bind, Except.bind]
    | ok valueForm =>
      cases scalar : keyForm.isScalar <;> simp [bind, Except.bind, scalar, @eq_comm _ fault]

end Entries

/-- A primitive value is its own primitive form. -/
private theorem IsPrimitive.primitive_eq {value : Value} (isPrimitive : value.IsPrimitive) :
    value.primitive = .ok value := by
  induction isPrimitive with
  | float finite =>
    rw [primitive_of_isLeaf rfl, primitiveLeaf, if_pos finite]
  | list _ each => exact primitive_list_self each
  | @dict entries scalars _ _ distinct keys values =>
    have done : primitiveEntries [] entries = .ok entries := by
      apply @primitiveEntries_of_distinct [] entries entries _ distinct
      exact List.forall₂_same.mpr fun entry member =>
        ⟨keys entry member, values entry member, scalars entry member⟩
    rw [primitive, done]
    rfl
  | _ => rfl

private theorem pairwise_insert {key value : Value} {entries : List (Value × Value)}
    (distinct : entries.Pairwise fun first second => first.1.keyEquals second.1 = false) :
    (insert key value entries).Pairwise fun first second =>
      first.1.keyEquals second.1 = false := by
  induction entries with
  | nil => exact List.pairwise_singleton ..
  | cons entry rest ih =>
    obtain ⟨known, old⟩ := entry
    obtain ⟨apart, distinct⟩ := List.pairwise_cons.mp distinct
    rw [insert]
    split
    · exact List.pairwise_cons.mpr ⟨apart, distinct⟩
    · next other =>
      refine List.pairwise_cons.mpr ⟨fun entry member => ?_, ih distinct⟩
      have each := @forall_mem_insert (fun key => known.keyEquals key = false) (fun _ => True) rest
        key value (Bool.eq_false_iff.mpr other) trivial
        fun entry member => ⟨apart entry member, trivial⟩
      exact (each entry member).1

private theorem IsPrimitive.insert {key value : Value} {entries : List (Value × Value)}
    (before : (Value.dict entries).IsPrimitive) (scalar : key.isScalar = true)
    (atKey : key.IsPrimitive) (atValue : value.IsPrimitive) :
    (Value.dict (insert key value entries)).IsPrimitive := by
  cases before with
  | dict scalars keys values distinct =>
    have each := forall_mem_insert (P := fun key => key.isScalar = true ∧ key.IsPrimitive)
      (Q := IsPrimitive) ⟨scalar, atKey⟩ atValue
      fun entry member => ⟨⟨scalars entry member, keys entry member⟩, values entry member⟩
    exact .dict (fun entry member => (each entry member).1.1)
      (fun entry member => (each entry member).1.2) (fun entry member => (each entry member).2)
      (pairwise_insert distinct)

private theorem isPrimitive_ofString (text : String) : (ofString text).IsPrimitive := .text _

private theorem isPrimitive_ofPoints (points : List Nat) : (ofPoints points).IsPrimitive := by
  rw [ofPoints]
  split
  · exact .text _
  · exact .unpaired _

private theorem isPrimitive_fields {entries : List (String × Value)}
    (distinct : (entries.map Prod.fst).Nodup) (each : ∀ entry ∈ entries, entry.2.IsPrimitive) :
    (Value.fields entries).IsPrimitive := by
  refine .dict ?_ ?_ ?_ ?_
  · exact List.forall_mem_map.mpr fun _ _ => rfl
  · exact List.forall_mem_map.mpr fun entry _ => isPrimitive_ofString entry.1
  · exact List.forall_mem_map.mpr each
  · exact pairwise_fieldList distinct

end Value

private theorem Token.isPrimitive_toValue (token : Token) : token.toValue.IsPrimitive := by
  apply Value.isPrimitive_fields
  · simp
  · simp [Value.isPrimitive_ofString, Value.IsPrimitive.text, Value.IsPrimitive.int]

private theorem Diagnostic.toValue_eq_ok_iff {diagnostic : Diagnostic} {value : Value} :
    diagnostic.toValue = .ok value ↔ ∃ message, diagnostic.message = .ok message ∧
      value = .fields [("severity", .ofString diagnostic.severity.label),
        ("code", .ofString diagnostic.code.label), ("anchor", .int diagnostic.anchor),
        ("line", .int diagnostic.line), ("column", .int diagnostic.column),
        ("message", .ofPoints message),
        ("data", .list [.int diagnostic.limit, .int diagnostic.length])] := by
  rw [toValue, bind_eq_ok_iff]
  simp only [pure, Except.pure, Except.ok.injEq, @eq_comm _ value]

private theorem Diagnostic.toValue_eq_error_iff {diagnostic : Diagnostic} {fault : TemplateFault} :
    diagnostic.toValue = .error fault ↔ diagnostic.message = .error fault := by
  rw [toValue, bind_eq_error_iff]
  simp [pure, Except.pure]

private theorem Diagnostic.isPrimitive_of_toValue {diagnostic : Diagnostic} {value : Value}
    (done : diagnostic.toValue = .ok value) : value.IsPrimitive := by
  obtain ⟨message, -, rfl⟩ := toValue_eq_ok_iff.mp done
  have data : (Value.list [.int diagnostic.limit, .int diagnostic.length]).IsPrimitive :=
    .list (by simp [Value.IsPrimitive.int])
  apply Value.isPrimitive_fields
  · simp
  · simp [Value.isPrimitive_ofString, Value.isPrimitive_ofPoints, Value.IsPrimitive.int, data]

private theorem Record.isPrimitive_of_toValue {record : Record} {value : Value}
    (done : record.toValue = .ok value) : value.IsPrimitive := by
  cases record with
  | diagnostic diagnostic => exact diagnostic.isPrimitive_of_toValue done
  | observation observation =>
    obtain rfl := Except.ok.inj done
    apply Value.isPrimitive_fields
    · simp
    · simp [Value.isPrimitive_ofString, Value.IsPrimitive.int]

private theorem Report.isPrimitive_of_toValue {report : Report} {value : Value}
    (done : report.toValue = .ok value) : value.IsPrimitive := by
  obtain ⟨diagnostics, made, same⟩ := bind_eq_ok_iff.mp done
  obtain rfl := Except.ok.inj same
  have listed : (Value.list diagnostics).IsPrimitive := by
    apply Value.IsPrimitive.list
    intro item member
    obtain ⟨diagnostic, -, made⟩ := (mem_of_mapM_eq_ok made).mp member
    exact diagnostic.isPrimitive_of_toValue made
  apply Value.isPrimitive_fields
  · simp
  · simp only [List.forall_mem_cons, List.not_mem_nil, false_implies, implies_true, and_true]
    refine ⟨Value.isPrimitive_ofString _, .int _, .int _, listed, ?_⟩
    apply Value.isPrimitive_fields
    · simp [Report.bucketCounts, Bucket.all, Bucket.label]
    · exact List.forall_mem_map.mpr fun bucket _ => .int _

private theorem Settings.isPrimitive_toValue
    (settings : Settings) : settings.toValue.IsPrimitive := by
  apply Value.isPrimitive_fields
  · simp
  · simp [Value.IsPrimitive.bool, Value.IsPrimitive.int]

private theorem Action.isPrimitive_toValue (action : Action) : action.toValue.IsPrimitive := by
  have command : (Value.ofString? action.command).IsPrimitive := by
    cases action.command with
    | none => exact .null
    | some command => exact Value.isPrimitive_ofString command
  apply Value.isPrimitive_fields
  · simp
  · simp [Value.isPrimitive_ofString, command]

private theorem Member.isPrimitive_toValue (member : Member) : member.toValue.IsPrimitive := by
  cases member with
  | failureCode code => exact .int _
  | _ => exact Value.isPrimitive_ofString _

namespace Value

private theorem isPrimitive_of_primitiveLeaf {value result : Value} (leaf : value.isLeaf = true)
    (done : value.primitiveLeaf = .ok result) : result.IsPrimitive := by
  cases value with
  | list _ => cases leaf
  | tuple _ => cases leaf
  | dict _ => cases leaf
  | record record => exact record.isPrimitive_of_toValue (mapError_eq_ok_iff.mp done)
  | report report => exact report.isPrimitive_of_toValue (mapError_eq_ok_iff.mp done)
  | float number =>
    obtain rfl := Except.ok.inj done
    split
    · next finite => exact .float finite
    · exact .null
  | null => exact Except.ok.inj done ▸ .null
  | bool truth => exact Except.ok.inj done ▸ .bool truth
  | int number => exact Except.ok.inj done ▸ .int number
  | text chars => exact Except.ok.inj done ▸ .text chars
  | unpaired points => exact Except.ok.inj done ▸ .unpaired points
  | bytes data => exact Except.ok.inj done ▸ isPrimitive_ofString _
  | path path => exact Except.ok.inj done ▸ isPrimitive_ofString _
  | moment moment => exact Except.ok.inj done ▸ isPrimitive_ofString _
  | type type => exact Except.ok.inj done ▸ isPrimitive_ofString _
  | member member => exact Except.ok.inj done ▸ member.isPrimitive_toValue
  | token token => exact Except.ok.inj done ▸ token.isPrimitive_toValue
  | settings settings codes => exact Except.ok.inj done ▸ settings.isPrimitive_toValue
  | action action => exact Except.ok.inj done ▸ action.isPrimitive_toValue

private theorem isPrimitive_of_mapM {items : List Value} {result : Value}
    (each : ∀ item ∈ items, ∀ {form : Value}, item.primitive = .ok form → form.IsPrimitive)
    (done : (items.mapM primitive).map .list = .ok result) : result.IsPrimitive := by
  obtain ⟨forms, made, rfl⟩ := map_eq_ok_iff.mp done
  apply IsPrimitive.list
  intro form member
  obtain ⟨item, among, made⟩ := (mem_of_mapM_eq_ok made).mp member
  exact each item among made

/-- Setting primitive entries keeps a mapping primitive. -/
private theorem isPrimitive_of_primitiveEntries {entries known result : List (Value × Value)}
    (each : ∀ entry ∈ entries, (∀ {form : Value}, entry.1.primitive = .ok form → form.IsPrimitive) ∧
      ∀ {form : Value}, entry.2.primitive = .ok form → form.IsPrimitive)
    (before : (Value.dict known).IsPrimitive)
    (done : primitiveEntries known entries = .ok result) : (Value.dict result).IsPrimitive := by
  induction entries generalizing known with
  | nil =>
    obtain rfl := Except.ok.inj done
    exact before
  | cons entry rest ih =>
    obtain ⟨⟨atKey, atValue⟩, each⟩ := List.forall_mem_cons.mp each
    obtain ⟨keyForm, valueForm, keyDone, valueDone, scalar, done⟩ :=
      primitiveEntries_cons_eq_ok_iff.mp done
    exact ih each (before.insert scalar (atKey keyDone) (atValue valueDone)) done

/-- A primitive form is a primitive value. -/
private theorem isPrimitive_of_primitive {value result : Value}
    (done : value.primitive = .ok result) :
    result.IsPrimitive := by
  induction value using nestedInduction generalizing result with
  | leaf value leaf =>
    rw [primitive_of_isLeaf leaf] at done
    exact isPrimitive_of_primitiveLeaf leaf done
  | list items ih => exact isPrimitive_of_mapM ih (primitive_list_eq items ▸ done)
  | tuple items ih => exact isPrimitive_of_mapM ih (primitive_tuple_eq items ▸ done)
  | dict entries ih =>
    obtain ⟨forms, made, rfl⟩ := map_eq_ok_iff.mp (primitive_dict_eq entries ▸ done)
    apply isPrimitive_of_primitiveEntries ih _ made
    exact .dict (List.forall_mem_nil _) (List.forall_mem_nil _) (List.forall_mem_nil _) .nil

/-- The primitive form of a tuple or a record cannot be a key. -/
private theorem isScalar_of_isComposite {value result : Value}
    (composite : value.isComposite = true)
    (done : value.primitive = .ok result) : result.isScalar = false := by
  cases value with
  | tuple items =>
    obtain ⟨forms, -, rfl⟩ := map_eq_ok_iff.mp (primitive_tuple_eq items ▸ done)
    rfl
  | token token => exact Except.ok.inj done ▸ rfl
  | settings settings codes => exact Except.ok.inj done ▸ rfl
  | action action => exact Except.ok.inj done ▸ rfl
  | record record =>
    cases record with
    | observation observation => exact Except.ok.inj done ▸ rfl
    | diagnostic diagnostic =>
      obtain ⟨message, -, rfl⟩ := Diagnostic.toValue_eq_ok_iff.mp (mapError_eq_ok_iff.mp done)
      rfl
  | report report =>
    obtain ⟨diagnostics, -, same⟩ := bind_eq_ok_iff.mp (mapError_eq_ok_iff.mp done)
    exact Except.ok.inj same ▸ rfl
  | _ => cases composite

/-- Only a tuple or a record has a primitive form that cannot be a key, if it can be one itself. -/
private theorem isComposite_of_isScalar {value result : Value} (usable : value.canBeKey = true)
    (done : value.primitive = .ok result) (scalar : result.isScalar = false) :
    value.isComposite = true := by
  cases value with
  | list items => cases usable
  | dict entries => cases usable
  | tuple items => rfl
  | token token => rfl
  | record record => rfl
  | report report => rfl
  | settings settings codes => rfl
  | action action => rfl
  | float number =>
    obtain rfl := Except.ok.inj done
    split at scalar <;> cases scalar
  | member member =>
    obtain rfl := Except.ok.inj done
    cases member <;> cases scalar
  | _ =>
    obtain rfl := Except.ok.inj done
    cases scalar

private theorem forall_of_primitiveEntries {known entries result : List (Value × Value)}
    (done : primitiveEntries known entries = .ok result) :
    ∀ entry ∈ entries, (∃ form, entry.1.primitive = .ok form ∧ form.isScalar = true) ∧
      ∃ form, entry.2.primitive = .ok form := by
  induction entries generalizing known with
  | nil => exact List.forall_mem_nil _
  | cons entry rest ih =>
    obtain ⟨keyForm, valueForm, keyDone, valueDone, scalar, done⟩ :=
      primitiveEntries_cons_eq_ok_iff.mp done
    exact List.forall_mem_cons.mpr ⟨⟨⟨keyForm, keyDone, scalar⟩, valueForm, valueDone⟩, ih done⟩

private theorem exists_of_primitiveEntries {known entries : List (Value × Value)}
    {fault : PrimitiveFault} (failed : primitiveEntries known entries = .error fault) :
    ∃ entry ∈ entries, entry.1.primitive = .error fault ∨ entry.2.primitive = .error fault ∨
      fault = .unusableKey ∧ ∃ form, entry.1.primitive = .ok form ∧ form.isScalar = false := by
  induction entries generalizing known with
  | nil => cases failed
  | cons entry rest ih =>
    rcases primitiveEntries_cons_eq_error_iff.mp failed with
      atKey | ⟨keyForm, keyDone, atValue | ⟨valueForm, valueDone, ⟨unusable, rfl⟩ | ⟨-, later⟩⟩⟩
    · exact ⟨entry, List.mem_cons_self .., .inl atKey⟩
    · exact ⟨entry, List.mem_cons_self .., .inr (.inl atValue)⟩
    · exact ⟨entry, List.mem_cons_self .., .inr (.inr ⟨rfl, keyForm, keyDone, unusable⟩)⟩
    · obtain ⟨other, member, failed⟩ := ih later
      exact ⟨other, List.mem_cons_of_mem _ member, failed⟩

/-- What a value with a primitive form holds has one as well. -/
private theorem Reaches.exists_primitive {value part : Value} (reaches : value.Reaches part)
    (done : ∃ result, value.primitive = .ok result) : ∃ result, part.primitive = .ok result := by
  induction reaches with
  | self value => exact done
  | @listItem items item target member rest ih =>
    obtain ⟨result, done⟩ := done
    obtain ⟨forms, made, -⟩ := map_eq_ok_iff.mp (primitive_list_eq items ▸ done)
    exact ih (exists_mapM_eq_ok_iff.mp ⟨forms, made⟩ item member)
  | @tupleItem items item target member rest ih =>
    obtain ⟨result, done⟩ := done
    obtain ⟨forms, made, -⟩ := map_eq_ok_iff.mp (primitive_tuple_eq items ▸ done)
    exact ih (exists_mapM_eq_ok_iff.mp ⟨forms, made⟩ item member)
  | key member rest ih =>
    obtain ⟨result, done⟩ := done
    obtain ⟨forms, made, -⟩ := map_eq_ok_iff.mp done
    obtain ⟨⟨form, done, -⟩, -⟩ := forall_of_primitiveEntries made _ member
    exact ih ⟨form, done⟩
  | value member rest ih =>
    obtain ⟨result, done⟩ := done
    obtain ⟨forms, made, -⟩ := map_eq_ok_iff.mp done
    exact ih (forall_of_primitiveEntries made _ member).2
  | @diagnostic report diagnostic member =>
    obtain ⟨result, done⟩ := done
    obtain ⟨values, made, -⟩ := bind_eq_ok_iff.mp (mapError_eq_ok_iff.mp done)
    obtain ⟨value, made⟩ := exists_mapM_eq_ok_iff.mp ⟨values, made⟩ diagnostic member
    exact ⟨value, mapError_eq_ok_iff.mpr made⟩

private theorem IsObstacle.primitive_ne {value result : Value} (obstacle : value.IsObstacle) :
    value.primitive ≠ .ok result := by
  intro done
  cases value with
  | dict entries =>
    obtain ⟨entry, member, composite⟩ := obstacle
    obtain ⟨forms, made, -⟩ := map_eq_ok_iff.mp done
    obtain ⟨⟨form, done, scalar⟩, -⟩ := forall_of_primitiveEntries made entry member
    rw [isScalar_of_isComposite composite done] at scalar
    cases scalar
  | record record =>
    cases record with
    | diagnostic diagnostic =>
      obtain ⟨message, told, -⟩ := Diagnostic.toValue_eq_ok_iff.mp (mapError_eq_ok_iff.mp done)
      obtain ⟨fault, failed⟩ := obstacle
      rw [told] at failed
      cases failed
    | observation observation => cases obstacle
  | _ => cases obstacle

/-- What a fault tells: a mapping that the value holds has a key that cannot be one, or the template
of a diagnostic that it holds cannot be filled, for just that reason. -/
def IsExplained (value : Value) (fault : PrimitiveFault) : Prop :=
  (fault = .unusableKey ∧
      ∃ entries, value.Reaches (.dict entries) ∧ (Value.dict entries).IsObstacle) ∨
    ∃ diagnostic cause, value.Reaches (.record (.diagnostic diagnostic)) ∧
      diagnostic.message = .error cause ∧ fault = .template cause

private theorem IsExplained.of_reaches {value part : Value} {fault : PrimitiveFault}
    (explained : part.IsExplained fault) (reaches : value.Reaches part) :
    value.IsExplained fault := by
  rcases explained with ⟨rfl, entries, further, obstacle⟩ | ⟨diagnostic, cause, further, told⟩
  · exact .inl ⟨rfl, entries, reaches.trans further, obstacle⟩
  · exact .inr ⟨diagnostic, cause, reaches.trans further, told⟩

private theorem IsExplained.exists_obstacle {value : Value} {fault : PrimitiveFault}
    (explained : value.IsExplained fault) : ∃ part, value.Reaches part ∧ part.IsObstacle := by
  rcases explained with ⟨-, entries, reaches, obstacle⟩ | ⟨diagnostic, cause, reaches, failed, -⟩
  · exact ⟨.dict entries, reaches, obstacle⟩
  · exact ⟨_, reaches, cause, failed⟩

private theorem isExplained_diagnostic {diagnostic : Diagnostic} {cause : TemplateFault}
    (failed : diagnostic.toValue = .error cause) :
    (Value.record (.diagnostic diagnostic)).IsExplained (.template cause) :=
  .inr ⟨diagnostic, cause, .self _, Diagnostic.toValue_eq_error_iff.mp failed, rfl⟩

private theorem isExplained_leaf {value : Value} {fault : PrimitiveFault}
    (leaf : value.isLeaf = true)
    (failed : value.primitiveLeaf = .error fault) : value.IsExplained fault := by
  cases value with
  | list _ => cases leaf
  | tuple _ => cases leaf
  | dict _ => cases leaf
  | record record =>
    obtain ⟨cause, unwritten, rfl⟩ := mapError_eq_error_iff.mp failed
    cases record with
    | diagnostic diagnostic => exact isExplained_diagnostic unwritten
    | observation observation => cases unwritten
  | report report =>
    obtain ⟨cause, unwritten, rfl⟩ := mapError_eq_error_iff.mp failed
    rcases bind_eq_error_iff.mp unwritten with unwritten | ⟨values, -, unwritten⟩
    · obtain ⟨diagnostic, member, unwritten⟩ := exists_of_mapM_eq_error unwritten
      exact (isExplained_diagnostic unwritten).of_reaches (.diagnostic member)
    · cases unwritten
  | _ => cases failed

/-- A value without a primitive form holds an obstacle, and the fault is that of an obstacle. -/
private theorem isExplained_of_primitive {value : Value} {fault : PrimitiveFault}
    (usable : value.HasUsableKeys) (failed : value.primitive = .error fault) :
    value.IsExplained fault := by
  -- A fault comes from a value held directly, except that of a key which is no scalar any more.
  induction value using nestedInduction with
  | leaf value leaf =>
    rw [primitive_of_isLeaf leaf] at failed
    exact isExplained_leaf leaf failed
  | list items ih =>
    rw [primitive_list_eq, map_eq_error_iff] at failed
    obtain ⟨item, member, failed⟩ := exists_of_mapM_eq_error failed
    have held := Reaches.listItem member (.self item)
    exact (ih item member (usable.of_reaches held) failed).of_reaches held
  | tuple items ih =>
    rw [primitive_tuple_eq, map_eq_error_iff] at failed
    obtain ⟨item, member, failed⟩ := exists_of_mapM_eq_error failed
    have held := Reaches.tupleItem member (.self item)
    exact (ih item member (usable.of_reaches held) failed).of_reaches held
  | dict entries ih =>
    rw [primitive_dict_eq, map_eq_error_iff] at failed
    obtain ⟨entry, member, failed⟩ := exists_of_primitiveEntries failed
    obtain ⟨atKey, atValue⟩ := ih entry member
    rcases failed with failed | failed | ⟨rfl, form, done, unusable⟩
    · have held := Reaches.key member (.self entry.1)
      exact (atKey (usable.of_reaches held) failed).of_reaches held
    · have held := Reaches.value member (.self entry.2)
      exact (atValue (usable.of_reaches held) failed).of_reaches held
    · have canBeKey := usable entries (.self _) entry member
      have composite := isComposite_of_isScalar canBeKey done unusable
      exact .inl ⟨rfl, entries, .self _, entry, member, composite⟩

/-- A value without a primitive form is a wrong type, except for a template that is malformed itself
or asks for a number out of its range. -/
private theorem name_breakdown_eq_iff {fault : PrimitiveFault} :
    fault.breakdown.name = "TypeError" ↔
      fault = .unusableKey ∨ ∃ cause, fault = .template cause ∧ cause.kind = .mismatch := by
  cases fault with
  | unusableKey => simp [PrimitiveFault.breakdown, Breakdown.name]
  | template cause => cases kind : cause.kind <;>
      simp [PrimitiveFault.breakdown, TemplateFault.breakdown, Breakdown.name, kind]

/-- A template with plain places takes the two numbers exactly if it has two places. -/
private theorem message_of_places {diagnostic : Diagnostic} {places : Nat}
    (counted : templatePlaces diagnostic.template.toList = some places)
    (canLimit : Text.canWrite diagnostic.limit = true)
    (canLength : Text.canWrite diagnostic.length = true) :
    ((∃ cause, diagnostic.message = .error cause) ↔ places ≠ 2) ∧
      ∀ cause, diagnostic.message = .error cause → cause.kind = .mismatch := by
  have writable : ∀ argument ∈ [diagnostic.limit, diagnostic.length],
      Text.canWrite argument = true := by simp [canLimit, canLength]
  rw [Diagnostic.message]
  rcases fillTemplate_of_places counted writable with
    ⟨same, text, filled⟩ | ⟨differ, cause, failed, mismatch⟩
  · have two : places = 2 := same
    simp [filled, two]
  · have notTwo : places ≠ 2 := differ
    simp [failed, notTwo, mismatch]

/-- The primitive form of a value is a primitive value and its own primitive form. It is missing
exactly if the value holds a mapping with a tuple or a record as a key, or a diagnostic whose
template cannot be filled with its two numbers; the fault is that of such a key or of such a
template. A template with plain places only, and numbers that can be written, cannot be filled
exactly if it does not have two places, which is a mismatch as an unusable key is. -/
theorem primitive_outcome (value : Value) (usable : value.HasUsableKeys) :
    (∀ result, value.primitive = .ok result →
        result.IsPrimitive ∧ result.primitive = .ok result) ∧
      ((∃ fault, value.primitive = .error fault) ↔ ∃ part, value.Reaches part ∧ part.IsObstacle) ∧
      (∀ fault, value.primitive = .error fault →
        value.IsExplained fault ∧ (fault.breakdown.name = "TypeError" ↔
          fault = .unusableKey ∨ ∃ cause, fault = .template cause ∧ cause.kind = .mismatch)) ∧
      ∀ (diagnostic : Diagnostic) (places : Nat),
        templatePlaces diagnostic.template.toList = some places →
        Text.canWrite diagnostic.limit = true → Text.canWrite diagnostic.length = true →
        ((∃ cause, diagnostic.message = .error cause) ↔ places ≠ 2) ∧
          ∀ cause, diagnostic.message = .error cause → cause.kind = .mismatch := by
  refine ⟨?_, ⟨?_, ?_⟩, ?_, ?_⟩
  · intro result done
    have isPrimitive := isPrimitive_of_primitive done
    exact ⟨isPrimitive, isPrimitive.primitive_eq⟩
  · rintro ⟨fault, failed⟩
    exact (isExplained_of_primitive usable failed).exists_obstacle
  · rintro ⟨part, reaches, obstacle⟩
    cases outcome : value.primitive with
    | error fault => exact ⟨fault, rfl⟩
    | ok result =>
      obtain ⟨form, done⟩ := reaches.exists_primitive ⟨result, outcome⟩
      exact (obstacle.primitive_ne done).elim
  · intro fault failed
    exact ⟨isExplained_of_primitive usable failed, name_breakdown_eq_iff⟩
  · intro diagnostic places counted canLimit canLength
    exact message_of_places counted canLimit canLength

/-- A template with one place does not go with two numbers. -/
theorem primitive_outcome_unmatched :
    ∃ fault, (Value.dict [(.float .nan, .record (.diagnostic
      ⟨.warning, .tooLong, 0, 1, 1, "%s", 80, 81⟩))]).primitive = .error fault := by
  generalize isDiagnostic : Diagnostic.mk .warning .tooLong 0 1 1 "%s" 80 81 = diagnostic
  generalize isValue : Value.dict [(.float .nan, .record (.diagnostic diagnostic))] = value
  have reached : ∀ part, value.Reaches part →
      part = value ∨ part = .float .nan ∨ part = .record (.diagnostic diagnostic) := by
    subst isValue
    intro part reaches
    cases reaches with
    | self => exact .inl rfl
    | key member rest =>
      obtain rfl := List.mem_singleton.mp member
      cases rest with
      | self => exact .inr (.inl rfl)
    | value member rest =>
      obtain rfl := List.mem_singleton.mp member
      cases rest with
      | self => exact .inr (.inr rfl)
  have usable : value.HasUsableKeys := by
    intro entries reaches entry member
    rcases reached _ reaches with same | same | same
    · obtain rfl := Value.dict.inj (isValue.trans same.symm)
      obtain rfl := List.mem_singleton.mp member
      rfl
    · cases same
    · cases same
  apply (primitive_outcome value usable).2.1.mpr
  subst isValue isDiagnostic
  refine ⟨_, .value (List.mem_singleton.mpr rfl) (.self _), ?_⟩
  apply (@message_of_places _ 1 rfl ?_ ?_).1.mpr (by decide)
  · exact @Text.canWrite_of_lt_pow _ 2 (by decide) (by decide)
  · exact @Text.canWrite_of_lt_pow _ 2 (by decide) (by decide)

/-- A template that ends inside a place cannot be filled, but the fault is not one of a wrong type.
-/
theorem primitive_incomplete_template :
    ∃ fault, (Value.record (.diagnostic ⟨.warning, .tooLong, 0, 1, 1, "%", 80, 81⟩)).primitive =
        .error fault ∧
      fault = .template .incomplete ∧ fault.breakdown.name = "ValueError" :=
  ⟨_, rfl, rfl, rfl⟩

-- Two keys with one primitive form leave one entry, with the later value.
example : (Value.dict [(.float .nan, .int 1), (.null, .tuple [.int 2])]).primitive =
    .ok (.dict [(.null, .list [.int 2])]) := rfl

end Value

end LineWidth
