import LineWidth.Proofs.Switches

/-! # Giving records one by one

The records of a line are given one after the other, so that a fault could come when some of them
are out already. `TokenStream.emitLine` goes through a line in this way, and it makes every lookup
and every search through the check that refuses positions out of range. It gives what the rule
returns, a search is never refused, and nothing is given before a fault (`emitLine_eq`).
-/

namespace LineWidth

/-- Records that are given one after the other, and how this ends. -/
structure Emission (α : Type) where
  records : List Record
  result : Except StreamFault α

namespace Emission

variable {α β : Type}

/-- A result for which no record is given. -/
def ofResult (result : Except StreamFault α) : Emission α := ⟨[], result⟩

/-- Go on with a result. What was given before a fault stays given. -/
def bind (first : Emission α) (next : α → Emission β) : Emission β :=
  match first.result with
  | .error fault => ⟨first.records, .error fault⟩
  | .ok value =>
    let second := next value
    ⟨first.records ++ second.records, second.result⟩

instance : Monad Emission where
  pure value := ⟨[], .ok value⟩
  bind := bind

/-- Give a record. -/
def give (record : Record) : Emission Unit := ⟨[record], .ok ()⟩

/-- Give all records at the end, or none where there is a fault. -/
def ofRecords : Except StreamFault (List Record) → Emission Unit
  | .ok records => ⟨records, .ok ()⟩
  | .error fault => ⟨[], .error fault⟩

private theorem ok_bind {records : List Record} {value : α} {next : α → Emission β} :
    ((⟨records, .ok value⟩ : Emission α) >>= next) =
      ⟨records ++ (next value).records, (next value).result⟩ := rfl

private theorem ofResult_ok_bind {value : α} {next : α → Emission β} :
    (ofResult (.ok value) >>= next) = next value := rfl

end Emission

namespace TokenStream

/-- The line of the nearest token at or before `start`, and not before `bound`, whose kind is one of
`kinds`, or with `exclude` is none of them. -/
def nearestLine (stream : TokenStream) (kinds : List TokenKind) (exclude : Bool)
    (start bound : Int) : Except StreamFault (Option Nat) := do
  match ← stream.findPrevious kinds start bound exclude with
  | none => return none
  | some index =>
    let token ← stream.get index
    return some token.line

/-- Whether a line ends in a directive that stands alone. -/
def endsInLoneDirective (stream : TokenStream) (last : Token) (index bound : Int) :
    Except StreamFault Bool := do
  if last.kind = .directive then
    let line ← stream.nearestLine [.whitespace] true (index - 1) bound
    return line != some last.line
  else return false

/-- Whether a line is an import line. -/
def endsImport (stream : TokenStream) (last : Token) (index bound : Int) :
    Except StreamFault Bool := do
  let useLine ← stream.nearestLine [.use] false (index - 1) bound
  let separatorLine ← stream.nearestLine [.namespaceSeparator] false (index - 1) bound
  return useLine == some last.line && separatorLine == some last.line

/-- Give the records of the line whose last token stands just before `pointer`, with every position
checked on the way. -/
def emitLine (stream : TokenStream) (settings : Settings) (pointer : Int) : Emission Unit := do
  let last ← .ofResult (stream.get (pointer - 1))
  if last.column = 1 ∧ last.length = 0 then
    return ()
  else
    let index := stream.anchorIndex pointer last
    let bound := max 0 (index - last.endColumn)
    if ← .ofResult (stream.endsInLoneDirective last index bound) then
      return ()
    else if ← .ofResult
        (if settings.ignoreUseLines then stream.endsImport last index bound else .ok false) then
      return ()
    else
      let anchor ← .ofResult (stream.get index)
      let label := (Bucket.ofLength last.endColumn).label
      Emission.give (.observation { anchor := index, line := anchor.line, value := label })
      if settings.exemptsComment last then
        return ()
      else
        match settings.verdict? anchor index last.endColumn with
        | none => return ()
        | some diagnostic => Emission.give (.diagnostic diagnostic)

/-- The pointers of all lines, with every column looked up at a checked position. -/
def lookUpLineStarts (stream : TokenStream) : Except StreamFault (List Nat) := do
  if stream.size = 0 then
    return []
  else
    let starts ← (List.range stream.size).filterM fun (index : Nat) => do
      let token ← stream.get index
      return 0 < index && token.column == 1
    return starts ++ [stream.size]

/-- Give the records of lines, one line after the other. -/
def emitLines (stream : TokenStream) (settings : Settings) : List Nat → Emission Unit
  | [] => return ()
  | pointer :: pointers => do
    stream.emitLine settings pointer
    stream.emitLines settings pointers

/-- Give the records of all lines. -/
def emit (stream : TokenStream) (settings : Settings) : Emission Unit := do
  let pointers ← .ofResult stream.lookUpLineStarts
  stream.emitLines settings pointers

variable {stream : TokenStream} {settings : Settings} {pointer index : Int} {last : Token}

private theorem get_natCast {place : Nat} {token : Token}
    (there : stream.tokens[place]? = some token) :
    stream.get place = .ok token := by
  rw [get_eq_ok_iff, get?, if_neg (Int.not_lt.mpr (Int.natCast_nonneg place)), Int.toNat_natCast,
    there]

private theorem exists_of_searchBack {wanted : Token → Bool} {start : Int} {low place : Nat}
    (found : stream.searchBack wanted start low = some place) :
    ∃ token, stream.tokens[place]? = some token := by
  obtain ⟨⟨-, -, fits⟩, -⟩ := searchBelow_eq_some_iff.mp found
  obtain ⟨token, there, -⟩ := Option.any_eq_true _ _ |>.mp fits
  exact ⟨token, there⟩

/-- A search with a bound that is not negative is not refused, and neither is the lookup of what it
finds. -/
private theorem nearestLine_eq {kinds : List TokenKind} {exclude : Bool} {start bound : Int}
    (low : 0 ≤ bound) :
    stream.nearestLine kinds exclude start bound =
      .ok ((stream.searchBack (fun token => kinds.contains token.kind != exclude) start
        bound.toNat).bind fun place => stream.tokens[place]?.map Token.line) := by
  rw [nearestLine, findPrevious, if_neg (Int.not_lt.mpr low)]
  cases found : stream.searchBack (fun token => kinds.contains token.kind != exclude) start
      bound.toNat with
  | none => rfl
  | some place =>
    obtain ⟨token, there⟩ := exists_of_searchBack found
    simp only [bind, Except.bind, get_natCast there, Option.bind_some, there]
    rfl

private theorem endsInLoneDirective_eq (length : Nat) :
    stream.endsInLoneDirective last index (max 0 (index - length)) =
      .ok (decide (last.kind = .directive ∧
        stream.directiveStandsAlone last index (index - length).toNat)) := by
  have wanted : (fun token : Token => [TokenKind.whitespace].contains token.kind != true) =
      fun token => token.kind != .whitespace := by
    funext token
    cases token.kind <;> rfl
  have low : (max 0 (index - length)).toNat = (index - length).toNat := by omega
  rw [endsInLoneDirective, directiveStandsAlone]
  split_ifs with directive
  · rw [nearestLine_eq (le_max_left _ _), wanted, low]
    cases found : stream.searchBack (fun token => token.kind != .whitespace) (index - 1)
        (index - length).toNat with
    | none => simp [directive, bind, Except.bind, pure, Except.pure]
    | some place =>
      obtain ⟨token, there⟩ := exists_of_searchBack found
      have lines : (some token.line != some last.line) = !decide (token.line = last.line) := rfl
      simp [directive, bind, Except.bind, pure, Except.pure, there, lines]
  · simp [directive, pure, Except.pure]

private theorem nearestLine_kind (kind : TokenKind) (length : Nat) :
    ∃ line, stream.nearestLine [kind] false (index - 1) (max 0 (index - length)) = .ok line ∧
      (line == some last.line) = stream.hasOnLine kind last index (index - length).toNat := by
  have wanted : (fun token : Token => [kind].contains token.kind != false) =
      fun token => token.kind == kind := by
    funext token
    rw [Bool.bne_false, List.contains_cons, List.contains_nil, Bool.or_false]
  have low : (max 0 (index - length)).toNat = (index - length).toNat := by omega
  refine ⟨_, nearestLine_eq (le_max_left _ _), ?_⟩
  rw [wanted, low, hasOnLine]
  cases stream.searchBack (fun token => token.kind == kind) (index - 1) (index - length).toNat with
  | none => rfl
  | some place =>
    simp only [Option.bind_some, Option.any_some]
    cases stream.tokens[place]? <;> rfl

private theorem endsImport_eq (length : Nat) :
    stream.endsImport last index (max 0 (index - length)) =
      .ok (stream.isImportLine last index (index - length).toNat) := by
  obtain ⟨useLine, searched, onLine⟩ := @nearestLine_kind stream index last .use length
  obtain ⟨separatorLine, alsoSearched, alsoOnLine⟩ :=
    @nearestLine_kind stream index last .namespaceSeparator length
  rw [endsImport, searched, alsoSearched, isImportLine, ← onLine, ← alsoOnLine]
  rfl

/-- A line gives what the rule returns for it, and gives nothing before a fault. -/
theorem emitLine_eq (stream : TokenStream) (settings : Settings) (pointer : Int) :
    stream.emitLine settings pointer = .ofRecords (stream.checkLine settings pointer) := by
  rw [emitLine, checkLine]
  cases stream.get (pointer - 1) with
  | error fault => rfl
  | ok last =>
    have imports : (if settings.ignoreUseLines then stream.endsImport last
        (stream.anchorIndex pointer last)
        (max 0 (stream.anchorIndex pointer last - last.endColumn)) else .ok false) =
        .ok (decide (settings.ignoreUseLines ∧ stream.isImportLine last
          (stream.anchorIndex pointer last)
          (stream.anchorIndex pointer last - last.endColumn).toNat)) := by
      rw [endsImport_eq]
      cases settings.ignoreUseLines <;> simp
    simp only [Emission.ofResult_ok_bind, endsInLoneDirective_eq, imports, decide_eq_true_eq]
    simp only [bind, Except.bind]
    -- the cases of the rule, in its order; the lookup of the anchor comes before any record
    split_ifs with blank alone imported exempt
    · rfl
    · rfl
    · rfl
    · cases stream.get (stream.anchorIndex pointer last) <;> rfl
    · cases stream.get (stream.anchorIndex pointer last) with
      | error fault => rfl
      | ok anchor =>
        dsimp only [Emission.ofResult, Emission.bind]
        cases settings.verdict? anchor (stream.anchorIndex pointer last) last.endColumn <;> rfl

/-- Lines that the rule returns records for give these records, one line after the other. -/
private theorem emitLines_of_checked {pointers : List Nat} {perLine : List (List Record)}
    (checked : (pointers.mapM fun (pointer : Nat) => stream.checkLine settings pointer) =
      .ok perLine) : stream.emitLines settings pointers = ⟨perLine.flatten, .ok ()⟩ := by
  induction pointers generalizing perLine with
  | nil =>
    obtain rfl := Except.ok.inj checked
    rfl
  | cons pointer pointers ih =>
    obtain ⟨records, rest, head, tail, rfl⟩ := mapM_cons_eq_ok_iff.mp checked
    rw [emitLines, emitLine_eq, head, Emission.ofRecords, Emission.ok_bind, ih tail,
      List.flatten_cons]

/-- Every column that the start of a line is looked for in is there. -/
private theorem lookUpLineStarts_eq (stream : TokenStream) :
    stream.lookUpLineStarts = .ok stream.lineStarts := by
  rw [lookUpLineStarts, lineStarts]
  split_ifs with empty
  · rfl
  · have each : ∀ index ∈ List.range stream.size,
        (do let token ← stream.get index
            return 0 < index && token.column == 1 : Except StreamFault Bool) =
          .ok (0 < index && stream.tokens[index]?.any (·.column == 1)) := by
      intro index member
      have there := Array.getElem?_eq_getElem (List.mem_range.mp member)
      rw [get_natCast there, there]
      rfl
    rw [filterM_eq_ok_filter each]
    rfl

/-- A stream that can be analyzed gives its records. -/
theorem emit_of_analyze {records : List Record} (done : stream.analyze settings = .ok records) :
    stream.emit settings = ⟨records, .ok ()⟩ := by
  obtain ⟨perLine, checked, joined⟩ := bind_eq_ok_iff.mp done
  obtain rfl := Except.ok.inj joined
  rw [emit, lookUpLineStarts_eq, Emission.ofResult_ok_bind, emitLines_of_checked checked]

end TokenStream

end LineWidth
