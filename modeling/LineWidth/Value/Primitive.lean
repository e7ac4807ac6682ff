import LineWidth.Value.Describe

/-! # Values as JSON primitives

Every value has a primitive form made of nothing, truth values, integers, finite doubles, texts,
lists and mappings. Records become mappings of their fields. There is no primitive form when a key
would become a list or a mapping, or when a diagnostic has no message.
-/

namespace LineWidth

/-- A mapping with string keys. -/
def Value.fields (entries : List (String × Value)) : Value :=
  .dict (entries.map fun (key, value) => (.ofString key, value))

/-- The fields of a token. -/
def Token.toValue (token : Token) : Value :=
  .fields [("kind", .ofString token.kind.label), ("content", .text token.content),
    ("line", .int token.line), ("column", .int token.column), ("length", .int token.length)]

/-- The fields of a diagnostic, which has to have a message. -/
def Diagnostic.toValue (d : Diagnostic) : Except TemplateFault Value := do
  return .fields [("severity", .ofString d.severity.label), ("code", .ofString d.code.label),
    ("anchor", .int d.anchor), ("line", .int d.line), ("column", .int d.column),
    ("message", .ofPoints (← d.message)), ("data", .list [.int d.limit, .int d.length])]

/-- The fields of an observation. -/
def Observation.toValue (o : Observation) : Value :=
  .fields [("anchor", .int o.anchor), ("line", .int o.line), ("name", .ofString o.name),
    ("value", .ofString o.value)]

/-- The fields of a record. -/
def Record.toValue : Record → Except TemplateFault Value
  | .diagnostic d => d.toValue
  | .observation o => .ok o.toValue

/-- The summary of a report. -/
def Report.toValue (report : Report) : Except TemplateFault Value := do
  let diagnostics ← report.diagnostics.mapM Diagnostic.toValue
  return .fields [("path", .ofString report.path), ("errors", .int report.errors.length),
    ("warnings", .int report.warnings.length), ("diagnostics", .list diagnostics),
    ("metrics", .fields (report.bucketCounts.map fun (label, count) => (label, .int count)))]

/-- The settings under the names that configuration files use. -/
def Settings.toValue (settings : Settings) : Value :=
  .fields [("lineLimit", .int settings.lineLimit),
    ("absoluteLineLimit", .int settings.absoluteLineLimit),
    ("ignoreComments", .bool settings.ignoreComments),
    ("ignoreUseStatementsLines", .bool settings.ignoreUseLines),
    ("tabWidth", .int settings.tabWidth)]

/-- The fields of an action. -/
def Action.toValue (action : Action) : Value :=
  .fields [("description", .ofString action.description), ("command", .ofString? action.command)]

/-- What a member stands for. -/
def Member.toValue (member : Member) : Value :=
  match member.text? with
  | some text => .ofString text
  | none => member.number?.elim .null fun number => .int number

/-- Why a value has no primitive form. -/
inductive PrimitiveFault where
  | unusableKey
  | template (fault : TemplateFault)
deriving DecidableEq, Repr

namespace Value

/-- Whether a primitive value can be a key. -/
def isScalar : Value → Bool
  | .null | .bool _ | .int _ | .float _ | .text _ | .unpaired _ => true
  | _ => false

/-- The primitive form of a value that holds no other value; records become their fields. -/
def primitiveLeaf : Value → Except PrimitiveFault Value
  | .float number => .ok (if number.isFinite then .float number else .null)
  | .bytes data => .ok (.ofString (Text.quotedBytes data))
  | .path p => .ok (.ofString p.text)
  | .moment m => .ok (.ofString m.iso)
  | .member m => .ok m.toValue
  | .type t => .ok (.ofString t.describe)
  | .token t => .ok t.toValue
  | .record r => r.toValue.mapError .template
  | .report r => r.toValue.mapError .template
  | .settings s _ => .ok s.toValue
  | .action a => .ok a.toValue
  | value => .ok value

mutual

/-- The primitive form of a value. -/
def primitive : Value → Except PrimitiveFault Value
  | .list items => (primitiveAll items).map .list
  | .tuple items => (primitiveAll items).map .list
  | .dict entries => (primitiveEntries [] entries).map .dict
  | value => value.primitiveLeaf

/-- The primitive forms of all items. -/
def primitiveAll : List Value → Except PrimitiveFault (List Value)
  | [] => .ok []
  | item :: rest => do return (← item.primitive) :: (← primitiveAll rest)

/-- Set the primitive forms of entries in a mapping of primitive entries. -/
def primitiveEntries (known : List (Value × Value)) :
    List (Value × Value) → Except PrimitiveFault (List (Value × Value))
  | [] => .ok known
  | (key, value) :: rest => do
    let key ← key.primitive
    let value ← value.primitive
    if key.isScalar then primitiveEntries (insert key value known) rest else .error .unusableKey

end

end Value

end LineWidth
