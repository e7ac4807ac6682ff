import LineWidth.Discovery
import LineWidth.Journal.Basic
import LineWidth.Report.File
import LineWidth.Settings.File

/-! # Operations with their journal

What the program does to sources, files and settings, together with the entries that it leaves on
the way. Entries that were made before an operation stopped stay.
-/

namespace LineWidth

/-- The result of an operation and the entries it made, in order. -/
structure Logged (α : Type) where
  entries : List Entry
  result : Except Stop α

namespace Logged

/-- A result without entries. -/
def ofResult {α : Type} (result : Except Stop α) : Logged α := ⟨[], result⟩

/-- Go on with the result of an operation that did not stop. -/
def bind {α β : Type} (first : Logged α) (next : α → Logged β) : Logged β :=
  match first.result with
  | .error stop => ⟨first.entries, .error stop⟩
  | .ok value =>
    let second := next value
    ⟨first.entries ++ second.entries, second.result⟩

instance : Monad Logged where
  pure value := ⟨[], .ok value⟩
  bind := bind

/-- Make an entry, which has to be worded for that. -/
def note (entry : Entry) : Logged Unit :=
  if entry.canTell then ⟨[entry], .ok ()⟩ else ofResult (.error (.breakdown .unwritableNumber))

end Logged

/-- Cut a source into tokens. -/
def tokenizeLogged (source : List Char) (tabWidth : Nat) : Logged TokenStream := do
  let stream := TokenStream.ofSource source tabWidth
  Logged.note (.tokenized stream.size stream.lineEnd tabWidth)
  return stream

/-- Apply the rule to a stream. -/
def analyzeLogged (stream : TokenStream) (settings : Settings) : Logged (List Record) := do
  let records ← .ofResult ((stream.analyze settings).mapError StreamFault.stop)
  Logged.note (.analyzed records.length stream.size)
  return records

/-- Check a source that goes by the name `path`. -/
def checkSource (source : List Char) (settings : Settings) (path : String) : Logged Report := do
  let stream ← tokenizeLogged source settings.tabWidth
  let report ← .ofResult ((stream.report settings path).mapError StreamFault.stop)
  Logged.note (.checked path report.errors.length report.warnings.length report.observations.length)
  return report

namespace FileTree

/-- Check a source file. -/
def checkFile (tree : FileTree) (path : Path) (settings : Settings) : Logged Report := do
  let source ← .ofResult (tree.readSource path)
  checkSource source settings path.text

/-- Read a settings file. -/
def settingsAt (tree : FileTree) (path : Path) : Logged Settings := do
  let settings ← .ofResult (tree.loadSettings path)
  Logged.note (.settingsLoaded path settings)
  return settings

end FileTree

/-- The entry that a search makes for what it comes across, if it makes one. -/
def Find.entry? : Find → Option Entry
  | .file _ => none
  | .oversized path => some (.oversizedSkipped path)
  | .missing path => some (.pathMissing path)

/-- The files of a search with the entries it makes. -/
def Discovery.logged (discovery : Discovery) : Logged (List Path) :=
  ⟨discovery.finds.filterMap Find.entry?,
    match discovery.breakdown with
    | some breakdown => .error (.breakdown breakdown)
    | none => .ok discovery.files⟩

end LineWidth
