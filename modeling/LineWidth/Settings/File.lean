import LineWidth.FileTree.Basic
import LineWidth.Settings.Mapping
import LineWidth.Text.Utf8
import LineWidth.Value.Document

/-! # Settings files

A settings file is a JSON document: an object of settings by name, or an object that holds such an
object as its section `lineLength`.
-/

namespace LineWidth

/-- The settings file that is read when none is named. -/
def settingsFileName : String := ".linegauge.json"

/-- The section of a settings file that holds the settings. -/
def settingsSection : String := "lineLength"

/-- A text with every line end written as a line feed. -/
def unifyLineEnds (text : List Char) : List Char :=
  (Line.ofText text).flatMap fun line => line.body ++ line.ending.elim [] fun _ => ['\n']

/-- The part of a document that describes the settings, if it is an object. -/
def settingsIn? (document : Value) : Option (List (Value × Value)) :=
  let part := match document with
    | .dict entries => (Value.lookup? (.ofString settingsSection) entries).getD document
    | _ => document
  match part with
  | .dict entries => some entries
  | _ => none

/-- A failure to read a settings file. -/
def settingsFailure (path message userMessage : String) (cause : Option String) : Stop :=
  .failure
    { Failure.ofCategory .configuration message userMessage with
      context := { operation := some "load_config", filePath := some path }
      cause }

/-- A settings file that is there but cannot be read. -/
def unreadableSettings (path reason : String) : Stop :=
  settingsFailure path ("Could not read config file " ++ path ++ ": " ++ reason)
    ("Config file " ++ path ++ " is not valid JSON.") (some reason)

/-- The settings that the text of a settings file describes. -/
def Settings.ofText (path : String) (text : List Char) : Except Stop Settings :=
  match Json.document text with
  | .error (.malformed reason rest) => .error (unreadableSettings path (reason.messageAt text rest))
  | .error .tooManyDigits => .error (.breakdown .tooManyDigits)
  | .error .tooDeep => .error (.breakdown .tooDeep)
  | .ok document =>
    match settingsIn? document with
    | none =>
      .error
        (settingsFailure path ("Config file " ++ path ++ " must contain a JSON object") "" none)
    | some entries => (Settings.ofMapping entries).mapError SettingsFault.stop

/-- The settings that a settings file describes. -/
def FileTree.loadSettings (tree : FileTree) (path : Path) : Except Stop Settings :=
  let name := path.text
  if path.hasNull then .error (.breakdown .unusablePath)
  else
    match tree.read path with
    | .error .missing =>
      .error (settingsFailure name ("Config file not found: " ++ name)
        ("Config file not found: " ++ name)
        (some (FileFault.missing.message (Text.quoted name.toList))))
    | .error fault => .error (unreadableSettings name (fault.message (Text.quoted name.toList)))
    | .ok content =>
      match Text.decodeUtf8 content.data.toList with
      | .error _ => .error (.breakdown .undecodableText)
      | .ok text => Settings.ofText name (unifyLineEnds text)

end LineWidth
