import LineWidth.Failure.Basic
import LineWidth.FileTree.Basic
import LineWidth.Text.Utf8

/-! # Reading source files -/

namespace LineWidth

/-- A failure to read a source file. -/
def sourceFailure (path reason : String) : Failure :=
  { Failure.ofCategory .resource ("Failed to read " ++ path ++ ": " ++ reason)
      ("Could not read " ++ path) with
    context := { operation := some "check_file", filePath := some path }
    actions := [⟨"Check the file exists and is UTF-8 encoded", none⟩]
    cause := some reason }

/-- The text of a source file, line ends as they are. -/
def FileTree.readSource (tree : FileTree) (path : Path) : Except Stop (List Char) :=
  let name := path.text
  if path.hasNull then .error (.breakdown .unusablePath)
  else
    match tree.read path with
    | .error fault =>
      .error (.failure (sourceFailure name (fault.message (Text.quoted name.toList))))
    | .ok content =>
      match Text.decodeUtf8 content.data.toList with
      | .error fault => .error (.failure (sourceFailure name fault.message))
      | .ok text => .ok text

end LineWidth
