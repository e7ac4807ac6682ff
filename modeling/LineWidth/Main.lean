import LineWidth.CommandLine.Run
import Std.Time.DateTime.Timestamp

/-! # The command line program

The outer layer takes a snapshot of the part of the file system that a run can look at, runs the
program on it and writes what the run leaves. Files that no search could find are left out of the
snapshot, and so are links that cannot be followed; a link is recorded with the place that it leads
to in the end.
-/

namespace LineWidth

/-- The text of a place. -/
def placeText (place : List String) : String := "/" ++ String.intercalate "/" place

/-- Whether a search could find a file of this name. -/
def isSourceName (name : String) : Bool :=
  [".php", ".inc", ".phtml"].any fun ending => name.endsWith ending

/-- Whether something can be done without a fault. -/
def succeeds {α : Type} (action : IO α) : IO Bool := do
  return (← action.toBaseIO).toOption.isSome

/-- Record the file at a place. One that cannot be read keeps its size, as far as it matters. -/
def recordFile (root : Node) (place : List String) : IO Node := do
  match ← (IO.FS.readBinFile (placeText place)).toBaseIO with
  | .ok content => return Node.put (.file content true) place root
  | .error _ =>
    let path ← IO.FS.realPath (placeText place)
    let size := (← path.metadata.toBaseIO).toOption.elim 0 (·.byteSize.toNat)
    return Node.put (.file ⟨Array.replicate (min size (sizeLimit + 1)) 0⟩ false) place root

/-- What the program may do with the directory at a place. -/
def accessTo (place : List String) : IO Access := do
  let path ← IO.FS.realPath (placeText place)
  return { listable := ← succeeds path.readDir, searchable := ← succeeds (path / ".").metadata }

/-- Record a directory with what a search could find below it. Names in a directory that may not be
searched lead to nothing that can be used, so they count as files. -/
partial def recordDirectory (root : Node) (place : List String) : IO Node := do
  let access ← accessTo place
  let mut root := Node.put (.directory [] access) place root
  unless access.listable do return root
  for entry in ← (← IO.FS.realPath (placeText place)).readDir do
    let child := place ++ [entry.fileName]
    unless access.searchable do
      root := Node.put (.file .empty false) child root
      continue
    match (← entry.path.symlinkMetadata).type with
    | .dir =>
      unless ignoredDirectories.contains entry.fileName do
        root ← recordDirectory root child
    | .file =>
      if isSourceName entry.fileName then
        root ← recordFile root child
    | .symlink =>
      if isSourceName entry.fileName && (← entry.path.pathExists) && !(← entry.path.isDir) then
        let target := (← IO.FS.realPath entry.path).toString
        root := Node.put (.link target) child (← recordFile root (Path.parse target).parts)
    | .other => pure ()
  return root

/-- Record what the names of a path lead to, from a directory on. -/
partial def recordPath (root : Node) (here : List String) (names : List String) : IO Node := do
  match names with
  | [] => recordDirectory root here
  | ".." :: rest => recordPath root here.dropLast rest
  | name :: rest =>
    let access ← accessTo here
    let root := Node.put (.directory [] access) here root
    unless access.searchable do return root
    let child := here ++ [name]
    let path ← IO.FS.realPath (placeText here)
    let entry := path / name
    unless ← entry.pathExists do return root
    match (← entry.symlinkMetadata).type with
    | .symlink =>
      let target := (← IO.FS.realPath entry).toString
      recordPath (Node.put (.link target) child root) [] ((Path.parse target).parts ++ rest)
    | .dir => recordPath (Node.put (.directory [] {}) child root) child rest
    | _ => recordFile root child

/-- The paths that an argument and the value attached to it may name. -/
def namedPaths (argument : String) : List Path :=
  Path.parse argument :: ((splitAttached argument).2.map Path.parse).toList

/-- The surroundings of a run with the given arguments. -/
def surroundingsFor (arguments : List String) : IO Surroundings := do
  let here := (Path.parse (← IO.FS.realPath ".").toString).parts
  let mut root := Node.put (.directory [] {}) here (.directory [] {})
  for path in ⟨"", [settingsFileName]⟩ :: arguments.flatMap namedPaths do
    root ← recordPath root (if path.isAbsolute then [] else here) path.parts
  let now ← Std.Time.Timestamp.now
  let moment := Moment.ofUnix (now.toNanosecondsSinceUnixEpoch.toInt.toNat / 1000)
  return { tree := ⟨root, here⟩, debugSetting := ← IO.getEnv "LINEGAUGE_DEBUG"
           clock := moment.clock, time := moment.iso }

end LineWidth

/-- Run the program. -/
def main (arguments : List String) : IO UInt32 := do
  let outcome := (← LineWidth.surroundingsFor arguments).run arguments
  IO.print outcome.output
  IO.eprint outcome.errors
  match outcome.status with
  | .ok status => return status.toUInt32
  | .error (.failure failure) => do
    IO.eprintln failure.present
    return 1
  | .error (.breakdown _) => do
    IO.eprintln "The program cannot go on."
    return 1
