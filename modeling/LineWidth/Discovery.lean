import LineWidth.Failure.Basic
import LineWidth.FileTree.Pattern

/-! # Discovery

Path arguments are expanded into the source files to check. A file stands for itself; a directory
for the files below it that match a pattern, without those in ignored directories. Files beyond the
size limit are passed over, and a file that has been found is not found again, by whatever path.
-/

namespace LineWidth

/-- The patterns of source files. -/
def sourcePatterns : List String := ["**/*.php", "**/*.inc", "**/*.phtml"]

/-- The directories that a search leaves out. -/
def ignoredDirectories : List String :=
  ["node_modules", "vendor", ".git", "__pycache__", ".venv", "venv", "dist", "build", ".svn",
    ".idea"]

/-- The size in bytes beyond which a file is passed over. -/
def sizeLimit : Nat := 1000000

/-- What a search comes across. -/
inductive Find where
  | file (path : Path)
  | oversized (path : Path)
  | missing (path : Path)
deriving DecidableEq, Repr

/-- The file found, if it is one to check. -/
def Find.file? : Find → Option Path
  | .file path => some path
  | _ => none

/-- What a search came across, and the breakdown that ended it, if one did. -/
structure Discovery where
  finds : List Find
  breakdown : Option Breakdown := none
deriving DecidableEq, Repr

/-- The files to check. -/
def Discovery.files (discovery : Discovery) : List Path := discovery.finds.filterMap Find.file?

/-- How a pattern fault ends the program. -/
def PatternFault.breakdown : PatternFault → Breakdown
  | .empty | .mixedStars => .malformedPattern
  | .absolute => .absolutePattern
  | .dot => .dotPattern
  | .dotDirectory => .dotDirectoryPattern

/-- How a question about a path that has no answer ends the program. -/
def QueryFault.breakdown : QueryFault → Breakdown
  | .nameTooLong => .overlongName
  | .denied => .accessDenied

namespace FileTree

/-- Whether a path below a directory goes through an ignored directory. -/
def isIgnored (directory path : Path) : Bool :=
  (path.parts.drop directory.parts.length).dropLast.any ignoredDirectories.contains

/-- The files below a directory that match any of the patterns, in order; one that matches several
patterns comes as often. A pattern is read only when those before it have been searched for. -/
def candidates (tree : FileTree) (patterns : List String) (directory : Path) :
    Except Breakdown (List Path) := do
  let found ← patterns.mapM fun text => do
    let pattern ← (Pattern.parse text).mapError PatternFault.breakdown
    (tree.filesOf (tree.matching directory pattern)).mapError QueryFault.breakdown
  return found.flatten.mergeSort Path.le

/-- The files that a path argument stands for, ignored ones among them; `none` when it leads
nowhere. -/
def expand (tree : FileTree) (patterns : List String) (base : Path) :
    Except Breakdown (Option (List Path)) := do
  match ← (tree.lookUp base).mapError QueryFault.breakdown with
  | some (.file ..) => return some [base]
  | some (.directory ..) => return some (← tree.candidates patterns base)
  | _ => return none

/-- Look at candidates in order, `seen` being the places of the files found so far: what is come
across, and the places of the files found after it. -/
def sift (tree : FileTree) (ignored : Path → Bool) :
    (seen : List (List String)) → List Path → List Find × List (List String)
  | seen, [] => ([], seen)
  | seen, path :: rest =>
    let place := (tree.place path).toOption.getD []
    if seen.contains place || ignored path then tree.sift ignored seen rest
    else if sizeLimit < tree.size path then
      let (finds, seen) := tree.sift ignored seen rest
      (.oversized path :: finds, seen)
    else
      let (finds, seen) := tree.sift ignored (place :: seen) rest
      (.file path :: finds, seen)

/-- Search path arguments in order. -/
def search (tree : FileTree) (patterns : List String) :
    (seen : List (List String)) → List Path → Discovery
  | _, [] => ⟨[], none⟩
  | seen, base :: rest =>
    match tree.expand patterns base with
    | .error breakdown => ⟨[], some breakdown⟩
    | .ok none =>
      let later := tree.search patterns seen rest
      { later with finds := .missing base :: later.finds }
    | .ok (some paths) =>
      let (finds, seen) := tree.sift (isIgnored base) seen paths
      let later := tree.search patterns seen rest
      { later with finds := finds ++ later.finds }

/-- Expand path arguments. Without patterns the usual ones are searched for. -/
def discover (tree : FileTree) (patterns : List String) (paths : List Path) : Discovery :=
  tree.search (if patterns.isEmpty then sourcePatterns else patterns) [] paths

/-- The failure that names path arguments that lead nowhere. -/
def missingFailure (missing : List String) : Failure :=
  let list := String.intercalate ", " missing
  { Failure.ofCategory .validation ("Path(s) not found: " ++ list)
      ("No such file or directory: " ++ list) with
    context :=
      { operation := some "validate_paths"
        info := .fields [("missing", .list (missing.map .ofString))] }
    actions := [⟨"Check the spelling of the path arguments", none⟩] }

/-- The path arguments that lead nowhere. -/
def missing (tree : FileTree) (paths : List Path) : Except QueryFault (List Path) :=
  paths.filterM fun path => return !(← tree.contains path)

/-- Path arguments that all lead somewhere; otherwise the failure that names those that do not. -/
def validate (tree : FileTree) (paths : List Path) : Except Stop (List Path) := do
  let missing ← (tree.missing paths).mapError fun fault => .breakdown fault.breakdown
  if missing.isEmpty then return paths
  else .error (.failure (missingFailure (missing.map Path.text)))

end FileTree

end LineWidth
