import LineWidth.FileTree.Basic
import LineWidth.FileTree.NamePattern

/-! # File patterns

A pattern is matched against the names on the way from a directory, part by part. A part without
special characters is one name, which may be a double dot. The part `**` stands for the directory
itself and all real directories below it, so it does not enter linked directories.

What a pattern leads to comes one by one: paths, and faults in place of paths. A fault ends a search
as soon as it is met, so nothing after it counts. Where the program is denied an answer, that part
of the pattern just leads nowhere else.
-/

namespace LineWidth

/-- One part of a pattern. -/
inductive PatternPart where
  | exact (name : String)
  | names (items : List NameItem)
  | below
deriving DecidableEq, Repr

/-- A pattern by its parts; a trailing slash asks for directories. -/
structure Pattern where
  parts : List PatternPart
  directoriesOnly : Bool
deriving DecidableEq, Repr

/-- Why a text is no pattern. -/
inductive PatternFault where
  | empty
  | absolute
  | dot
  | dotDirectory
  | mixedStars
deriving DecidableEq, Repr

/-- Whether two stars stand side by side. -/
def hasDoubleStar : List Char → Bool
  | '*' :: '*' :: _ => true
  | _ :: rest => hasDoubleStar rest
  | [] => false

/-- Read one part of a pattern. -/
def PatternPart.parse (text : String) : Except PatternFault PatternPart :=
  let chars := text.toList
  if text == "**" then .ok .below
  else if hasDoubleStar chars then .error .mixedStars
  else if chars.any fun c => c == '*' || c == '?' || c == '[' then .ok (.names (nameItems 0 chars))
  else .ok (.exact text)

/-- Read a pattern, which has to be relative and to name something. -/
def Pattern.parse (text : String) : Except PatternFault Pattern := do
  let path := Path.parse text
  let directoriesOnly := text.toList.getLast? == some '/'
  if text.isEmpty then .error .empty
  else if path.isAbsolute then .error .absolute
  else if path.parts.isEmpty then .error (if directoriesOnly then .dotDirectory else .dot)
  else return ⟨← path.parts.mapM PatternPart.parse, directoriesOnly⟩

/-- What a pattern leads to next: a path, or a fault in place of one. -/
inductive Lead where
  | found (path : Path)
  | broken (fault : QueryFault)
deriving DecidableEq, Repr

namespace Lead

/-- Go on with the path of a lead. -/
def goOn (next : Path → List Lead) : Lead → List Lead
  | .found path => next path
  | .broken fault => [.broken fault]

/-- The path of a lead, unless a fault stands in its place. -/
def outcome : Lead → Except QueryFault Path
  | .found path => .ok path
  | .broken fault => .error fault

/-- Go on with the answer to a question, or end where it is denied. -/
def unlessDenied {α : Type} (answer : Except QueryFault α) (next : α → List Lead) : List Lead :=
  match answer with
  | .ok value => next value
  | .error .denied => []
  | .error fault => [.broken fault]

end Lead

namespace FileTree

/-- The entries that are listed in a directory. -/
def listing (tree : FileTree) (path : Path) : Except QueryFault (List (String × Node)) := do
  match ← tree.lookUp path with
  | some node => if node.access.listable then return node.entries else .error .denied
  | none => return []

/-- Whether an entry of a listed directory leads to a directory. Only for a link this has to be
asked. -/
def leadsOn (tree : FileTree) (path : Path) : String × Node → Except QueryFault Bool
  | (name, .link _) => tree.isDirectory (path.join [name])
  | (_, node) => .ok node.isDirectory

mutual

/-- The paths of a directory and of the real directories below it, as far as they can be listed. -/
def directories (tree : FileTree) (path : Path) : Node → List Lead
  | .directory entries _ =>
    .found path :: Lead.unlessDenied (tree.listing path) fun _ => tree.directoriesIn path entries
  | _ => []

/-- The paths of the real directories among and below the entries of a directory. -/
def directoriesIn (tree : FileTree) (path : Path) : List (String × Node) → List Lead
  | [] => []
  | (name, node) :: rest =>
    tree.directories (path.join [name]) node ++ tree.directoriesIn path rest

end

/-- The paths from which the part `**` goes on, the first being that of the directory itself. -/
def startsBelow (tree : FileTree) (path : Path) : List Lead :=
  .found path :: Lead.unlessDenied (tree.listing path) (tree.directoriesIn path)

/-- What the parts of a pattern lead to from a directory. Before the last part, and at it when only
directories are asked for, a name has to lead to a directory. -/
def select (tree : FileTree) (directoriesOnly : Bool) : List PatternPart → Path → List Lead
  | [], path => [.found path]
  | part :: rest, path =>
    let goesOn := directoriesOnly || !rest.isEmpty
    match part with
    | .exact name =>
      let child := path.join [name]
      let answer := if goesOn then tree.isDirectory child else tree.contains child
      Lead.unlessDenied answer fun leads =>
        if leads then tree.select directoriesOnly rest child else []
    | .names items =>
      Lead.unlessDenied (tree.listing path) <| List.foldr
        (fun entry later =>
          Lead.unlessDenied (if goesOn then tree.leadsOn path entry else .ok true) fun leads =>
            if leads && NameItem.fitAll items entry.1.toList then
              tree.select directoriesOnly rest (path.join [entry.1]) ++ later
            else later)
        []
    | .below =>
      ((tree.startsBelow path).flatMap (Lead.goOn (tree.select directoriesOnly rest))).eraseDups

/-- What a pattern leads to below a directory. -/
def matching (tree : FileTree) (directory : Path) (pattern : Pattern) : List Lead :=
  tree.select pattern.directoriesOnly pattern.parts directory

/-- The files that leads lead to, each looked at as it comes. -/
def filesOf (tree : FileTree) (leads : List Lead) : Except QueryFault (List Path) := do
  let kept ← leads.mapM fun lead => do
    let path ← lead.outcome
    return if ← tree.isFile path then [path] else []
  return kept.flatten

end FileTree

end LineWidth
