import LineWidth.FileTree.Path

/-! # File trees

A file tree is a snapshot of a file system as the program may use it, together with the directory
that relative paths start from. A path is walked name by name: a link is replaced by its target, a
double dot goes up from the place that has really been reached, and only directories that may be
searched can be walked through. A place is given by its names from the root, free of links, so two
paths lead to the same file exactly when they reach the same place. Names and paths beyond a length,
and paths through a directory that may not be searched, cannot even be asked about.
-/

namespace LineWidth

/-- What the program may do with a directory: list the names in it, and search it for a name. -/
structure Access where
  listable : Bool := true
  searchable : Bool := true
deriving DecidableEq, Repr

/-- A file with its content, which the program may be kept from reading, a directory with its
entries, or a link with the text of its target. -/
inductive Node where
  | file (content : ByteArray) (readable : Bool)
  | directory (entries : List (String × Node)) (access : Access)
  | link (target : String)

namespace Node

/-- Whether the node is a file. -/
def isFile : Node → Bool
  | .file .. => true
  | _ => false

/-- Whether the node is a directory. -/
def isDirectory : Node → Bool
  | .directory .. => true
  | _ => false

/-- The entries of a directory; other nodes have none. -/
def entries : Node → List (String × Node)
  | .directory entries _ => entries
  | _ => []

/-- What the program may do with a directory; nothing is forbidden for other nodes. -/
def access : Node → Access
  | .directory _ access => access
  | _ => {}

/-- The entry with a name. -/
def child? (node : Node) (name : String) : Option Node :=
  (node.entries.find? (·.1 == name)).map (·.2)

/-- The node at a place, links not followed. -/
def at? (node : Node) : List String → Option Node
  | [] => some node
  | name :: rest => (node.child? name).bind (·.at? rest)

/-- Put an entry in place of the one with its name, or at the end. -/
def putEntry (name : String) (node : Node) : List (String × Node) → List (String × Node)
  | [] => [(name, node)]
  | (known, old) :: rest =>
    if known == name then (name, node) :: rest else (known, old) :: putEntry name node rest

/-- Put a node at a place, making the directories on the way. A directory that is already there
keeps its entries. -/
def put (new : Node) : (place : List String) → Node → Node
  | [], old =>
    match new, old with
    | .directory [] access, .directory entries _ => .directory entries access
    | new, _ => new
  | name :: rest, old =>
    let child := (old.child? name).getD (.directory [] {})
    .directory (putEntry name (put new rest child) old.entries) old.access

end Node

/-- A file system and the directory that relative paths start from. -/
structure FileTree where
  root : Node
  workingDirectory : List String

/-- Why a path leads to no file. -/
inductive FileFault where
  | missing
  | denied
  | notDirectory
  | isDirectory
  | nameTooLong
  | tooManyLinks
deriving DecidableEq, Repr

/-- The wording of a file fault for a path. -/
def FileFault.message (path : String) : FileFault → String
  | .missing => "[Errno 2] No such file or directory: " ++ path
  | .denied => "[Errno 13] Permission denied: " ++ path
  | .notDirectory => "[Errno 20] Not a directory: " ++ path
  | .isDirectory => "[Errno 21] Is a directory: " ++ path
  | .nameTooLong => "[Errno 36] File name too long: " ++ path
  | .tooManyLinks => "[Errno 40] Too many levels of symbolic links: " ++ path

/-- Why it cannot be told where a path leads. -/
inductive QueryFault where
  | nameTooLong
  | denied
deriving DecidableEq, Repr

/-- The most links that one walk follows. -/
def linkLimit : Nat := 40

/-- The most bytes that a name has. -/
def nameLimit : Nat := 255

/-- The number of bytes that a path stays below. -/
def pathLimit : Nat := 4096

/-- The steps that the target of a link takes. A slash at the end asks for a directory, and is an
empty step. -/
def linkSteps (target : String) : List String :=
  let chars := target.toList
  ((Path.splitSlash chars).map String.ofList).filter (· != "") ++
    if chars.getLast? = some '/' then [""] else []

/-- Whether a link starts from the root. -/
def startsAtRoot (target : String) : Bool := target.toList.head? == some '/'

/-- A path with a null character can be asked about, but not opened. -/
def Path.hasNull (path : Path) : Bool := path.parts.any fun part => part.toList.contains '\x00'

/-- The names on the way of a path from its start; the empty relative path is the dot. -/
def Path.steps (path : Path) : List String :=
  if !path.isAbsolute && path.parts.isEmpty then ["."] else path.parts

/-- A way down from the root: the names and nodes passed, last first. -/
abbrev Trail := List (String × Node)

/-- The node at the end of a trail. -/
def Trail.node (trail : Trail) (root : Node) : Node := trail.head?.elim root (·.2)

/-- The place at the end of a trail. -/
def Trail.place (trail : Trail) : List String := trail.reverse.map (·.1)

/-- Go down to an entry that is there, whether or not the program may search for it. -/
def Trail.enter (root : Node) (trail : Trail) (name : String) : Except FileFault Trail :=
  match (trail.node root).child? name with
  | none => .error .missing
  | some node => .ok ((name, node) :: trail)

namespace FileTree

/-- Walk the remaining names from a directory on, which has to be searched for each of them. At a
link `follow` walks on, from the directory that the target starts in. -/
def walkUpTo (root : Node) (follow : Trail → List String → Except FileFault Trail) :
    (trail : Trail) → (names : List String) → Except FileFault Trail
  | trail, [] => .ok trail
  | trail, name :: rest =>
    if name = "" then walkUpTo root follow trail rest
    else if !(trail.node root).access.searchable then .error .denied
    else if name = "." then walkUpTo root follow trail rest
    else if name = ".." then walkUpTo root follow (trail.drop 1) rest
    else if nameLimit < name.utf8ByteSize then .error .nameTooLong
    else
      match (trail.node root).child? name with
      | none => .error .missing
      | some (.directory entries access) =>
        walkUpTo root follow ((name, .directory entries access) :: trail) rest
      | some (.file content readable) =>
        if rest.isEmpty then .ok ((name, .file content readable) :: trail)
        else .error .notDirectory
      | some (.link target) =>
        follow (if startsAtRoot target then [] else trail) (linkSteps target ++ rest)

/-- Walk the remaining names from a directory on, with `links` links still to be followed. -/
def walk (root : Node) : (links : Nat) → Trail → List String → Except FileFault Trail
  | 0 => walkUpTo root fun _ _ => .error .tooManyLinks
  | links + 1 => walkUpTo root (walk root links)

/-- The trail that a path starts from. The working directory has been entered before, so nothing on
the way to it is searched again. -/
def start (tree : FileTree) (path : Path) : Except FileFault Trail :=
  if path.isAbsolute then .ok []
  else tree.workingDirectory.foldlM (Trail.enter tree.root) []

/-- The place that a path leads to and the node there. -/
def find (tree : FileTree) (path : Path) : Except FileFault (List String × Node) := do
  if pathLimit ≤ path.text.utf8ByteSize then .error .nameTooLong
  else
    let trail ← walk tree.root linkLimit (← tree.start path) path.steps
    return (trail.place, trail.node tree.root)

/-- The place that a path leads to. -/
def place (tree : FileTree) (path : Path) : Except FileFault (List String) :=
  (tree.find path).map (·.1)

/-- The node that a path leads to, if it leads anywhere. -/
def lookUp (tree : FileTree) (path : Path) : Except QueryFault (Option Node) :=
  if path.hasNull then .ok none
  else
    match tree.find path with
    | .ok (_, node) => .ok (some node)
    | .error .nameTooLong => .error .nameTooLong
    | .error .denied => .error .denied
    | .error _ => .ok none

/-- Whether a path leads anywhere. -/
def contains (tree : FileTree) (path : Path) : Except QueryFault Bool :=
  (tree.lookUp path).map (·.isSome)

/-- Whether a path leads to a file. -/
def isFile (tree : FileTree) (path : Path) : Except QueryFault Bool :=
  (tree.lookUp path).map (·.any Node.isFile)

/-- Whether a path leads to a directory. -/
def isDirectory (tree : FileTree) (path : Path) : Except QueryFault Bool :=
  (tree.lookUp path).map (·.any Node.isDirectory)

/-- The content of the file that a path leads to. -/
def read (tree : FileTree) (path : Path) : Except FileFault ByteArray := do
  let (_, node) ← tree.find path
  match node with
  | .file content readable => if readable then return content else .error .denied
  | node => .error (if node.access.listable then .isDirectory else .denied)

/-- The size of the file that a path leads to; it need not be readable. -/
def size (tree : FileTree) (path : Path) : Nat :=
  match tree.find path with
  | .ok (_, .file content _) => content.size
  | _ => 0

end FileTree

end LineWidth
