import LineWidth.FileTree.Basic

/-! # Writing into file trees

Writing follows links where they lead, also to places where nothing is yet, and makes the
directories on the way.
-/

namespace LineWidth.FileTree

/-- Follow the remaining names from a place on, taking names that are not there as they are. -/
def follow (root : Node) (links : Nat) (here : List String) (names : List String) : List String :=
  match names with
  | [] => here
  | name :: rest =>
    if name = "" || name = "." then follow root links here rest
    else if name = ".." then follow root links here.dropLast rest
    else
      match root.at? (here ++ [name]) with
      | some (.link target) =>
        match links with
        | 0 => here ++ names
        | links + 1 =>
          follow root links (if startsAtRoot target then [] else here) (linkSteps target ++ rest)
      | _ => follow root links (here ++ [name]) rest
termination_by (links, names.length)

/-- Put a node at a place. -/
def putAt (tree : FileTree) (place : List String) (node : Node) : FileTree :=
  { tree with root := Node.put node place tree.root }

/-- Make the directories that names lead to from a place on, and give the last one's place. -/
def enterFrom (tree : FileTree) (here : List String) : List String → FileTree × List String
  | [] => (tree, here)
  | name :: rest =>
    let here := follow tree.root linkLimit here [name]
    let isThere := (tree.root.at? here).any Node.isDirectory
    (if isThere then tree else tree.putAt here (.directory [] {})).enterFrom here rest

/-- Make a directory and those on the way to it, and give its place. -/
def enter (tree : FileTree) (path : Path) : FileTree × List String :=
  tree.enterFrom (if path.isAbsolute then [] else tree.workingDirectory) path.parts

/-- Make a directory and those on the way to it. -/
def makeDirectory (tree : FileTree) (path : Path) : FileTree := (tree.enter path).1

/-- Write a file. -/
def writeFile (tree : FileTree) (path : Path) (content : ByteArray) : FileTree :=
  let (tree, here) := tree.enter path.parent
  tree.putAt (follow tree.root linkLimit here path.parts.getLast?.toList) (.file content true)

/-- Make a link, in place of what has its name. -/
def makeLink (tree : FileTree) (path : Path) (target : String) : FileTree :=
  let (tree, here) := tree.enter path.parent
  tree.putAt (here ++ path.parts.getLast?.toList) (.link target)

end LineWidth.FileTree
