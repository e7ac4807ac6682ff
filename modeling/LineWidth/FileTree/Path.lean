/-! # Paths

A path is a root, empty for a relative path, and the names on the way from there. Writing a path
drops empty names and single dots; a double dot is kept, since what it means depends on links.
-/

namespace LineWidth

/-- A path by its root and its parts. -/
structure Path where
  root : String
  parts : List String
deriving DecidableEq, Repr

namespace Path

/-- Cut a text at its slashes. -/
def splitSlash (text : List Char) : List (List Char) :=
  text.foldr
    (fun c pieces =>
      if c = '/' then [] :: pieces
      else match pieces with
        | [] => [[c]]
        | piece :: rest => (c :: piece) :: rest)
    [[]]

/-- The parts that a text names. -/
def partsOf (text : List Char) : List String :=
  ((splitSlash text).map String.ofList).filter fun part => part != "" && part != "."

/-- Read a path. Two leading slashes, but not three, make a root of their own. -/
def parse (text : String) : Path :=
  let slashes := (text.toList.takeWhile (· == '/')).length
  let root := if slashes = 0 then "" else if slashes = 2 then "//" else "/"
  ⟨root, partsOf text.toList⟩

/-- Whether the path starts from a root. -/
def isAbsolute (path : Path) : Bool := path.root != ""

/-- The text of a path; the empty relative path is the dot. -/
def text (path : Path) : String :=
  if path.root == "" && path.parts.isEmpty then "."
  else path.root ++ String.intercalate "/" path.parts

/-- A path inside a directory. -/
def join (directory : Path) (parts : List String) : Path :=
  { directory with parts := directory.parts ++ parts }

/-- The directory that a path names something in. -/
def parent (path : Path) : Path := { path with parts := path.parts.dropLast }

/-- Paths are ordered part by part, parts by code points, and a path comes before those inside it.
-/
def le (first second : Path) : Bool :=
  decide (first.root.toList < second.root.toList) ||
    (first.root == second.root &&
      !decide (second.parts.map String.toList < first.parts.map String.toList))

end Path

end LineWidth
