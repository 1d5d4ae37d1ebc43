import Gloss.Path

/-!
# File trees

Files and directories as plain data. A place in the tree is the list of names that
leads to it from the root; a path is looked up from a working directory.
-/

namespace Gloss

open Gloss.Text

/-- A place in a tree. -/
abbrev Place : Type := List String

/-- Files with their bytes, and directories. The directories above a file or
another directory are there without being listed. -/
structure FileTree where
  files : List (Place × ByteArray) := []
  dirs : List Place := []
  /-- Where relative paths start. -/
  workingDir : Place := []

namespace FileTree

/-- The bytes of the file at a place. -/
def file? (tree : FileTree) (place : Place) : Option ByteArray :=
  tree.files.lookup place

/-- Whether a place is a directory. -/
def isDir (tree : FileTree) (place : Place) : Bool :=
  place.isEmpty || place.isPrefixOf tree.workingDir ||
    tree.dirs.any (place.isPrefixOf ·) ||
    tree.files.any fun (other, _) => place.isPrefixOf other && place != other

/-- One step of a path: only a directory leads further. -/
def walk (tree : FileTree) (place : Place) (name : String) : Option Place :=
  if tree.isDir place then
    if name.isEmpty || name == "." then some place
    else if name == ".." then some place.dropLast
    else some (place ++ [name])
  else none

/-- The place that a path leads to, whether or not something is there. -/
def locate (tree : FileTree) (path : String) : Option Place :=
  if path.isEmpty then none
  else
    (piecesOf '/' path).foldlM tree.walk (if Path.isAbsolute path then [] else tree.workingDir)

/-- What is found at a path. -/
inductive Entry where
  | file (bytes : ByteArray)
  | dir (place : Place)

/-- What is found at a path. -/
def entry? (tree : FileTree) (path : String) : Option Entry :=
  (tree.locate path).bind fun place =>
    match tree.file? place with
    | some bytes => some (.file bytes)
    | none => if tree.isDir place then some (.dir place) else none

/-- The bytes of the file at a path. -/
def read? (tree : FileTree) (path : String) : Option ByteArray :=
  match tree.entry? path with
  | some (.file bytes) => some bytes
  | _ => none

/-- Sets the bytes of the file at a place. -/
def put (tree : FileTree) (place : Place) (bytes : ByteArray) : FileTree :=
  { tree with files := (place, bytes) :: tree.files.filter fun (other, _) => other != place }

/-- Writes a file; its directory has to be there, and no directory in its place. -/
def write? (tree : FileTree) (path : String) (bytes : ByteArray) : Option FileTree :=
  (tree.locate path).bind fun place =>
    if tree.isDir place then none else some (tree.put place bytes)

/-- The files below a directory, as seen from it. -/
def below (tree : FileTree) (place : Place) : List Place :=
  tree.files.filterMap fun (other, _) =>
    if place.isPrefixOf other then some (other.drop place.length) else none

end FileTree

end Gloss
