import Gloss.Error
import Gloss.FileTree

/-!
# Source files

Finding the source files that paths stand for, reading them as text and writing
them back.
-/

namespace Gloss.SourceFile

open Gloss.Text

/-! ## Finding -/

/-- The directories that are passed over: they hold what builds leave behind. -/
def skippedDirs : List String := ["bin", "obj"]

/-- Whether a name has the extension of a source file. -/
def isSourceName (name : String) : Bool :=
  (Path.extension? name).any fun ext => ext.toList.map Char.toLower == ['c', 's']

/-- Whether a file below a directory is one of its sources. -/
def isSource (place : Place) : Bool :=
  place.getLast?.any isSourceName && place.dropLast.all (!skippedDirs.contains ·)

/-- The sources below a directory. -/
def sourcesBelow (tree : FileTree) (path : String) (place : Place) : List String :=
  ((tree.below place).filter isSource).map fun rest => Path.join path ("/".intercalate rest)

/-- The files that a path stands for: itself, or the sources below it. If nothing is
found there, the path is the error. -/
def expand (tree : FileTree) (path : String) : Except String (List String) :=
  match tree.entry? path with
  | some (.file _) => .ok [path]
  | some (.dir place) => .ok (sourcesBelow tree path place)
  | none => .error path

/-- The files that paths stand for, in order, or the first path at which nothing is
found. -/
def collect (tree : FileTree) (paths : List String) : Except String (List String) :=
  (paths.mapM (expand tree)).map fun (found : List (List String)) =>
    Path.sortUnique found.flatten

/-! ## Reading -/

/-- The text of a file. -/
def readText (tree : FileTree) (path : String) : Except Unreadable String :=
  match tree.entry? path with
  | none => .error .missing
  | some (.dir _) => .error .directory
  | some (.file bytes) =>
    match String.fromUTF8? bytes with
    | some text => .ok text
    | none => .error .notText

/-! ## Writing -/

/-- Why a file was not written. -/
inductive WriteFault where
  /-- The copy at the path could not be made. -/
  | backup (path : String)
  | text (path : String)
  deriving DecidableEq, Repr

/-- The wording of a fault. -/
def WriteFault.message : WriteFault → String
  | backup path => "Failed to create backup: " ++ path
  | text path => "Failed to write " ++ path

/-- The path of the copy of a file. -/
def backupPath (path : String) : String :=
  path ++ ".bak"

/-- Copies a file to its backup. -/
def copyToBackup (tree : FileTree) (path : String) : Except WriteFault FileTree :=
  match (tree.read? path).bind (tree.write? (backupPath path)) with
  | some tree => .ok tree
  | none => .error (.backup (backupPath path))

/-- Writes a text to a file, after a copy of the file if that is wanted. -/
def writeText (tree : FileTree) (path text : String) (backup : Bool) :
    Except WriteFault FileTree := do
  let tree ← if backup then copyToBackup tree path else pure tree
  match tree.write? path text.toUTF8 with
  | some tree => .ok tree
  | none => .error (.text path)

end Gloss.SourceFile
