import Gloss.Command.Run

/-!
# The program

Reads the files that the arguments name, runs the command on them and writes back
what has changed.
-/

namespace Gloss.Main

/-- The place of a path that starts at the root. -/
def placeOf (path : String) : Place :=
  (Text.piecesOf '/' path).filter (!·.isEmpty)

/-- The path of a place. -/
def pathOf (place : Place) : String :=
  "/" ++ "/".intercalate place

/-- The variables in a text in which a NUL ends each. -/
def variablesOf (text : String) : List (String × String) :=
  (Text.pieces '\x00' text.toList).filterMap fun line =>
    (Text.breakOn ['='] line).map fun (name, value) =>
      (String.ofList name, String.ofList value)

/-- The environment. -/
def readVariables : IO (List (String × String)) := do
  let bytes ← try IO.FS.readBinFile "/proc/self/environ" catch _ => pure .empty
  return variablesOf ((String.fromUTF8? bytes).getD "")

/-- Adds to a tree what is found at a path: a file, or the sources below it. -/
partial def load (tree : FileTree) (path : String) : IO FileTree := do
  let file := (← IO.currentDir) / path
  if !(← file.pathExists) then return tree
  let place := placeOf (← IO.FS.realPath file).toString
  if ← file.isDir then
    (← file.readDir).foldlM (fun tree entry => do
      if (← entry.path.isDir) || SourceFile.isSourceName entry.fileName then
        load tree entry.path.toString
      else return tree) { tree with dirs := place :: tree.dirs }
  else return tree.put place (← IO.FS.readBinFile file)

/-- The paths that a request is about. -/
def pathsOf (request : Request) : List String :=
  let paths := match request with
    | .check r => r.paths
    | .fix r => r.paths
  request.config.getD Config.fileName :: paths

/-- Writes the files of a tree that another one does not have. -/
def save (before after : FileTree) : IO Unit :=
  after.files.forM fun (place, bytes) => do
    if (before.file? place).map (·.toList) != some bytes.toList then
      IO.FS.writeBinFile (pathOf place) bytes

end Gloss.Main

open Gloss in
/-- Runs the program. -/
def main (args : List String) : IO UInt32 := do
  let dir := (← IO.currentDir).toString
  let start : FileTree := { workingDir := Main.placeOf dir }
  let tree ← match Invocation.read args with
    | .ok invocation => (Main.pathsOf invocation.request).foldlM Main.load start
    | .error _ => pure start
  let outcome := Command.launch { dir := dir, env := ← Main.readVariables } tree args
  Main.save tree outcome.tree
  IO.print outcome.stdout
  IO.eprint outcome.stderr
  return outcome.code.toUInt32
