import Gloss.Config.Basic
import Gloss.Config.Variable
import Gloss.FileTree
import Gloss.Log

/-!
# Loading a configuration

A configuration is put together from layers: the defaults, the file, the
environment and the command line, the later over the earlier.
-/

namespace Gloss.Config

/-- The name of the file that is looked for in the working directory. -/
def fileName : String := "quill.config.json"

/-- The configuration that layers give, the later over the earlier. -/
def ofLayers (layers : List Json) : Except Fault Config :=
  match ofJson? (layers.foldl Json.merge ({} : Config).toJson) with
  | none => .error .malformed
  | some config => config.validate.map fun _ => config

/-- The layer that the bytes of a file give; it has to be an object. -/
def fileLayer (bytes : ByteArray) : Except Fault Json :=
  match (String.fromUTF8? bytes).bind Json.read? with
  | some (.object fields) => .ok (.object fields)
  | _ => .error .malformed

/-- The path of the file to load: the one that was asked for, which has to be there,
or else the one in the working directory, if it is there. -/
def filePath (tree : FileTree) (dir : String) (asked : Option String) :
    Except Fault (Option String) :=
  match asked with
  | some path =>
    if (tree.read? path).isSome then .ok (some (Path.within dir path))
    else .error (.notFound (Path.within dir path))
  | none =>
    .ok (if (tree.read? fileName).isSome then some (Path.within dir fileName) else none)

/-- What is logged when a configuration is loaded. -/
def loadLog (tree : FileTree) (dir : String) (asked : Option String) : List Log.Entry :=
  match filePath tree dir asked with
  | .ok (some path) => [⟨.debug, "loading config file", [("path", path)]⟩]
  | _ => []

/-- Loads a configuration; `dir` is how the working directory is written. -/
def load (tree : FileTree) (dir : String) (env : List (String × String))
    (asked : Option String) (overrides : Overrides) : Except Fault Config := do
  let _ ← filePath tree dir asked
  let file ← match tree.read? (asked.getD fileName) with
    | some bytes => (fileLayer bytes).map ([·])
    | none => pure []
  ofLayers (file ++ [Variable.layer env, overrides.toJson])

end Gloss.Config
