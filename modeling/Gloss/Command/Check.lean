import Gloss.Command.Basic
import Gloss.Invocation.Basic
import Gloss.Json.Render

/-!
# Checking

Reports every declaration that needs a comment, with the file it stands in.
-/

namespace Gloss

/-- A diagnostic with its file. -/
structure FileDiagnostic where
  path : String
  diagnostic : Diagnostic
  deriving DecidableEq, Repr

/-- The line of a diagnostic. -/
def FileDiagnostic.line (d : FileDiagnostic) : String :=
  d.path ++ ":" ++ toString d.diagnostic.line ++ ":" ++ toString d.diagnostic.column ++
    ": warning[" ++ d.diagnostic.id ++ "]: " ++ d.diagnostic.message

/-- The fields of a diagnostic. -/
def Diagnostic.fields (d : Diagnostic) : List (String × Json) :=
  [("id", .string d.id), ("category", .string d.category), ("kind", .string d.kind.label),
    ("name", .string d.name), ("line", .natural d.line), ("column", .natural d.column),
    ("message", .string d.message)]

/-- A diagnostic with its file as an object. -/
def FileDiagnostic.toJson (d : FileDiagnostic) : Json :=
  .object (("path", .string d.path) :: d.diagnostic.fields)

namespace Command

/-- Diagnostics as they are written. -/
def renderDiagnostics (format : OutputFormat) (ds : List FileDiagnostic) : String :=
  match format with
  | .text => String.join (ds.map fun d => d.line ++ "\n")
  | .json => (Json.array (ds.map FileDiagnostic.toJson)).pretty 0 ++ "\n"

/-- The diagnostics of a file. -/
def checkFile (scan : ScanOptions) (path : String) : Action (List FileDiagnostic) := do
  let unit ← readSource path
  tell ((unit.missingLog scan).map .detail)
  return (unit.missing scan).map (⟨path, ·⟩)

/-- Checks sources, and says whether nothing is missing. -/
def check (host : Host) (request : CheckRequest) : Action Bool := do
  let config ← loadConfig host request.config request.overrides
  let sources ← collectSources request.paths
  if sources.isEmpty then
    say .warning "No C# files found"
    return true
  let found := (← sources.mapM (checkFile config.scanOptions)).flatten
  print (renderDiagnostics request.format found)
  let checked := " (" ++ Status.count sources.length "file" ++ " checked)"
  if found.isEmpty then
    say .success ("All declarations are documented" ++ checked)
    return true
  else
    say .warning (Status.count found.length "declaration" ++ " missing documentation" ++ checked)
    return false

end Command

end Gloss
