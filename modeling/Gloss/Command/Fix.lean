import Gloss.Command.Basic
import Gloss.Invocation.Basic

/-!
# Fixing

Documents the declarations that need a comment and writes the files back.
-/

namespace Gloss.Command

/-- What has been done so far. -/
structure Summary where
  filesChanged : Nat := 0
  documented : Nat := 0
  failed : Nat := 0
  deriving DecidableEq, Repr

/-- The summary with one more report. -/
def Summary.add (s : Summary) (report : UnitReport) : Summary where
  filesChanged := s.filesChanged + if report.changed then 1 else 0
  documented := s.documented + report.documented
  failed := s.failed + report.failed

/-- Asks the server of the settings for a generator. -/
def connect (host : Host) (settings : Generation.Settings) : Action Generation.Generator := do
  say .info ("Connecting to Ollama at " ++ settings.url ++ " (model " ++ settings.model ++ ")")
  let address ← orFail .generation settings.address
  if address.hasHost then orFail .generation (host.connect settings)
  else throw (.noHost settings.url)

/-- What documents under a configuration. -/
def documentorFor (host : Host) (config : Config) : Action Documentor := do
  if config.usesLlm then
    let generator ← connect host config.llm
    return { options := config.documentorOptions
             model := some ⟨generator, 1000 * config.llm.timeoutSeconds⟩ }
  else return { options := config.documentorOptions }

/-- The warning for a declaration that could not be documented. -/
def failureWarning (path : String) (d : Declaration) (error : DocError) : String :=
  path ++ ":" ++ toString d.line ++ ":" ++ toString d.column ++ ": could not document " ++
    d.kind.label ++ " '" ++ d.name ++ "': " ++ error.message

/-- Leaves the new text of a file where it belongs. -/
def deliver (request : FixRequest) (config : Config) (path : String) (report : UnitReport) :
    Action Unit := do
  if request.dryRun then print report.text
  else if report.changed then
    writeSource path report.text config.backup
    logEvent .info "updated file" [("path", path), ("documented", toString report.documented)]
  else logEvent .debug "nothing to document" [("path", path)]

/-- Documents a file. -/
def fixFile (doc : Documentor) (request : FixRequest) (config : Config)
    (state : Cache.Clock × Summary) (path : String) : Action (Cache.Clock × Summary) := do
  let unit ← readSource path
  let run := doc.documentUnit state.1 unit
  let report := run.value
  tell (run.log.map .detail)
  tell (report.failures.map fun (d, error) =>
    .status ⟨.warning, failureWarning path d error⟩)
  deliver request config path report
  return (run.clock, state.2.add report)

/-- Documents sources, and says whether every declaration could be documented. -/
def fix (host : Host) (request : FixRequest) : Action Bool := do
  let config ← loadConfig host request.config request.overrides
  let doc ← documentorFor host config
  let sources ← collectSources request.paths
  if sources.isEmpty then
    say .warning "No C# files found"
    return true
  let (_, summary) ← sources.foldlM (fixFile doc request config)
    ({ cache := Cache.ofSettings config.llm }, {})
  say .success ((if request.dryRun then "Would document " else "Documented ") ++
    Status.count summary.documented "declaration" ++ " in " ++
    Status.count summary.filesChanged "file" ++ " (" ++ toString sources.length ++ " checked)")
  if summary.failed > 0 then
    say .error (Status.count summary.failed "declaration" ++ " could not be documented")
    return false
  return true

end Gloss.Command
