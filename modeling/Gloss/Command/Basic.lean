import Gloss.Config.Load
import Gloss.SourceFile
import Gloss.Status

/-!
# Commands

What commands work with: the machine they run on, what they leave behind, and why
they fail.
-/

namespace Gloss

/-- Why a command fails. -/
inductive CommandError where
  | config (fault : Config.Fault)
  | documenting (error : DocError)
  /-- The model cannot be used. -/
  | generation (failure : Generation.Failure)
  /-- The url of the model names no host. -/
  | noHost (url : String)
  | invalidArgument (message : String)
  | fileNotFound (path : String)
  /-- Writing failed; the causes stand from the outermost to the innermost. -/
  | write (causes : List String)
  deriving DecidableEq, Repr

namespace CommandError

/-- The wording of an error. -/
def message : CommandError → String
  | config fault => "Configuration error: " ++ fault.message
  | documenting error => error.message
  | generation failure => "LLM error: " ++ failure.message
  | noHost url => "LLM error: no host in " ++ url
  | invalidArgument message => "Invalid argument: " ++ message
  | fileNotFound path => "File not found: " ++ path
  | write causes => ": ".intercalate causes

/-- The text that reports an error to the user, with advice if there is no model. -/
def report : CommandError → String
  | generation failure =>
    match failure with
    | .unreachable _ | .modelNotFound .. =>
      failure.message ++ "\n\nHint: Run without --llm to use the heuristic templates"
    | _ => message (generation failure)
  | error => error.message

end CommandError

namespace Command

/-- The machine that a command runs on, without its files. -/
structure Host where
  /-- How the working directory is written. -/
  dir : String
  env : List (String × String) := []
  /-- Asks a server for a generator. -/
  connect : Generation.Settings → Except Generation.Failure Generation.Generator :=
    fun settings => .error (.unreachable settings.url)

/-- What a command tells besides its output. -/
inductive Notice where
  | status (status : Status)
  /-- A log entry of the command itself. -/
  | event (entry : Log.Entry)
  /-- A log entry of the documenting. -/
  | detail (entry : Log.Entry)
  deriving DecidableEq, Repr

/-- The status message of a notice. -/
def Notice.status? : Notice → Option Status
  | status s => some s
  | _ => none

/-- The log entry of a notice. -/
def Notice.entry? : Notice → Option Log.Entry
  | status _ => none
  | event entry | detail entry => some entry

/-- What a command leaves behind. -/
structure Output where
  tree : FileTree
  stdout : String := ""
  notices : List Notice := []

/-- The log entries, in order. -/
def Output.log (out : Output) : List Log.Entry :=
  out.notices.filterMap Notice.entry?

/-- The status messages, in order. -/
def Output.statuses (out : Output) : List Status :=
  out.notices.filterMap Notice.status?

/-- A piece of a command's work; what it leaves behind stays if it fails. -/
abbrev Action : Type → Type := EStateM CommandError Output

/-- Tells something. -/
def tell (notices : List Notice) : Action Unit :=
  modify fun out => { out with notices := out.notices ++ notices }

/-- Tells the user something. -/
def say (level : Status.Level) (message : String) : Action Unit :=
  tell [.status ⟨level, message⟩]

/-- Writes a log entry. -/
def logEvent (level : Log.Level) (message : String) (fields : List (String × String)) :
    Action Unit :=
  tell [.event ⟨level, message, fields⟩]

/-- Writes to the output. -/
def print (text : String) : Action Unit :=
  modify fun out => { out with stdout := out.stdout ++ text }

/-- A result that may be an error of the command. -/
def orFail {α ε : Type} (wrap : ε → CommandError) : Except ε α → Action α
  | .ok value => pure value
  | .error error => throw (wrap error)

/-- Loads the configuration. -/
def loadConfig (host : Host) (asked : Option String) (overrides : Config.Overrides) :
    Action Config := do
  let tree := (← get).tree
  tell ((Config.loadLog tree host.dir asked).map .event)
  orFail .config (Config.load tree host.dir host.env asked overrides)

/-- The files that paths stand for. -/
def collectSources (paths : List String) : Action (List String) := do
  let sources ← orFail .fileNotFound (SourceFile.collect (← get).tree paths)
  logEvent .debug "collected source files" [("count", toString sources.length)]
  return sources

/-- Reads a source file. -/
def readSource (path : String) : Action SourceUnit := do
  let text ← orFail (fun cause => .documenting (.unreadable path cause))
    (SourceFile.readText (← get).tree path)
  let unit := SourceUnit.read text
  tell (unit.readLog.map .detail)
  return unit

/-- Writes a source file. -/
def writeSource (path text : String) (backup : Bool) : Action Unit := do
  let tree ← orFail (fun fault => .write [SourceFile.WriteFault.message fault])
    (SourceFile.writeText (← get).tree path text backup)
  modify fun out => { out with tree := tree }

end Command

end Gloss
