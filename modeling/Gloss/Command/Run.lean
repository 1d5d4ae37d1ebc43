import Gloss.Command.Check
import Gloss.Command.Fix
import Gloss.Invocation.Read

/-!
# Running the program

From arguments and files to output, messages, new files and an exit code.
-/

namespace Gloss.Command

/-- The version of the program. -/
def version : String := "quill 0.4.1"

/-- How the program is used. -/
def usage : String :=
  "Find and fill missing C# documentation comments\n\n" ++
    "Usage: quill [OPTIONS] <COMMAND>\n\n" ++
    "Commands:\n" ++
    "  check  Report declarations that need a documentation header\n" ++
    "  fix    Insert documentation headers in place\n" ++
    "  help   Print this message\n"

/-- Does what is requested, and says whether all is well. -/
def perform (host : Host) : Request → Action Bool
  | .check request => check host request
  | .fix request => fix host request

/-- What came of a request. -/
structure Performed where
  output : Output
  result : Except CommandError Bool

/-- Does what is requested, starting from some files. -/
def run (host : Host) (tree : FileTree) (request : Request) : Performed :=
  match perform host request { tree := tree } with
  | .ok success output => ⟨output, .ok success⟩
  | .error error output => ⟨output, .error error⟩

/-- The exit code of a result. Without a host the program breaks off. -/
def exitCode : Except CommandError Bool → Nat
  | .ok true => 0
  | .error (.noHost _) => 101
  | .ok false | .error _ => 1

/-- Whether an entry of the given level is shown. -/
def shows (invocation : Invocation) (ownEntry : Bool) (level : Log.Level) : Bool :=
  if invocation.verbose then true
  else
    match level with
    | .error => true
    | .warn => !invocation.quiet
    | .info => !invocation.quiet && ownEntry
    | .debug => false

/-- The text of a notice, if it is shown. -/
def Notice.text? (invocation : Invocation) : Notice → Option String
  | status s => some s.render
  | event entry => if shows invocation true entry.level then some (entry.render ++ "\n") else none
  | detail entry =>
    if shows invocation false entry.level then some (entry.render ++ "\n") else none

/-- What the whole program leaves behind. -/
structure Outcome where
  code : Nat
  stdout : String := ""
  stderr : String := ""
  /-- The messages to the user that `stderr` holds. -/
  statuses : List Status := []
  tree : FileTree

/-- The text that reports an error at the end. -/
def errorText : Except CommandError Bool → String
  | .ok _ => ""
  | .error error => "Error: " ++ error.report ++ "\n"

/-- Runs the program. -/
def launch (host : Host) (tree : FileTree) (args : List String) : Outcome :=
  match Invocation.read args with
  | .error .help => { code := 0, stdout := usage, tree := tree }
  | .error .version => { code := 0, stdout := version ++ "\n", tree := tree }
  | .error (.misuse misuse) =>
    { code := (Invocation.Halt.misuse misuse).code
      stderr := "error: " ++ misuse.message ++ "\n"
      tree := tree }
  | .ok invocation =>
    let done := run host tree invocation.request
    { code := exitCode done.result
      stdout := done.output.stdout
      stderr := String.join (done.output.notices.filterMap (Notice.text? invocation)) ++
        errorText done.result
      statuses := done.output.statuses
      tree := done.output.tree }

end Gloss.Command
