import Gloss.Config.Basic

/-!
# Invocations

What the program can be asked to do, and why a list of arguments asks for nothing.
-/

namespace Gloss

/-- How diagnostics are written. -/
inductive OutputFormat where
  /-- A line for each. -/
  | text
  | json
  deriving DecidableEq, Repr, Inhabited

/-- The name of a format. -/
def OutputFormat.label : OutputFormat → String
  | text => "text"
  | json => "json"

/-- The format with a name. -/
def OutputFormat.ofLabel? (s : String) : Option OutputFormat :=
  [text, json].find? (·.label == s)

/-- Reporting the declarations without a comment. -/
structure CheckRequest where
  paths : List String
  format : OutputFormat := .text
  constFieldsOnly : Bool := false
  config : Option String := none
  deriving DecidableEq, Repr, Inhabited

/-- What the arguments override. -/
def CheckRequest.overrides (r : CheckRequest) : Config.Overrides :=
  { constFieldsOnly := Config.Overrides.flag r.constFieldsOnly }

/-- Putting in the missing comments. -/
structure FixRequest where
  paths : List String
  /-- Whether the new texts are only shown. -/
  dryRun : Bool := false
  backup : Bool := false
  llm : Bool := false
  model : Option String := none
  url : Option String := none
  fallback : Bool := false
  constFieldsOnly : Bool := false
  concurrency : Option Nat := none
  config : Option String := none
  deriving DecidableEq, Repr, Inhabited

/-- What the arguments override. -/
def FixRequest.overrides (r : FixRequest) : Config.Overrides :=
  { generator := if r.llm then some .llm else none
    fallback := Config.Overrides.flag r.fallback
    backup := Config.Overrides.flag r.backup
    constFieldsOnly := Config.Overrides.flag r.constFieldsOnly
    concurrency := r.concurrency
    model := r.model
    url := r.url }

/-- What the program is asked to do. -/
inductive Request where
  | check (request : CheckRequest)
  | fix (request : FixRequest)
  deriving DecidableEq, Repr

/-- The file with the configuration that is asked for. -/
def Request.config : Request → Option String
  | check r => r.config
  | fix r => r.config

/-- What the arguments override. -/
def Request.overrides : Request → Config.Overrides
  | check r => r.overrides
  | fix r => r.overrides

/-- A request, and how to talk about it. -/
structure Invocation where
  verbose : Bool := false
  quiet : Bool := false
  noColor : Bool := false
  request : Request
  deriving DecidableEq, Repr

namespace Invocation

/-- Why arguments cannot be used. -/
inductive Misuse where
  | noArguments
  | missingCommand
  | unknownCommand
  | unknownArgument
  /-- A value for an argument that takes none. -/
  | unwantedValue
  /-- A value that is missing, or that is none of the possible ones. -/
  | invalidValue
  | invalidNumber
  /-- An argument that is given twice, or together with one that excludes it. -/
  | conflict
  | missingArgument
  deriving DecidableEq, Repr

/-- The wording of a misuse. -/
def Misuse.message : Misuse → String
  | noArguments | missingCommand => "a command is required: check, fix or help"
  | unknownCommand => "unrecognized command"
  | unknownArgument => "unexpected argument"
  | unwantedValue => "unexpected value for a flag"
  | invalidValue => "a value is missing or invalid"
  | invalidNumber => "a number is invalid"
  | conflict => "an argument cannot be used more than once or with another"
  | missingArgument => "a required argument was not provided"

/-- Why arguments lead to no request. -/
inductive Halt where
  | help
  | version
  | misuse (misuse : Misuse)
  deriving DecidableEq, Repr

/-- The exit code without a request. -/
def Halt.code : Halt → Nat
  | help | version => 0
  | misuse _ => 2

end Invocation

end Gloss
