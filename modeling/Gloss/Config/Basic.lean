import Gloss.Documentor
import Gloss.Json.Basic

/-!
# Configuration

What can be configured, with its defaults; the form of a configuration as a JSON
value, and what is refused.
-/

namespace Gloss

/-- What documents classes and methods. -/
inductive Config.Generator where
  | heuristic
  | llm
  deriving DecidableEq, Repr, Inhabited

/-- How sources are checked and documented. -/
structure Config where
  generator : Config.Generator := .heuristic
  /-- Whether the templates stand in when the model fails. -/
  fallback : Bool := false
  /-- Whether a file is copied before it is written. -/
  backup : Bool := false
  constFieldsOnly : Bool := false
  concurrency : Nat := ({} : DocumentorOptions).concurrency
  llm : Generation.Settings := {}
  deriving DecidableEq, Repr, Inhabited

namespace Config

/-! ## As JSON -/

/-- The name of a generator. -/
def Generator.label : Generator → String
  | heuristic => "heuristic"
  | llm => "llm"

/-- The generator with a name. -/
def Generator.ofLabel? (s : String) : Option Generator :=
  [heuristic, llm].find? (·.label == s)

/-- The first field of an object by name. -/
def firstField : List (String × Json) → Option (String × Json)
  | [] => none
  | field :: fields =>
    match firstField fields with
    | some other => some (if other.1 < field.1 then other else field)
    | none => some field

/-- The generator that a value names: the name itself, or an object whose first
field has that name and no value. -/
def Generator.ofJson? : Json → Option Generator
  | .string s => ofLabel? s
  | .object fields =>
    match firstField fields with
    | some (key, .null) => ofLabel? key
    | _ => none
  | _ => none

/-- The truth value that a value holds. -/
def boolOf? : Json → Option Bool
  | .bool b => some b
  | _ => none

/-- The whole number that a value holds. -/
def naturalOf? : Json → Option Nat
  | .natural n => some n
  | _ => none

/-- The text that a value holds. -/
def textOf? : Json → Option String
  | .string s => some s
  | _ => none

/-- A field read in some way, with a value for when it is missing. -/
def fieldOr {α : Type} (j : Json) (key : String) (missing : α) (read : Json → Option α) :
    Option α :=
  match j.get? key with
  | none => some missing
  | some value => read value

/-- The names of the settings of the generation, in order. -/
def settingNames : List String :=
  ["provider", "model", "url", "cacheEnabled", "cacheTtlSeconds", "timeoutSeconds"]

/-- The settings of the generation that an object holds. -/
def settingsOfObject? (j : Json) : Option Generation.Settings := do
  let defaults : Generation.Settings := {}
  return {
    provider := ← fieldOr j "provider" defaults.provider textOf?
    model := ← fieldOr j "model" defaults.model textOf?
    url := ← fieldOr j "url" defaults.url textOf?
    cacheEnabled := ← fieldOr j "cacheEnabled" defaults.cacheEnabled boolOf?
    cacheTtlSeconds := ← fieldOr j "cacheTtlSeconds" defaults.cacheTtlSeconds naturalOf?
    timeoutSeconds := ← fieldOr j "timeoutSeconds" defaults.timeoutSeconds naturalOf? }

/-- The settings of the generation that a value holds; in an array the settings
stand in their order. -/
def settingsOf? : Json → Option Generation.Settings
  | .object fields => settingsOfObject? (.object fields)
  | .array items => settingsOfObject? (.object (settingNames.zip items))
  | _ => none

/-- The settings of the generation as an object. -/
def settingsJson (s : Generation.Settings) : Json :=
  .object [("provider", .string s.provider), ("model", .string s.model), ("url", .string s.url),
    ("cacheEnabled", .bool s.cacheEnabled), ("cacheTtlSeconds", .natural s.cacheTtlSeconds),
    ("timeoutSeconds", .natural s.timeoutSeconds)]

/-- The configuration that an object holds. Other fields do not count. -/
def ofJson? (j : Json) : Option Config := do
  let defaults : Config := {}
  return {
    generator := ← fieldOr j "generator" defaults.generator Generator.ofJson?
    fallback := ← fieldOr j "fallback" defaults.fallback boolOf?
    backup := ← fieldOr j "backup" defaults.backup boolOf?
    constFieldsOnly := ← fieldOr j "constFieldsOnly" defaults.constFieldsOnly boolOf?
    concurrency := ← fieldOr j "concurrency" defaults.concurrency naturalOf?
    llm := ← fieldOr j "llm" defaults.llm settingsOf? }

/-- A configuration as an object. -/
def toJson (config : Config) : Json :=
  .object [("generator", .string config.generator.label), ("fallback", .bool config.fallback),
    ("backup", .bool config.backup), ("constFieldsOnly", .bool config.constFieldsOnly),
    ("concurrency", .natural config.concurrency), ("llm", settingsJson config.llm)]

/-! ## What it means -/

/-- Whether the model is asked. -/
def usesLlm (config : Config) : Bool :=
  config.generator == .llm

/-- What to look at. -/
def scanOptions (config : Config) : ScanOptions :=
  ⟨config.constFieldsOnly⟩

/-- How to document. -/
def documentorOptions (config : Config) : DocumentorOptions :=
  { fallbackToHeuristic := config.fallback
    scan := config.scanOptions
    concurrency := config.concurrency }

/-! ## Faults -/

/-- Why there is no configuration. -/
inductive Fault where
  /-- The file that was asked for is not there. -/
  | notFound (path : String)
  | invalid (field value hint : String)
  deriving DecidableEq, Repr

/-- The wording of a fault. -/
def Fault.message : Fault → String
  | notFound path =>
    "Config file not found: " ++ path ++
      "\n\nHint: Create a quill.config.json file or fix the --config path"
  | invalid field value hint =>
    "Invalid value for '" ++ field ++ "': " ++ value ++ "\n\nHint: " ++ hint

/-- The fault of a configuration that does not have the right form. -/
def Fault.malformed : Fault :=
  .invalid "configuration" "a setting is missing or has the wrong type"
    "Check quill.config.json syntax and field types"

/-- Checks the values of a configuration and names the first fault. -/
def validate (config : Config) : Except Fault Unit :=
  if config.concurrency = 0 then .error (.invalid "concurrency" "0" "Use at least 1")
  else if config.usesLlm then
    config.llm.validate.mapError fun fault =>
      .invalid "llm" fault.message "Check the llm section of quill.config.json"
  else .ok ()

/-! ## Overrides -/

/-- What is given on the command line. -/
structure Overrides where
  generator : Option Generator := none
  fallback : Option Bool := none
  backup : Option Bool := none
  constFieldsOnly : Option Bool := none
  concurrency : Option Nat := none
  model : Option String := none
  url : Option String := none
  deriving DecidableEq, Repr, Inhabited

/-- A flag as an override: it can only switch a setting on. -/
def Overrides.flag (given : Bool) : Option Bool :=
  if given then some true else none

/-- A field, if it has a value. -/
def optionalField {α : Type} (key : String) (write : α → Json) (value : Option α) :
    List (String × Json) :=
  (value.map fun v => (key, write v)).toList

/-- Overrides as an object that holds only what is given. -/
def Overrides.toJson (o : Overrides) : Json :=
  let llm := optionalField "model" .string o.model ++ optionalField "url" .string o.url
  .object (optionalField "generator" (fun g => .string g.label) o.generator ++
    optionalField "fallback" .bool o.fallback ++
    optionalField "backup" .bool o.backup ++
    optionalField "constFieldsOnly" .bool o.constFieldsOnly ++
    optionalField "concurrency" .natural o.concurrency ++
    if llm.isEmpty then [] else [("llm", .object llm)])

end Config

end Gloss
