import Gloss.Invocation.Basic
import Gloss.Text.Numeral
import Gloss.Text.Search

/-!
# Reading arguments

Arguments are read one after another. A name such as `--format` or `-f` stands for a
switch, or for a setting that takes the next argument, or what is attached to it, as
its value. Values are checked when the next name comes or the arguments end. A
command reads all arguments behind its name, and is checked before what stands in
front of it.
-/

namespace Gloss.Invocation

open Gloss.Text

/-! ## Names -/

/-- Something that is on or off. -/
inductive Switch where
  | verbose
  | quiet
  | noColor
  | constFieldsOnly
  | dryRun
  | backup
  | llm
  | fallback
  deriving DecidableEq, Repr

/-- Something that takes a value. -/
inductive Setting where
  | format
  | config
  | model
  | url
  | concurrency
  deriving DecidableEq, Repr

/-- What a name stands for. -/
inductive Meaning where
  | switch (s : Switch)
  | setting (s : Setting)
  | help
  | version
  deriving DecidableEq, Repr

/-- The names that can be used. -/
structure Names where
  long : List (String × Meaning)
  short : List (Char × Meaning)

/-- The names that every command knows. -/
def Names.shared : Names where
  long := [("verbose", .switch .verbose), ("quiet", .switch .quiet),
    ("no-color", .switch .noColor), ("help", .help)]
  short := [('v', .switch .verbose), ('q', .switch .quiet), ('h', .help)]

/-- The names in front of a command. -/
def Names.program : Names where
  long := ("version", .version) :: Names.shared.long
  short := ('V', .version) :: Names.shared.short

/-- The names behind `check`. -/
def Names.check : Names where
  long := [("format", .setting .format), ("const-fields-only", .switch .constFieldsOnly),
    ("config", .setting .config)] ++ Names.shared.long
  short := [('f', .setting .format), ('c', .setting .config)] ++ Names.shared.short

/-- The names behind `fix`. -/
def Names.fix : Names where
  long := [("dry-run", .switch .dryRun), ("backup", .switch .backup), ("llm", .switch .llm),
    ("model", .setting .model), ("url", .setting .url), ("fallback", .switch .fallback),
    ("const-fields-only", .switch .constFieldsOnly), ("concurrency", .setting .concurrency),
    ("config", .setting .config)] ++ Names.shared.long
  short := [('j', .setting .concurrency), ('c', .setting .config)] ++ Names.shared.short

/-! ## What has been read -/

/-- The value of a setting. -/
inductive Value where
  | format (format : OutputFormat)
  | text (text : String)
  | number (n : Nat)
  deriving DecidableEq, Repr

/-- What waits to be checked. -/
inductive Pending where
  | nothing
  /-- A setting, with its value if that has come. -/
  | setting (s : Setting) (value : Option String)
  | paths (paths : List String)
  deriving DecidableEq, Repr

/-- What has been read at a level: in front of a command, or behind it. -/
structure Reading where
  switches : List Switch := []
  settings : List (Setting × Value) := []
  paths : List String := []
  pending : Pending := .nothing
  /-- Whether `--` has come, behind which there are no names. -/
  trailing : Bool := false
  deriving DecidableEq, Repr

/-- The value of a setting. -/
def Setting.value (s : Setting) (text : String) : Except Misuse Value :=
  match s with
  | format =>
    match OutputFormat.ofLabel? text with
    | some f => .ok (.format f)
    | none => .error .invalidValue
  | config => if text.isEmpty then .error .invalidValue else .ok (.text text)
  | model | url => .ok (.text text)
  | concurrency =>
    match readNumeral 0x10000000000000000 text.toList with
    | some n => .ok (.number n)
    | none => .error .invalidNumber

namespace Reading

/-- Whether a switch is on. -/
def has (r : Reading) (s : Switch) : Bool :=
  r.switches.contains s

/-- The value of a setting, if it is given. -/
def value? (r : Reading) (s : Setting) : Option Value :=
  r.settings.lookup s

/-- The text of a setting, if it is given. -/
def text? (r : Reading) (s : Setting) : Option String :=
  match r.value? s with
  | some (.text text) => some text
  | _ => none

/-- Takes a setting with its value. -/
def set (r : Reading) (s : Setting) (text : String) : Except Misuse Reading :=
  if (r.value? s).isSome then .error .conflict
  else (s.value text).map fun value => { r with settings := r.settings ++ [(s, value)] }

/-- Checks what waits. -/
def settle (r : Reading) : Except Misuse Reading :=
  let rest := { r with pending := .nothing }
  match r.pending with
  | .nothing => .ok rest
  | .setting _ none => .error .invalidValue
  | .setting s (some text) => rest.set s text
  | .paths paths =>
    if paths.any String.isEmpty then .error .invalidValue
    else .ok { rest with paths := rest.paths ++ paths }

/-- Turns a switch on. -/
def turnOn (r : Reading) (s : Switch) : Except Misuse Reading := do
  let r ← r.settle
  if r.has s then .error .conflict else .ok { r with switches := r.switches ++ [s] }

/-- Takes a setting, with the value that is attached to its name if there is one. -/
def open? (r : Reading) (s : Setting) (attached : Option String) : Except Misuse Reading := do
  let r ← r.settle
  match attached with
  | some text => r.set s text
  | none => .ok { r with pending := .setting s none }

/-- Takes an argument that is no name: the value of a setting, or a path. -/
def addPlain (r : Reading) (arg : String) : Except Misuse Reading :=
  match r.pending, r.trailing with
  | .setting s none, false => .ok { r with pending := .setting s (some arg) }
  | .paths paths, _ => .ok { r with pending := .paths (paths ++ [arg]) }
  | _, _ => r.settle.map fun r => { r with pending := .paths [arg] }

/-- A misuse as a reason to stop. -/
def lift (r : Except Misuse Reading) : Except Halt Reading :=
  r.mapError .misuse

/-- Stops for `reason` if what waits is in order. -/
def stop (r : Reading) (reason : Halt) : Except Halt Reading :=
  (lift r.settle).bind fun _ => .error reason

/-- Takes a name that starts with two dashes; behind `=` stands a value. -/
def addLong (names : Names) (r : Reading) (body : List Char) : Except Halt Reading :=
  let (name, attached) := match breakOn ['='] body with
    | some (name, value) => (String.ofList name, some (String.ofList value))
    | none => (String.ofList body, none)
  match names.long.lookup name, attached with
  | none, _ => .error (.misuse .unknownArgument)
  | some (.setting s), _ => lift (r.open? s attached)
  | some _, some _ => .error (.misuse .unwantedValue)
  | some (.switch s), none => lift (r.turnOn s)
  | some .help, none => r.stop .help
  | some .version, none => r.stop .version

/-- The value that is attached to a letter. -/
def attachedTo : List Char → Option String
  | [] => none
  | '=' :: value => some (String.ofList value)
  | value => some (String.ofList value)

/-- Takes the letters behind one dash: switches, and at the end perhaps a setting. -/
def addLetters (names : Names) (r : Reading) : List Char → Except Halt Reading
  | [] => .ok r
  | c :: cs =>
    match names.short.lookup c with
    | none => .error (.misuse .unknownArgument)
    | some (.setting s) => lift (r.open? s (attachedTo cs))
    | some (.switch s) => (lift (r.turnOn s)).bind fun r => addLetters names r cs
    | some .help => r.stop .help
    | some .version => r.stop .version

/-- The kinds of arguments. -/
inductive Shape where
  /-- The mark `--`. -/
  | mark
  | long (body : List Char)
  | letters (body : List Char)
  | plain

/-- The kind of an argument. -/
def Shape.of (arg : String) : Shape :=
  match arg.toList with
  | ['-', '-'] => mark
  | '-' :: '-' :: body => long body
  | '-' :: c :: body => letters (c :: body)
  | _ => plain

/-- Takes one more argument behind a command. -/
def add (names : Names) (r : Reading) (arg : String) : Except Halt Reading :=
  if r.trailing then lift (r.addPlain arg)
  else
    match Shape.of arg with
    | .mark => .ok { r with trailing := true }
    | .long body => addLong names r body
    | .letters body => addLetters names r body
    | .plain => lift (r.addPlain arg)

/-- Whether switches exclude each other. -/
def excludes (r : Reading) : Bool :=
  r.has .verbose && r.has .quiet

/-- Whether something that is required is missing. -/
def lacks (r : Reading) : Bool :=
  r.paths.isEmpty || ((r.value? .model).isSome || (r.value? .url).isSome) && !r.has .llm

/-- Checks all that has been read behind a command. -/
def finish (r : Reading) : Except Misuse Reading := do
  let r ← r.settle
  if r.excludes then .error .conflict
  else if r.lacks then .error .missingArgument
  else .ok r

/-- The request to check. -/
def checkRequest (r : Reading) : CheckRequest where
  paths := r.paths
  format := match r.value? .format with
    | some (.format f) => f
    | _ => .text
  constFieldsOnly := r.has .constFieldsOnly
  config := r.text? .config

/-- The request to fix. -/
def fixRequest (r : Reading) : FixRequest where
  paths := r.paths
  dryRun := r.has .dryRun
  backup := r.has .backup
  llm := r.has .llm
  model := r.text? .model
  url := r.text? .url
  fallback := r.has .fallback
  constFieldsOnly := r.has .constFieldsOnly
  concurrency := match r.value? .concurrency with
    | some (.number n) => some n
    | _ => none
  config := r.text? .config

end Reading

/-! ## Commands -/

/-- The commands. -/
inductive Command where
  | check
  | fix
  | help
  deriving DecidableEq, Repr

/-- The command with a name. -/
def Command.ofName? : String → Option Command
  | "check" => some check
  | "fix" => some fix
  | "help" => some help
  | _ => none

/-- Reads the arguments behind a command that makes a request. -/
def readBehind (names : Names) (args : List String) : Except Halt Reading := do
  let r ← args.foldlM (Reading.add names) {}
  Reading.lift r.finish

/-- The invocation that was read in front of a command and behind it. Switches for
all commands count in both places. -/
def assemble (front behind : Reading) (request : Request) : Except Halt Invocation :=
  if front.excludes then .error (.misuse .conflict)
  else
    .ok {
      verbose := front.has .verbose || behind.has .verbose
      quiet := front.has .quiet || behind.has .quiet
      noColor := front.has .noColor || behind.has .noColor
      request := request }

/-- Reads the arguments behind `help`: at most one command. -/
def readHelp : List String → Halt
  | [] => .help
  | [name] => if (Command.ofName? name).isSome then .help else .misuse .unknownCommand
  | _ => .misuse .unknownCommand

/-- Reads the arguments behind a command. -/
def readCommand (front : Reading) (args : List String) : Command → Except Halt Invocation
  | .check => do
    let behind ← readBehind Names.check args
    assemble front behind (.check behind.checkRequest)
  | .fix => do
    let behind ← readBehind Names.fix args
    assemble front behind (.fix behind.fixRequest)
  | .help => .error (readHelp args)

/-- Reads arguments of which some have been read. -/
def readFrom (front : Reading) : List String → Except Halt Invocation
  | [] =>
    .error (.misuse (if front.switches.isEmpty then .noArguments else .missingCommand))
  | arg :: args =>
    if front.trailing then
      .error (.misuse (if (Command.ofName? arg).isSome then .unknownArgument else .unknownCommand))
    else
      match Command.ofName? arg with
      | some command => readCommand front args command
      | none =>
        match Reading.Shape.of arg with
        | .plain => .error (.misuse .unknownCommand)
        | _ => (front.add Names.program arg).bind fun front => readFrom front args

/-- The invocation that arguments stand for. -/
def read (args : List String) : Except Halt Invocation :=
  readFrom {} args

end Gloss.Invocation
