import Gloss.Generation.Failure
import Gloss.Text.Blank
import Gloss.Text.Numeral
import Gloss.Text.Search

/-!
# Settings of the generation

Which model is asked, where, and for how long; what settings are refused, and
the address that a url stands for.
-/

namespace Gloss.Generation

open Gloss.Text

/-- How comments are generated. -/
structure Settings where
  provider : String := "ollama"
  model : String := "llama3.2:3b"
  url : String := "http://localhost:11434"
  cacheEnabled : Bool := true
  cacheTtlSeconds : Nat := 30
  timeoutSeconds : Nat := 60
  deriving DecidableEq, Repr, Inhabited

/-- Why settings are refused. -/
inductive Settings.Fault where
  | unsupportedProvider (provider : String)
  | emptyModel
  | emptyUrl
  | zeroTimeout
  | zeroTtl
  deriving DecidableEq, Repr

/-- The wording of a fault. -/
def Settings.Fault.message : Settings.Fault → String
  | unsupportedProvider provider =>
    "Unsupported provider '" ++ provider ++ "'. Valid options: ollama"
  | emptyModel => "Model name cannot be empty"
  | emptyUrl => "Ollama URL cannot be empty"
  | zeroTimeout => "timeout_seconds must be greater than 0"
  | zeroTtl => "cache_ttl_seconds must be greater than 0"

/-- Checks settings and names the first fault. -/
def Settings.validate (s : Settings) : Except Settings.Fault Unit :=
  if s.provider ≠ "ollama" then .error (.unsupportedProvider s.provider)
  else if s.model.isEmpty then .error .emptyModel
  else if s.url.isEmpty then .error .emptyUrl
  else if s.timeoutSeconds = 0 then .error .zeroTimeout
  else if s.cacheTtlSeconds = 0 then .error .zeroTtl
  else .ok ()

/-! ## Addresses -/

/-- Where a server listens. -/
structure Address where
  scheme : String
  host : String
  portNumber : Nat
  deriving DecidableEq, Repr

/-- The number behind the host when a url names none. -/
def Address.defaultNumber : Nat := 11434

/-- The scheme of a url and what follows it. -/
def splitScheme (url : List Char) : String × List Char :=
  match dropPrefix? "https://".toList url with
  | some rest => ("https", rest)
  | none =>
    match dropPrefix? "http://".toList url with
    | some rest => ("http", rest)
    | none => ("http", url)

/-- The address of a url, without the slashes at its end. -/
def Address.ofUrl (url : String) : Except Failure Address :=
  let (scheme, rest) := splitScheme (dropEndWhile (· == '/') url.toList)
  match breakOn [':'] rest with
  | none => .ok ⟨scheme, String.ofList rest, defaultNumber⟩
  | some (host, digits) =>
    match readNumeral 0x10000 digits with
    | some n => .ok ⟨scheme, String.ofList host, n⟩
    | none => .error (.failed ("Invalid port number in URL: " ++ String.ofList digits) none)

/-- Whether the address has a host at all. -/
def Address.hasHost (a : Address) : Bool :=
  !isBlankText a.host.toList

/-- The address that valid settings lead to. -/
def Settings.address (s : Settings) : Except Failure Address :=
  match s.validate with
  | .error fault => .error (.failed ("Invalid config: " ++ fault.message) none)
  | .ok () => Address.ofUrl s.url

/-! ## Models -/

/-- What a server says of the wanted model. -/
inductive Preflight where
  | found (model : String) (available : List String)
  | notFound (requested : String) (available suggestions : List String)
  deriving DecidableEq, Repr

/-- Whether the model was found. -/
def Preflight.isFound : Preflight → Bool
  | found .. => true
  | notFound .. => false

/-- A missing model as a failure. -/
def Preflight.check : Preflight → Except Failure Unit
  | found .. => .ok ()
  | notFound requested available _ => .error (.modelNotFound requested available)

end Gloss.Generation
