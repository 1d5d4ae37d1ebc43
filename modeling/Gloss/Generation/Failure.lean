/-!
# Failures of a generation

Why a model gave no usable comment, and the wording of each cause.
-/

namespace Gloss.Generation

/-- Why a model gave no usable comment. -/
inductive Failure where
  /-- The server does not answer. -/
  | unreachable (url : String)
  /-- The server does not have the model. -/
  | modelNotFound (model : String) (available : List String)
  /-- The request failed, perhaps because of another error. -/
  | failed (message : String) (cause : Option String)
  /-- The reply holds no comment that can be used. -/
  | invalidReply (message raw : String)
  | emptyReply
  | timeout (seconds : Nat)
  deriving DecidableEq, Repr

namespace Failure

/-- How many characters of a refused reply are shown. -/
def previewLength : Nat := 100

/-- The start of a reply, with a mark if there is more. -/
def preview (raw : String) : String :=
  String.ofList (raw.toList.take previewLength) ++
    if raw.length > previewLength then "..." else ""

/-- The wording of a failure. -/
def message : Failure → String
  | unreachable url =>
    "Cannot connect to Ollama at " ++ url ++ ". Is Ollama running?\nTry: ollama serve"
  | modelNotFound model available =>
    let found := if available.isEmpty then "none (install a model first)"
      else ", ".intercalate available
    "Model '" ++ model ++ "' not found. Available models: " ++ found ++
      "\nTo download: ollama pull " ++ model
  | failed message _ => "LLM generation failed: " ++ message
  | invalidReply message raw =>
    "Invalid LLM response: " ++ message ++ "\nResponse preview: " ++ preview raw
  | emptyReply => "LLM returned an empty response"
  | timeout seconds => "LLM request timed out after " ++ toString seconds ++ "s"

/-- Whether the failure was brought about by another error. -/
def hasCause : Failure → Bool
  | unreachable _ => true
  | failed _ cause => cause.isSome
  | _ => false

end Failure

end Gloss.Generation
