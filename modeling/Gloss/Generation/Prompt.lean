import Gloss.Declaration.Basic

/-!
# Prompts

What a model is asked for the comment of a class or a method.
-/

namespace Gloss.Generation

/-- What a comment is asked for. -/
inductive Target where
  | classType
  | method
  deriving DecidableEq, Repr

/-- The target of a kind of declaration, if a model is asked for it at all. -/
def Target.ofKind : Declaration.Kind → Option Target
  | .classType => some .classType
  | .method => some .method
  | _ => none

/-- The word for a target. -/
def Target.noun : Target → String
  | classType => "class"
  | method => "method"

/-- How long a line of a comment may be. -/
def maxLineLength : Nat := 100

/-- What the model is told to do. -/
def systemPrompt (target : Target) : String :=
  "Based on the source code provided, give me a XML comment of a C# " ++ target.noun ++
    ". Limit the max length of a line to " ++ toString maxLineLength ++ " chars." ++
    (match target with
      | .classType => " Use the same indentation."
      | .method => " Add links to object types. Never use <seealso> elements.") ++
    "\n\nIMPORTANT: Reply with ONLY the comment lines, each starting with ///. " ++
    "Do NOT repeat the source code and do NOT wrap the comment in markdown code blocks."

/-- What the model is given. -/
def userPrompt (target : Target) (source : String) : String :=
  "Here is the source code of the " ++ target.noun ++ ":\n" ++ source

end Gloss.Generation
