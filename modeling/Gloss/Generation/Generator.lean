import Gloss.Digest
import Gloss.Generation.Prompt
import Gloss.Generation.Reply
import Gloss.Generation.Settings
import Gloss.Log

/-!
# Generators

A generator answers prompts, each after some time. `request` is one question
about a source text: an answer that takes too long is a timeout, and a reply in
time is accepted or refused. Times are in milliseconds.
-/

namespace Gloss.Generation

/-- What comes back from a question, and when. -/
structure Answer where
  delay : Nat := 0
  outcome : Except Failure String

/-- Answers prompts. -/
structure Generator where
  answer : (system user : String) → Answer
  /-- What is logged with each question. -/
  announcement : List Log.Entry := []

/-- A generator that answers from a list: the first answer whose mark occurs in the
user prompt. -/
def Generator.ofScript (script : List (String × Answer)) : Generator where
  answer := fun _ user =>
    match script.find? fun (mark, _) => Text.occurs mark user with
    | some (_, answer) => answer
    | none => { outcome := .error (.failed "no scripted reply" none) }

/-- The generator of a server that does not answer. -/
def Generator.unreachable (s : Settings) : Generator where
  answer := fun _ _ =>
    { outcome := .error
        (.failed "Ollama generation error: Reqwest error" (some "Reqwest error")) }
  announcement := [⟨.debug, "sending generation request", [("model", s.model)]⟩]

/-- One question about a source text, with a limit on the time. -/
def request (g : Generator) (timeout : Nat) (target : Target) (source : String) : Answer :=
  let answer := g.answer (systemPrompt target) (userPrompt target source)
  if answer.delay ≤ timeout then { answer with outcome := answer.outcome.bind accept }
  else { delay := timeout, outcome := .error (.timeout (timeout / 1000)) }

/-- The key under which the comment of a source text is kept. -/
def cacheKey (source : String) : String :=
  Digest.hex source

end Gloss.Generation
