/-!
# Log entries

What a run reports besides its result: a level, a message and named values.
-/

namespace Gloss.Log

/-- How much an entry matters. -/
inductive Level where
  | debug
  | info
  | warn
  | error
  deriving DecidableEq, Repr

/-- The name of a level. -/
def Level.label : Level → String
  | debug => "DEBUG"
  | info => "INFO"
  | warn => "WARN"
  | error => "ERROR"

/-- One entry of the log. -/
structure Entry where
  level : Level
  message : String
  fields : List (String × String) := []
  deriving DecidableEq, Repr

/-- The line of an entry. -/
def Entry.render (entry : Entry) : String :=
  entry.level.label ++ " " ++ entry.message ++
    String.join (entry.fields.map fun (key, value) => " " ++ key ++ "=" ++ value)

end Gloss.Log
