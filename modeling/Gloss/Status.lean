/-!
# Status messages

What a run tells its user on the way: a sign and a message.
-/

namespace Gloss

/-- The tone of a message. -/
inductive Status.Level where
  | success
  | info
  | warning
  | error
  deriving DecidableEq, Repr

/-- The name of a tone. -/
def Status.Level.label : Status.Level → String
  | success => "success"
  | info => "info"
  | warning => "warning"
  | error => "error"

/-- The sign of a tone. -/
def Status.Level.sign : Status.Level → String
  | success => "✓"
  | info => "ℹ"
  | warning => "⚠"
  | error => "✗"

/-- A message to the user. -/
structure Status where
  level : Status.Level
  message : String
  deriving DecidableEq, Repr

/-- The text of a message. -/
def Status.render (s : Status) : String :=
  s.level.sign ++ " " ++ s.message ++ "\n"

/-- A number of things, in words. -/
def Status.count (n : Nat) (noun : String) : String :=
  toString n ++ " " ++ noun ++ if n = 1 then "" else "s"

/-- Whether messages are coloured: not with `NO_COLOR`, else with `FORCE_COLOR`, else
as the terminal is able to. -/
def Status.colored (env : List (String × String)) (terminal : Bool) : Bool :=
  if (env.lookup "NO_COLOR").isSome then false
  else (env.lookup "FORCE_COLOR").isSome || terminal

end Gloss
