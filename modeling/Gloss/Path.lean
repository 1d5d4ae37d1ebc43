import Gloss.Text.Pieces

/-!
# Paths

Paths as they are written, with the components that order and compare them: a
repeated or trailing slash and an inner `.` do not count, a leading `.` does.
-/

namespace Gloss.Path

open Gloss.Text

/-- A component of a path. -/
inductive Component where
  | root
  /-- A `.` in front. -/
  | current
  | parent
  | normal (name : String)
  deriving DecidableEq, Repr

/-- Whether a path starts at the root. -/
def isAbsolute (path : String) : Bool :=
  path.toList.head? == some '/'

/-- The component that a name stands for, unless it stands for none. -/
def Component.ofName? (name : String) : Option Component :=
  if name.isEmpty || name == "." then none
  else if name == ".." then some parent
  else some (normal name)

/-- The components of a path. -/
def components (path : String) : List Component :=
  let names := piecesOf '/' path
  let front := if isAbsolute path then [Component.root]
    else if names.head? == some "." then [.current]
    else []
  front ++ names.filterMap Component.ofName?

/-- The place of a component's kind in the order. -/
def Component.rank : Component → Nat
  | root => 0
  | current => 1
  | parent => 2
  | normal _ => 3

/-- Whether a component comes before another. -/
def Component.before : Component → Component → Bool
  | normal a, normal b => decide (a < b)
  | a, b => decide (a.rank < b.rank)

/-- Whether components come before others or are the same. -/
def notAfter : List Component → List Component → Bool
  | [], _ => true
  | _ :: _, [] => false
  | a :: as, b :: bs => if a = b then notAfter as bs else a.before b

/-- The path of an entry below a directory. -/
def join (dir entry : String) : String :=
  if dir.toList.getLast? == some '/' then dir ++ entry else dir ++ "/" ++ entry

/-- A path seen from a directory; one that starts at the root stays as it is. -/
def within (dir path : String) : String :=
  if isAbsolute path then path else join dir path

/-- The extension of a file's name: what follows the last dot, if something stands
before that dot. -/
def extension? (name : String) : Option String :=
  match (pieces '.' name.toList).reverse with
  | last :: before :: more =>
    if before.isEmpty && more.isEmpty then none else some (String.ofList last)
  | _ => none

/-- The paths in order, of those with the same components only the first. -/
def sortUnique (paths : List String) : List String :=
  let sorted := paths.mergeSort fun a b => notAfter (components a) (components b)
  sorted.foldr (fun path rest => path :: rest.dropWhile fun other =>
    components other = components path) []

end Gloss.Path
