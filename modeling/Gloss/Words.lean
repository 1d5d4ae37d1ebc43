import Gloss.Text.Blank
import Gloss.Text.Lowercase
import Gloss.Text.Uppercase

/-!
# Words of an identifier

An identifier is split before each of its upper-case characters. The pieces are
its words once they are put into lower case.
-/

namespace Gloss.Words

open Gloss.Text

/-- The pieces of an identifier: a new one starts at each upper-case character. -/
def fragments : List Char → List (List Char)
  | [] => []
  | [c] => [[c]]
  | c :: d :: cs =>
    if isUppercase d then [c] :: fragments (d :: cs)
    else addToFirst c (fragments (d :: cs))

/-- The pieces of an identifier. -/
def split (identifier : String) : List String :=
  (fragments identifier.toList).map String.ofList

/-- The lower-case form of a piece. -/
def lower (fragment : String) : String :=
  String.ofList (lowercase fragment.toList)

/-- All pieces in lower case. -/
def lowerAll (pieces : List String) : List String :=
  pieces.map lower

/-- All pieces but the first in lower case. -/
def lowerTail : List String → List String
  | [] => []
  | first :: rest => first :: lowerAll rest

/-- The words of an identifier. -/
def ofIdentifier (identifier : String) : List String :=
  lowerAll (split identifier)

theorem flatten_addToFirst (c : Char) (pieces : List (List Char)) :
    (addToFirst c pieces).flatten = c :: pieces.flatten := by
  cases pieces <;> simp [addToFirst]

/-- Splitting loses no character. -/
theorem flatten_fragments (cs : List Char) : (fragments cs).flatten = cs := by
  fun_induction fragments cs with
  | case1 => rfl
  | case2 => rfl
  | case3 c d cs _ ih => simp [ih]
  | case4 c d cs _ ih => rw [flatten_addToFirst, ih]

end Gloss.Words
