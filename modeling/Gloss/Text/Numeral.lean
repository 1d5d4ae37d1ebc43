/-!
# Numerals

Whole numbers as they are written in settings and addresses: decimal digits with
at most one plus sign in front.
-/

namespace Gloss.Text

/-- The value of decimal digits behind those that gave `value`; none if some
character is no digit. -/
def digitsValue (value : Nat) : List Char → Option Nat
  | [] => some value
  | c :: cs => if c.isDigit then digitsValue (10 * value + (c.toNat - 48)) cs else none

/-- The number below `bound` that a text writes. -/
def readNumeral (bound : Nat) (cs : List Char) : Option Nat :=
  let digits := match cs with
    | '+' :: rest => rest
    | _ => cs
  if digits.isEmpty then none
  else (digitsValue 0 digits).filter fun n => decide (n < bound)

end Gloss.Text
