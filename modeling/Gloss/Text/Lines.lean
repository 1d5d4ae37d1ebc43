import Gloss.Text.Blank

/-!
# Lines of a text

A line ends at a line feed; one carriage return right before it belongs to the
break. The end of the text ends a last line only if that line has characters, so
a text that ends in a line feed has no empty last line.
-/

namespace Gloss.Text

/-- The lines of a text, without their breaks. -/
def lines : List Char → List (List Char)
  | [] => []
  | '\r' :: '\n' :: cs => [] :: lines cs
  | '\n' :: cs => [] :: lines cs
  | c :: cs => addToFirst c (lines cs)

/-- The lines put together with line feeds between them. -/
def joinLines (ls : List (List Char)) : List Char :=
  List.intercalate ['\n'] ls

/-- The lines of a string. -/
def linesOf (s : String) : List String :=
  (lines s.toList).map String.ofList

end Gloss.Text
