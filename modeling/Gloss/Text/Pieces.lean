import Gloss.Text.Blank

/-!
# Pieces of a text

A text cut at every occurrence of a character. `join_pieces` says that nothing but
the cuts is lost.
-/

namespace Gloss.Text

/-- What stands between the occurrences of a character. -/
def pieces (mark : Char) : List Char → List (List Char)
  | [] => [[]]
  | c :: cs => if c = mark then [] :: pieces mark cs else addToFirst c (pieces mark cs)

/-- The pieces of a string. -/
def piecesOf (mark : Char) (s : String) : List String :=
  (pieces mark s.toList).map String.ofList

theorem pieces_ne_nil (mark : Char) (cs : List Char) : pieces mark cs ≠ [] := by
  cases cs with
  | nil => simp [pieces]
  | cons c cs =>
    rw [pieces]
    split
    · simp
    · cases pieces mark cs <;> simp [addToFirst]

theorem join_pieces (mark : Char) (cs : List Char) :
    List.intercalate [mark] (pieces mark cs) = cs := by
  induction cs with
  | nil => simp [pieces]
  | cons c cs ih =>
    rw [pieces]
    have hne := pieces_ne_nil mark cs
    generalize pieces mark cs = ps at ih hne
    cases ps with
    | nil => exact absurd rfl hne
    | cons p ps =>
      split
      · rename_i hc
        rw [← ih, hc]
        simp [List.intercalate]
      · rw [← ih]
        cases ps <;> simp [addToFirst, List.intercalate]

end Gloss.Text
