/-!
# Blank characters and trimming

`isBlank` is the Unicode property White_Space. Trimming removes blanks at an
end of a text (`trimStart`, `trimEnd`, `trim`), `squeeze` brings each inner run
down to one space.
-/

namespace Gloss.Text

/-- Whether a character is blank: the Unicode property White_Space. -/
def isBlank (c : Char) : Bool :=
  let n := c.toNat
  (decide (0x09 ≤ n) && decide (n ≤ 0x0d)) || n == 0x20 || n == 0x85 || n == 0xa0 ||
    n == 0x1680 || (decide (0x2000 ≤ n) && decide (n ≤ 0x200a)) || n == 0x2028 ||
    n == 0x2029 || n == 0x202f || n == 0x205f || n == 0x3000

/-- The text without the blanks at its start. -/
def trimStart (cs : List Char) : List Char :=
  cs.dropWhile isBlank

/-- The list without the longest end whose members all satisfy `p`. -/
def dropEndWhile {α : Type} (p : α → Bool) : List α → List α
  | [] => []
  | c :: cs =>
    match dropEndWhile p cs with
    | [] => if p c then [] else [c]
    | d :: ds => c :: d :: ds

/-- The text without the blanks at its end. -/
def trimEnd (cs : List Char) : List Char :=
  dropEndWhile isBlank cs

/-- The text without the blanks at both ends. -/
def trim (cs : List Char) : List Char :=
  trimEnd (trimStart cs)

/-- Whether a text has no character but blanks. -/
def isBlankText (cs : List Char) : Bool :=
  cs.all isBlank

/-- Puts a character in front of the first piece, or starts a piece with it. -/
def addToFirst (c : Char) : List (List Char) → List (List Char)
  | [] => [[c]]
  | piece :: pieces => (c :: piece) :: pieces

/-- The maximal runs of characters that are not blank. -/
def blankWords : List Char → List (List Char)
  | [] => []
  | [c] => if isBlank c then [] else [[c]]
  | c :: d :: cs =>
    if isBlank c then blankWords (d :: cs)
    else if isBlank d then [c] :: blankWords (d :: cs)
    else addToFirst c (blankWords (d :: cs))

/-- The text with every run of blanks brought down to one space, and none at the
ends. -/
def squeeze (cs : List Char) : List Char :=
  List.intercalate [' '] (blankWords cs)

theorem length_dropEndWhile_le {α : Type} (p : α → Bool) (cs : List α) :
    (dropEndWhile p cs).length ≤ cs.length := by
  induction cs with
  | nil => simp [dropEndWhile]
  | cons c cs ih =>
    rw [dropEndWhile]
    split
    · split <;> simp
    · rename_i h
      rw [h] at ih
      simpa using ih

theorem length_trimStart_le (cs : List Char) : (trimStart cs).length ≤ cs.length :=
  (List.dropWhile_sublist isBlank).length_le

end Gloss.Text
