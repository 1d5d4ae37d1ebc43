/-!
# Byte offsets into a text

Positions in a text count the bytes of its UTF-8 form. `cut` splits a text at
such a position and refuses one that lies past the end or inside a character.
-/

namespace Gloss.Text

/-- How many bytes a text takes. -/
def byteLength : List Char → Nat
  | [] => 0
  | c :: cs => c.utf8Size + byteLength cs

/-- The text before and after a byte offset; none if the offset is no boundary
between characters. -/
def cut : Nat → List Char → Option (List Char × List Char)
  | 0, cs => some ([], cs)
  | _ + 1, [] => none
  | n + 1, c :: cs =>
    if c.utf8Size ≤ n + 1 then
      (cut (n + 1 - c.utf8Size) cs).map fun (before, after) => (c :: before, after)
    else none

/-- The text from one byte offset to another; none unless both are boundaries in
this order. -/
def slice (start stop : Nat) (cs : List Char) : Option (List Char) :=
  if start ≤ stop then
    (cut start cs).bind fun (_, rest) => (cut (stop - start) rest).map (·.1)
  else none

theorem cut_eq {n : Nat} {cs before after : List Char} (h : cut n cs = some (before, after)) :
    cs = before ++ after ∧ byteLength before = n := by
  induction cs generalizing n before with
  | nil =>
    cases n with
    | zero =>
      simp only [cut, Option.some.injEq, Prod.mk.injEq] at h
      simp [← h.1, ← h.2, byteLength]
    | succ n => simp [cut] at h
  | cons c cs ih =>
    cases n with
    | zero =>
      simp only [cut, Option.some.injEq, Prod.mk.injEq] at h
      simp [← h.1, ← h.2, byteLength]
    | succ n =>
      rw [cut] at h
      split at h
      · rename_i hc
        obtain ⟨⟨b, a⟩, hb, heq⟩ := Option.map_eq_some_iff.1 h
        simp only [Prod.mk.injEq] at heq
        obtain ⟨rfl, rfl⟩ := heq
        obtain ⟨rfl, hlen⟩ := ih hb
        refine ⟨rfl, ?_⟩
        rw [byteLength, hlen]
        omega
      · cases h

theorem cut_byteLength_append (before after : List Char) :
    cut (byteLength before) (before ++ after) = some (before, after) := by
  induction before with
  | nil => simp [byteLength, cut]
  | cons c cs ih =>
    have hpos : 0 < c.utf8Size := Char.utf8Size_pos c
    obtain ⟨n, hn⟩ : ∃ n, byteLength (c :: cs) = n + 1 :=
      ⟨byteLength (c :: cs) - 1, by simp [byteLength]; omega⟩
    have hlen : byteLength (c :: cs) = c.utf8Size + byteLength cs := by simp [byteLength]
    rw [hn, List.cons_append, cut, if_pos (by omega)]
    have : n + 1 - c.utf8Size = byteLength cs := by omega
    simp [this, ih]

end Gloss.Text
