/-!
# Searching in a text

`breakOn` finds the leftmost occurrence of a pattern and gives what stands
before and after it. `breakOn_eq` says that nothing is lost.
-/

namespace Gloss.Text

/-- The text behind a given beginning, if it has that beginning. -/
def dropPrefix? : List Char → List Char → Option (List Char)
  | [], cs => some cs
  | _ :: _, [] => none
  | p :: ps, c :: cs => if p = c then dropPrefix? ps cs else none

/-- What stands before and after the leftmost occurrence of a pattern. -/
def breakOn (pattern : List Char) : List Char → Option (List Char × List Char)
  | [] => if pattern.isEmpty then some ([], []) else none
  | c :: cs =>
    match dropPrefix? pattern (c :: cs) with
    | some after => some ([], after)
    | none => (breakOn pattern cs).map fun (before, after) => (c :: before, after)

/-- Whether a pattern occurs in a text. -/
def occursIn (pattern cs : List Char) : Bool :=
  (breakOn pattern cs).isSome

/-- Whether a string occurs in another. -/
def occurs (pattern s : String) : Bool :=
  occursIn pattern.toList s.toList

theorem dropPrefix?_eq {p cs rest : List Char} (h : dropPrefix? p cs = some rest) :
    cs = p ++ rest := by
  induction p generalizing cs with
  | nil => simpa [dropPrefix?] using h
  | cons a p ih =>
    cases cs with
    | nil => simp [dropPrefix?] at h
    | cons c cs =>
      rw [dropPrefix?] at h
      split at h
      · rename_i hc
        rw [hc, ih h]
        rfl
      · cases h

theorem breakOn_eq {pattern cs before after : List Char}
    (h : breakOn pattern cs = some (before, after)) : cs = before ++ pattern ++ after := by
  induction cs generalizing before with
  | nil =>
    rw [breakOn] at h
    split at h
    · rename_i hp
      simp only [Option.some.injEq, Prod.mk.injEq] at h
      obtain ⟨rfl, rfl⟩ := h
      simpa using hp
    · cases h
  | cons c cs ih =>
    rw [breakOn] at h
    split at h
    · rename_i hp
      simp only [Option.some.injEq, Prod.mk.injEq] at h
      obtain ⟨rfl, rfl⟩ := h
      simpa using dropPrefix?_eq hp
    · obtain ⟨⟨b, a⟩, hb, heq⟩ := Option.map_eq_some_iff.1 h
      simp only [Prod.mk.injEq] at heq
      obtain ⟨rfl, rfl⟩ := heq
      simp [ih hb]

theorem length_after_breakOn {pattern cs before after : List Char}
    (h : breakOn pattern cs = some (before, after)) :
    before.length + pattern.length + after.length = cs.length := by
  simp [breakOn_eq h, Nat.add_assoc]

end Gloss.Text
