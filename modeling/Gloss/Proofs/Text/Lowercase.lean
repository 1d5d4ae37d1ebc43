import Gloss.Text.Lowercase

/-!
# Lower-case forms

`lowerChar_cases` says once what the lower-case form of a character can be. A text in
ASCII is mapped character by character (`lowercase_of_ascii`); in any text the last
character decides how the lower-case form ends (`lowercaseFrom_concat`), though that may be
longer than the text.
-/

namespace Gloss.Text

/-- A fact on all characters below a bound, from the fact on their codes. -/
theorem forall_char_lt {P : Char → Prop} {bound : Nat} (h : ∀ n, n < bound → P (Char.ofNat n))
    {c : Char} (hc : c.toNat < bound) : P c := by
  have := h c.toNat hc
  rwa [Char.ofNat_toNat] at this

/-! ## One character -/

theorem lowerChar_of_ascii {c : Char} (hc : c.toNat < 0x80) : lowerChar c = [c.toLower] :=
  if_pos hc

/-- A character is mapped as ASCII, or to two characters, or along a run, or to itself. -/
theorem lowerChar_cases (c : Char) :
    c.toNat < 0x80 ∧ lowerChar c = [c.toLower] ∨ lowerChar c = ['i', '\u0307'] ∨
      (∃ run ∈ lowerRuns, ∃ k, k < run.source.last + 1 - run.source.first ∧
        lowerChar c = [Char.ofNat (k + run.image)]) ∨
      lowerChar c = [c] := by
  by_cases hc : c.toNat < 0x80
  · exact .inl ⟨hc, lowerChar_of_ascii hc⟩
  rw [lowerChar, if_neg hc]
  split
  · exact .inr (.inl rfl)
  split
  · rename_i run hrun
    have hcontains := List.find?_some hrun
    simp only [CodeRun.contains, Bool.and_eq_true, decide_eq_true_eq] at hcontains
    exact .inr (.inr (.inl ⟨run, List.mem_of_find?_eq_some hrun, _, by omega, rfl⟩))
  · exact .inr (.inr (.inr rfl))

theorem lowerChar_ne_nil (c : Char) : lowerChar c ≠ [] := by
  rcases lowerChar_cases c with ⟨-, h⟩ | h | ⟨run, -, k, -, h⟩ | h <;> simp [h]

/-! ## ASCII -/

theorem toLower_lt {c : Char} (hc : c.toNat < 0x80) : c.toLower.toNat < 0x80 :=
  forall_char_lt (P := fun c => c.toLower.toNat < 0x80) (by decide +kernel) hc

theorem toLower_eq_self {c : Char} (hc : ¬ c.toNat < 0x80) : c.toLower = c := by
  have hupper : ¬ (c.val ≥ 'A'.val ∧ c.val ≤ 'Z'.val) := by
    rintro ⟨-, hle⟩
    have : c.toNat ≤ 90 := hle
    omega
  exact dif_neg hupper

theorem toLower_toLower (c : Char) : c.toLower.toLower = c.toLower := by
  by_cases hc : c.toNat < 0x80
  · exact forall_char_lt (P := fun c => c.toLower.toLower = c.toLower) (by decide +kernel) hc
  · rw [toLower_eq_self hc, toLower_eq_self hc]

theorem toUpper_toLower (c : Char) : c.toLower.toUpper = c.toUpper := by
  by_cases hc : c.toNat < 0x80
  · exact forall_char_lt (P := fun c => c.toLower.toUpper = c.toUpper) (by decide +kernel) hc
  · rw [toLower_eq_self hc]

theorem lowercase_of_ascii {cs : List Char} (h : ∀ c ∈ cs, c.toNat < 0x80) :
    lowercase cs = cs.map Char.toLower := by
  unfold lowercase
  generalize ([] : List Char) = before
  induction cs generalizing before with
  | nil => rfl
  | cons c cs ih =>
    obtain ⟨hc, hcs⟩ := List.forall_mem_cons.1 h
    have hsigma : c ≠ 'Σ' := by
      rintro rfl
      exact absurd hc (by decide)
    rw [lowercaseFrom, if_neg hsigma, lowerChar_of_ascii hc, ih hcs, List.map_cons]
    rfl

/-! ## The end of a text -/

/-- A lower-case form ends in that of the last character; only for a sigma does it
depend on the characters before. -/
theorem lowercaseFrom_concat (before cs : List Char) (last : Char) :
    ∃ front form, lowercaseFrom before (cs ++ [last]) = front ++ form ∧
      (form = lowerChar last ∨ form = ['ς'] ∨ form = ['σ']) := by
  induction cs generalizing before with
  | nil =>
    rw [List.nil_append, lowercaseFrom, lowercaseFrom, List.append_nil]
    split
    · cases endsWord before [] with
      | true => exact ⟨[], ['ς'], rfl, by simp⟩
      | false => exact ⟨[], ['σ'], rfl, by simp⟩
    · exact ⟨[], lowerChar last, rfl, .inl rfl⟩
  | cons c cs ih =>
    obtain ⟨front, form, hlower, hform⟩ := ih (c :: before)
    rw [List.cons_append, lowercaseFrom, hlower, ← List.append_assoc]
    exact ⟨_, form, rfl, hform⟩

end Gloss.Text
