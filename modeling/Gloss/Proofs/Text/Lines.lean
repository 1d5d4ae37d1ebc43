import Gloss.Proofs.Text.Blank
import Gloss.Text.Lines

/-!
# Lines and the texts they make

`lines` takes apart what `joinLines` has put together, as long as no line holds a
line feed or ends in a carriage return (`IsLine`) and the last is not empty:
`lines_joinLines`. In the other direction a text may hold carriage returns before
line feeds, which are lost. A text none of whose lines ends in a blank (`Tidy`)
is the join of its lines: `Tidy.joinLines_lines`.
-/

namespace Gloss.Text

/-! ## Joining -/

@[simp] theorem joinLines_nil : joinLines [] = [] := rfl

@[simp] theorem joinLines_singleton (l : List Char) : joinLines [l] = l := by
  simp [joinLines, List.intercalate]

theorem joinLines_cons_of_ne_nil (l : List Char) {ls : List (List Char)} (h : ls ≠ []) :
    joinLines (l :: ls) = l ++ '\n' :: joinLines ls := by
  cases ls with
  | nil => exact absurd rfl h
  | cons l' ls => simp [joinLines, List.intercalate, List.intersperse]

theorem joinLines_cons (l : List Char) (ls : List (List Char)) :
    joinLines (l :: ls) = l ++ ls.flatMap ('\n' :: ·) := by
  induction ls generalizing l with
  | nil => simp
  | cons l' ls ih =>
    rw [joinLines_cons_of_ne_nil l (by simp), ih]
    simp

theorem joinLines_append {as bs : List (List Char)} (ha : as ≠ []) (hb : bs ≠ []) :
    joinLines (as ++ bs) = joinLines as ++ '\n' :: joinLines bs := by
  induction as with
  | nil => exact absurd rfl ha
  | cons a as ih =>
    cases has : as with
    | nil => simp [joinLines_cons_of_ne_nil a hb]
    | cons a' as' =>
      rw [← has, List.cons_append, joinLines_cons_of_ne_nil a (by simp [has]),
        joinLines_cons_of_ne_nil a (by simp [has]), ih (by simp [has])]
      simp

/-- Lines between a first and a last one. -/
theorem joinLines_between (first last : List Char) (ls : List (List Char)) :
    joinLines (first :: (ls ++ [last])) = first ++ '\n' :: (ls.flatMap (· ++ ['\n']) ++ last) := by
  rw [joinLines_cons_of_ne_nil first (by simp)]
  induction ls with
  | nil => simp
  | cons l ls ih =>
    rw [List.cons_append, joinLines_cons_of_ne_nil l (by simp)]
    simpa using ih

theorem flatMap_lines {ls : List (List Char)} (h : ls ≠ []) :
    ls.flatMap (· ++ ['\n']) = joinLines ls ++ ['\n'] := by
  induction ls with
  | nil => exact absurd rfl h
  | cons l ls ih =>
    cases hls : ls with
    | nil => simp
    | cons l' ls' =>
      have hne : ls ≠ [] := by simp [hls]
      rw [← hls, List.flatMap_cons, ih hne, joinLines_cons_of_ne_nil l hne]
      simp

/-! ## Taking apart -/

/-- A text that can stand as a line in front of a line feed. -/
def IsLine (l : List Char) : Prop :=
  '\n' ∉ l ∧ l.getLast? ≠ some '\r'

theorem lines_cons_of_ne {c : Char} {cs : List Char} (hc : c ≠ '\n')
    (hr : c = '\r' → cs.head? ≠ some '\n') : lines (c :: cs) = addToFirst c (lines cs) := by
  rw [lines]
  · rintro cs' rfl rfl
    exact hr rfl rfl
  · exact hc

theorem IsLine.tail {c : Char} {l : List Char} (h : IsLine (c :: l)) : IsLine l := by
  refine ⟨fun hm => h.1 (List.mem_cons_of_mem c hm), fun hl => h.2 ?_⟩
  rw [List.getLast?_cons, hl]
  rfl

/-- A line in front of a line feed. -/
theorem lines_append_newline {l : List Char} (h : IsLine l) (cs : List Char) :
    lines (l ++ '\n' :: cs) = l :: lines cs := by
  induction l with
  | nil => rfl
  | cons c l ih =>
    have hc : c ≠ '\n' := fun hc => h.1 (by simp [hc])
    rw [List.cons_append, lines_cons_of_ne hc, ih h.tail]
    · rfl
    · rintro rfl
      cases l with
      | nil => exact absurd rfl h.2
      | cons d l =>
        have hd : d ≠ '\n' := fun hd => h.1 (by simp [hd])
        simpa using hd

theorem lines_of_not_mem {l : List Char} (h : '\n' ∉ l) (hne : l ≠ []) : lines l = [l] := by
  induction l with
  | nil => exact absurd rfl hne
  | cons c l ih =>
    have hl : '\n' ∉ l := fun hm => h (List.mem_cons_of_mem c hm)
    rw [lines_cons_of_ne fun hc => h (by simp [hc])]
    · cases l with
      | nil => rfl
      | cons d l => rw [ih hl (by simp)]; rfl
    · rintro - hd
      exact hl (List.mem_of_head? hd)

/-- Lines that were joined are found again. -/
theorem lines_joinLines {ls : List (List Char)} (h : ∀ l ∈ ls, IsLine l)
    (hlast : ls.getLast? ≠ some []) : lines (joinLines ls) = ls := by
  induction ls with
  | nil => rfl
  | cons l ls ih =>
    have hl := h l (by simp)
    cases hls : ls with
    | nil =>
      rw [hls] at hlast
      rw [joinLines_singleton, lines_of_not_mem hl.1 (by simpa using hlast)]
    | cons l' ls' =>
      rw [← hls, joinLines_cons_of_ne_nil l (by simp [hls]), lines_append_newline hl,
        ih fun x hx => h x (List.mem_cons_of_mem l hx)]
      intro hl'
      rw [List.getLast?_cons, hl'] at hlast
      exact hlast rfl

theorem lines_flatMap {ls : List (List Char)} (h : ∀ l ∈ ls, IsLine l) :
    lines (ls.flatMap (· ++ ['\n'])) = ls := by
  induction ls with
  | nil => rfl
  | cons l ls ih =>
    rw [List.flatMap_cons, List.append_assoc, List.singleton_append,
      lines_append_newline (h l (by simp)), ih fun x hx => h x (List.mem_cons_of_mem l hx)]

theorem not_mem_of_mem_lines {cs l : List Char} (h : l ∈ lines cs) : '\n' ∉ l := by
  fun_induction lines cs generalizing l with
  | case1 => cases h
  | case2 cs ih =>
    rcases List.mem_cons.1 h with rfl | h
    · simp
    · exact ih h
  | case3 cs ih =>
    rcases List.mem_cons.1 h with rfl | h
    · simp
    · exact ih h
  | case4 c cs _ hc ih =>
    cases hls : lines cs with
    | nil =>
      rw [hls, addToFirst, List.mem_singleton] at h
      rw [h]
      simpa using fun heq : '\n' = c => hc heq.symm
    | cons l' ls =>
      rw [hls] at ih h
      rcases List.mem_cons.1 h with rfl | h
      · have := ih (List.mem_cons_self (a := l') (l := ls))
        simpa [this] using fun heq : '\n' = c => hc heq.symm
      · exact ih (List.mem_cons_of_mem l' h)

theorem isLine_of_trimEnd {l : List Char} (hn : '\n' ∉ l) (h : trimEnd l = l) : IsLine l :=
  ⟨hn, fun hl => absurd (trimEnd_eq_self_iff.1 h _ hl) (by decide)⟩

/-! ## Texts without blanks at the ends of lines -/

/-- No line of the text ends in a blank, the last one excepted. -/
def Tidy (cs : List Char) : Prop :=
  ∀ u c v, cs = u ++ c :: '\n' :: v → isBlank c = true → c = '\n'

theorem Tidy.of_part {a b : List Char} (hb : Tidy b) (h : a <:+: b) : Tidy a := by
  rintro u c v rfl
  obtain ⟨x, y, h⟩ := h
  exact hb (x ++ u) c (v ++ y) (by rw [← h]; simp)

theorem tidy_of_not_mem {cs : List Char} (h : '\n' ∉ cs) : Tidy cs := by
  rintro u c v rfl
  exact absurd (by simp) h

/-- Two texts with a border at which no line ends in a blank. -/
theorem Tidy.append {a b : List Char} (ha : Tidy a) (hb : Tidy b)
    (hborder : b.head? = some '\n' → ∀ c ∈ a.getLast?, isBlank c = true → c = '\n') :
    Tidy (a ++ b) := by
  intro u c v h
  rcases List.append_eq_append_iff.1 h with ⟨w, rfl, hw⟩ | ⟨w, rfl, hw⟩
  · exact hb w c v hw
  · cases w with
    | nil => exact hb [] c v (by simpa using hw.symm)
    | cons d w =>
      simp only [List.cons_append, List.cons.injEq] at hw
      obtain ⟨rfl, hw⟩ := hw
      cases w with
      | nil => exact hborder (by rw [← List.nil_append b, ← hw]; rfl) c (by simp)
      | cons e w =>
        simp only [List.cons_append, List.cons.injEq] at hw
        obtain ⟨rfl, rfl⟩ := hw
        exact ha u c w rfl

theorem Tidy.append_of_trimEnd {a b : List Char} (ha : Tidy a) (hb : Tidy b)
    (h : trimEnd a = a) : Tidy (a ++ b) := by
  refine ha.append hb fun _ c hc hblank => ?_
  rw [trimEnd_eq_self_iff.1 h c hc] at hblank
  cases hblank

theorem Tidy.newline_cons {cs : List Char} (h : Tidy cs) : Tidy ('\n' :: cs) := by
  intro u c v heq
  cases u with
  | nil =>
    simp only [List.nil_append, List.cons.injEq] at heq
    exact fun _ => heq.1.symm
  | cons d u =>
    simp only [List.cons_append, List.cons.injEq] at heq
    exact h u c v heq.2

theorem tidy_joinLines {ls : List (List Char)} (h : ∀ l ∈ ls, Tidy l ∧ trimEnd l = l) :
    Tidy (joinLines ls) := by
  induction ls with
  | nil => exact tidy_of_not_mem (by simp)
  | cons l ls ih =>
    obtain ⟨hl, hend⟩ := h l (by simp)
    cases hls : ls with
    | nil => simpa using hl
    | cons l' ls' =>
      rw [← hls, joinLines_cons_of_ne_nil l (by simp [hls])]
      exact hl.append_of_trimEnd (ih fun x hx => h x (List.mem_cons_of_mem l hx)).newline_cons hend

theorem lines_ne_nil {cs : List Char} (h : cs ≠ []) : lines cs ≠ [] := by
  fun_cases lines cs with
  | case1 => exact absurd rfl h
  | case2 | case3 => simp
  | case4 c cs => cases lines cs <;> simp [addToFirst]

theorem trimEnd_of_append {a b : List Char} (h : trimEnd (a ++ b) = a ++ b) :
    trimEnd b = b := by
  rw [trimEnd_eq_self_iff] at h ⊢
  intro c hc
  refine h c ?_
  rw [List.getLast?_append, hc]
  rfl

/-- A tidy text that does not end in a blank is the join of its lines, and none
of them ends in a blank. -/
theorem Tidy.joinLines_lines {cs : List Char} (h : Tidy cs) (hend : trimEnd cs = cs) :
    joinLines (lines cs) = cs ∧ ∀ l ∈ lines cs, trimEnd l = l := by
  induction hn : cs.length using Nat.strongRecOn generalizing cs with
  | ind n ih =>
  by_cases hm : '\n' ∈ cs
  · obtain ⟨l, rest, rfl, hl⟩ := List.eq_append_cons_of_mem hm
    have hlend : trimEnd l = l := by
      refine trimEnd_eq_self_iff.2 fun c hc => ?_
      obtain ⟨init, rfl⟩ := List.getLast?_eq_some_iff.1 hc
      cases hb : isBlank c with
      | false => rfl
      | true => exact absurd (by simp [h init c rest (by simp) hb]) hl
    have hrest : rest ≠ [] := by
      rintro rfl
      exact absurd (trimEnd_eq_self_iff.1 hend '\n' (by simp)) (by decide)
    have hsuffix : rest <:+: l ++ '\n' :: rest := ⟨l ++ ['\n'], [], by simp⟩
    have hrend : trimEnd rest = rest := by
      have : l ++ '\n' :: rest = (l ++ ['\n']) ++ rest := by simp
      exact trimEnd_of_append (this ▸ hend)
    obtain ⟨hjoin, hlines⟩ :=
      ih rest.length (by simp [← hn]; omega) (h.of_part hsuffix) hrend rfl
    rw [lines_append_newline (isLine_of_trimEnd hl hlend)]
    refine ⟨by rw [joinLines_cons_of_ne_nil l (lines_ne_nil hrest), hjoin], fun x hx => ?_⟩
    rcases List.mem_cons.1 hx with rfl | hx
    · exact hlend
    · exact hlines x hx
  · cases cs with
    | nil => exact ⟨rfl, fun l hl => by cases hl⟩
    | cons c cs =>
      rw [lines_of_not_mem hm (by simp)]
      exact ⟨joinLines_singleton _, fun l hl => by rw [List.mem_singleton.1 hl, hend]⟩

end Gloss.Text
