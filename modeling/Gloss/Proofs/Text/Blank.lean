import Gloss.Text.Blank

/-!
# Trimming

Trimming takes a text apart into blanks and the rest (`trimStart_split`,
`trimEnd_split`), and blanks put at an end are trimmed again
(`trimStart_append_of_blank`, `trimEnd_append_of_blank`).
-/

namespace Gloss.Text

theorem isBlankText_append (a b : List Char) :
    isBlankText (a ++ b) = (isBlankText a && isBlankText b) := by
  simp [isBlankText]

theorem isBlankText_iff {cs : List Char} : isBlankText cs = true ↔ ∀ c ∈ cs, isBlank c = true := by
  simp [isBlankText]

theorem isBlankText_of_subset {a b : List Char} (h : a ⊆ b) (hb : isBlankText b = true) :
    isBlankText a = true :=
  isBlankText_iff.2 fun c hc => isBlankText_iff.1 hb c (h hc)

/-! ## Trimming at the start -/

/-- A test that can be run: none of some characters is a blank. -/
theorem not_blank_of_any {cs : List Char} (h : cs.any isBlank = false) :
    ∀ c ∈ cs, isBlank c = false := by
  simpa using h

theorem trimStart_append_of_blank {pre : List Char} (h : isBlankText pre = true) (cs : List Char) :
    trimStart (pre ++ cs) = trimStart cs :=
  List.dropWhile_append_of_pos (isBlankText_iff.1 h)

theorem trimStart_cons_of_not_blank {c : Char} (h : isBlank c = false) (cs : List Char) :
    trimStart (c :: cs) = c :: cs := by
  simp [trimStart, h]

theorem trimStart_split (cs : List Char) :
    ∃ pre, cs = pre ++ trimStart cs ∧ isBlankText pre = true := by
  refine ⟨cs.takeWhile isBlank, (List.takeWhile_append_dropWhile).symm, ?_⟩
  exact List.all_takeWhile

theorem trimStart_eq_nil_iff {cs : List Char} : trimStart cs = [] ↔ isBlankText cs = true := by
  constructor
  · intro h
    obtain ⟨pre, hpre, hblank⟩ := trimStart_split cs
    rw [h, List.append_nil] at hpre
    exact hpre ▸ hblank
  · intro h
    simpa [trimStart] using trimStart_append_of_blank h []

theorem isBlank_of_trimStart {c : Char} {cs more : List Char} (h : trimStart cs = c :: more) :
    isBlank c = false := by
  have hne : cs.dropWhile isBlank ≠ [] := by
    rw [trimStart] at h
    simp [h]
  have := List.head_dropWhile_not isBlank hne
  simpa only [show cs.dropWhile isBlank = c :: more from h, List.head_cons] using this

/-! ## Trimming at the end -/

theorem dropEndWhile_eq {α : Type} (p : α → Bool) (cs : List α) :
    dropEndWhile p cs = (cs.reverse.dropWhile p).reverse := by
  induction cs with
  | nil => rfl
  | cons c cs ih =>
    rw [dropEndWhile, ih, List.reverse_cons, List.dropWhile_append]
    cases hd : cs.reverse.dropWhile p with
    | nil => by_cases hp : p c <;> simp [hp]
    | cons d ds =>
      cases hr : (d :: ds).reverse with
      | nil => simp at hr
      | cons e es => simpa using hr.symm

theorem trimEnd_append_of_blank {post : List Char} (cs : List Char) (h : isBlankText post = true) :
    trimEnd (cs ++ post) = trimEnd cs := by
  simp only [trimEnd, dropEndWhile_eq, List.reverse_append]
  rw [List.dropWhile_append_of_pos fun c hc => isBlankText_iff.1 h c (List.mem_reverse.1 hc)]

theorem trimEnd_concat_of_not_blank {c : Char} (cs : List Char) (h : isBlank c = false) :
    trimEnd (cs ++ [c]) = cs ++ [c] := by
  simp [trimEnd, dropEndWhile_eq, h]

theorem takeWhile_append_of_head? {p : Char → Bool} {text rest : List Char}
    (htext : ∀ c ∈ text, p c = true) (hrest : ∀ c, rest.head? = some c → p c = false) :
    (text ++ rest).takeWhile p = text := by
  rw [List.takeWhile_append_of_pos htext]
  cases rest with
  | nil => simp
  | cons c rest => rw [List.takeWhile_cons_of_neg (by simp [hrest c rfl]), List.append_nil]

theorem head?_dropWhile_eq_false {α : Type} {p : α → Bool} {cs : List α} {c : α}
    (h : (cs.dropWhile p).head? = some c) : p c = false := by
  have hnot := List.head?_dropWhile_not p cs
  rw [h] at hnot
  simpa using hnot

theorem getLast?_dropEndWhile {α : Type} {p : α → Bool} {cs : List α} {c : α}
    (h : (dropEndWhile p cs).getLast? = some c) : p c = false := by
  rw [dropEndWhile_eq, List.getLast?_reverse] at h
  exact head?_dropWhile_eq_false h

theorem dropEndWhile_append {α : Type} {p : α → Bool} {text rest : List α}
    (hlast : ∀ c, text.getLast? = some c → p c = false) (hrest : ∀ c ∈ rest, p c = true) :
    dropEndWhile p (text ++ rest) = text := by
  rw [dropEndWhile_eq, List.reverse_append,
    List.dropWhile_append_of_pos fun c hc => hrest c (List.mem_reverse.1 hc)]
  cases hrev : text.reverse with
  | nil => simp [List.reverse_eq_nil_iff.1 hrev]
  | cons c cs =>
    have hc : text.getLast? = some c := by rw [← List.head?_reverse, hrev]; rfl
    rw [List.dropWhile_cons_of_neg (by simp [hlast c hc]), ← hrev, List.reverse_reverse]

theorem dropEndWhile_split {α : Type} (p : α → Bool) (cs : List α) :
    ∃ post, cs = dropEndWhile p cs ++ post ∧ post.all p = true := by
  refine ⟨(cs.reverse.takeWhile p).reverse, ?_, by simp [List.all_takeWhile]⟩
  rw [dropEndWhile_eq, ← List.reverse_append, List.takeWhile_append_dropWhile, List.reverse_reverse]

theorem trimEnd_split (cs : List Char) :
    ∃ post, cs = trimEnd cs ++ post ∧ isBlankText post = true :=
  dropEndWhile_split isBlank cs

theorem trimEnd_eq_nil_iff {cs : List Char} : trimEnd cs = [] ↔ isBlankText cs = true := by
  rw [trimEnd, dropEndWhile_eq, List.reverse_eq_nil_iff]
  have hreverse : isBlankText cs.reverse = isBlankText cs := by simp [isBlankText]
  rw [← hreverse]
  exact trimStart_eq_nil_iff

theorem trimEnd_trimEnd (cs : List Char) : trimEnd (trimEnd cs) = trimEnd cs := by
  obtain ⟨post, hcs, hpost⟩ := trimEnd_split cs
  have := trimEnd_append_of_blank (trimEnd cs) hpost
  rw [← hcs] at this
  exact this.symm

/-- A text is its own trimming at the end if it does not end in a blank. -/
theorem trimEnd_eq_self_iff {cs : List Char} :
    trimEnd cs = cs ↔ ∀ c, cs.getLast? = some c → isBlank c = false := by
  rcases List.eq_nil_or_concat cs with rfl | ⟨init, c, rfl⟩
  · simp [trimEnd, dropEndWhile]
  · simp only [List.concat_eq_append, List.getLast?_concat, Option.some.injEq, forall_eq']
    constructor
    · intro h
      cases hc : isBlank c with
      | false => rfl
      | true =>
        rw [trimEnd_append_of_blank init (by simp [isBlankText, hc])] at h
        have := congrArg List.length h
        have := length_dropEndWhile_le isBlank init
        simp only [trimEnd, List.length_append, List.length_singleton] at *
        omega
    · exact trimEnd_concat_of_not_blank init

/-! ## Trimming at both ends -/

theorem trim_append_of_blank {pre post : List Char} (hpre : isBlankText pre = true)
    (cs : List Char) (hpost : isBlankText post = true) : trim (pre ++ cs ++ post) = trim cs := by
  rw [trim, List.append_assoc, trimStart_append_of_blank hpre, trim]
  cases hc : trimStart cs with
  | nil =>
    rw [trimStart_append_of_blank (trimStart_eq_nil_iff.1 hc), trimStart_eq_nil_iff.2 hpost]
  | cons c more =>
    have : trimStart (cs ++ post) = trimStart cs ++ post := by
      simp only [trimStart] at hc ⊢
      simp [List.dropWhile_append, hc]
    rw [this, hc, trimEnd_append_of_blank _ hpost]

theorem trim_split (cs : List Char) :
    ∃ pre post, cs = pre ++ trim cs ++ post ∧ isBlankText pre = true ∧ isBlankText post = true := by
  obtain ⟨pre, hpre, hblank⟩ := trimStart_split cs
  obtain ⟨post, hpost, hblank'⟩ := trimEnd_split (trimStart cs)
  refine ⟨pre, post, ?_, hblank, hblank'⟩
  rw [List.append_assoc, trim, ← hpost, ← hpre]

theorem not_mem_trim {c : Char} {cs : List Char} (h : c ∉ cs) : c ∉ trim cs := by
  obtain ⟨pre, post, hcs, -, -⟩ := trim_split cs
  intro hmem
  exact h (hcs ▸ List.mem_append_left _ (List.mem_append_right _ hmem))

/-- A text that starts and ends without a blank is its own trimming. -/
theorem trim_eq_self {c : Char} {more : List Char} (hc : isBlank c = false)
    (hend : trimEnd (c :: more) = c :: more) : trim (c :: more) = c :: more := by
  rw [trim, trimStart_cons_of_not_blank hc, hend]

theorem trim_eq_nil_iff {cs : List Char} : trim cs = [] ↔ isBlankText cs = true := by
  rw [trim, trimEnd_eq_nil_iff]
  constructor
  · intro h
    obtain ⟨pre, hpre, hblank⟩ := trimStart_split cs
    rw [hpre, isBlankText_append, hblank, h]
    rfl
  · exact isBlankText_of_subset (List.dropWhile_sublist _).subset

theorem trim_trim (cs : List Char) : trim (trim cs) = trim cs := by
  obtain ⟨pre, post, hcs, hpre, hpost⟩ := trim_split cs
  have := trim_append_of_blank hpre (trim cs) hpost
  rw [← hcs] at this
  exact this.symm

end Gloss.Text
