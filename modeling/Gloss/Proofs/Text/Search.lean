import Gloss.Text.Search

/-!
# Leftmost search

`breakOn` stops at the first occurrence of a pattern, so its answer depends only
on the text through that occurrence:

* `breakOn_eq_none_iff`, `occursIn_iff`: when a pattern is found;
* `breakOn_length_le`: the occurrence found is the first;
* `breakOn_retail`: the text behind it may be replaced;
* `breakOn_of_absent`: a pattern whose first character does not come again in
  it is found where it is put, behind a text without it.
-/

namespace Gloss.Text

theorem dropPrefix?_append (p cs : List Char) : dropPrefix? p (p ++ cs) = some cs := by
  induction p with
  | nil => rfl
  | cons a p ih => simpa [dropPrefix?] using ih

theorem dropPrefix?_eq_none_iff {p cs : List Char} : dropPrefix? p cs = none ↔ ¬ p <+: cs := by
  constructor
  · rintro h ⟨rest, rfl⟩
    rw [dropPrefix?_append] at h
    cases h
  · intro h
    cases hd : dropPrefix? p cs with
    | none => rfl
    | some rest => exact absurd ⟨rest, (dropPrefix?_eq hd).symm⟩ h

theorem breakOn_cons_of_starts {p cs rest : List Char} {c : Char} (h : c :: cs = p ++ rest) :
    breakOn p (c :: cs) = some ([], rest) := by
  rw [breakOn, h, dropPrefix?_append]

theorem breakOn_cons_of_not_starts {p cs : List Char} {c : Char} (h : ¬ p <+: c :: cs) :
    breakOn p (c :: cs) = (breakOn p cs).map fun (before, after) => (c :: before, after) := by
  rw [breakOn, dropPrefix?_eq_none_iff.2 h]

theorem breakOn_eq_none_iff {p cs : List Char} : breakOn p cs = none ↔ ¬ p <:+: cs := by
  induction cs with
  | nil => cases p <;> simp [breakOn]
  | cons c cs ih =>
    rw [List.infix_cons_iff]
    by_cases hp : p <+: c :: cs
    · obtain ⟨rest, hrest⟩ := hp
      rw [breakOn_cons_of_starts hrest.symm]
      simp [← hrest]
    · simp [breakOn_cons_of_not_starts hp, ih, hp]

theorem breakOn_isSome_iff {p cs : List Char} : (breakOn p cs).isSome ↔ p <:+: cs := by
  rw [← Option.ne_none_iff_isSome, ne_eq, breakOn_eq_none_iff, Decidable.not_not]

theorem occursIn_iff {p cs : List Char} : occursIn p cs = true ↔ p <:+: cs :=
  breakOn_isSome_iff

theorem occursIn_eq_false_iff {p cs : List Char} : occursIn p cs = false ↔ ¬ p <:+: cs := by
  rw [← occursIn_iff, Bool.not_eq_true]

/-- The occurrence that is found is the first. -/
theorem breakOn_length_le {p cs before after : List Char}
    (h : breakOn p cs = some (before, after)) {u v : List Char} (hcs : cs = u ++ p ++ v) :
    before.length ≤ u.length := by
  induction cs generalizing before u with
  | nil =>
    have := breakOn_eq h
    have := congrArg List.length this
    simp only [List.length_nil, List.length_append] at this
    omega
  | cons c cs ih =>
    by_cases hp : p <+: c :: cs
    · obtain ⟨rest, hrest⟩ := hp
      rw [breakOn_cons_of_starts hrest.symm] at h
      cases h
      simp
    · cases u with
      | nil => exact absurd ⟨v, by simpa using hcs.symm⟩ hp
      | cons d u =>
        rw [breakOn_cons_of_not_starts hp] at h
        obtain ⟨⟨b, a⟩, hb, heq⟩ := Option.map_eq_some_iff.1 h
        simp only [Prod.mk.injEq] at heq
        obtain ⟨rfl, rfl⟩ := heq
        simp only [List.cons_append, List.cons.injEq] at hcs
        have := ih hb hcs.2
        simp only [List.length_cons]
        omega

/-- What is found does not depend on the text behind it. -/
theorem breakOn_retail {p cs before after : List Char} (h : breakOn p cs = some (before, after))
    (after' : List Char) : breakOn p (before ++ p ++ after') = some (before, after') := by
  induction cs generalizing before with
  | nil =>
    have hnil := breakOn_eq h
    simp only [List.nil_eq, List.append_eq_nil_iff] at hnil
    obtain ⟨⟨rfl, rfl⟩, rfl⟩ := hnil
    cases after' <;> simp [breakOn, dropPrefix?]
  | cons c cs ih =>
    by_cases hp : p <+: c :: cs
    · obtain ⟨rest, hrest⟩ := hp
      rw [breakOn_cons_of_starts hrest.symm] at h
      cases h
      cases hpa : [] ++ p ++ after' with
      | nil =>
        simp only [List.nil_append, List.append_eq_nil_iff] at hpa
        obtain ⟨rfl, rfl⟩ := hpa
        rfl
      | cons d ds => exact breakOn_cons_of_starts hpa.symm
    · rw [breakOn_cons_of_not_starts hp] at h
      obtain ⟨⟨b, a⟩, hb, heq⟩ := Option.map_eq_some_iff.1 h
      simp only [Prod.mk.injEq] at heq
      obtain ⟨rfl, rfl⟩ := heq
      -- The pattern fits into `c :: b ++ p`, which both texts start with.
      have hp' : ¬ p <+: c :: (b ++ p ++ after') := by
        intro hpre
        have hshort : p <+: c :: (b ++ p) := by
          refine List.prefix_of_prefix_length_le hpre ⟨after', by simp⟩ ?_
          simp only [List.length_cons, List.length_append]
          omega
        exact hp (hshort.trans ⟨a, by simp [breakOn_eq hb]⟩)
      rw [List.cons_append, List.cons_append, breakOn_cons_of_not_starts hp', ih hb]
      rfl

/-- More text does not change what is found. -/
theorem breakOn_append {p cs before after : List Char} (h : breakOn p cs = some (before, after))
    (more : List Char) : breakOn p (cs ++ more) = some (before, after ++ more) := by
  rw [breakOn_eq h, List.append_assoc]
  exact breakOn_retail h (after ++ more)

/-- A text through an occurrence, put before another text, keeps the first
occurrence. -/
theorem breakOn_of_length_le {p cs before after u v : List Char}
    (h : breakOn p cs = some (before, after)) (hcs : cs = u ++ v)
    (hle : before.length + p.length ≤ u.length) (v' : List Char) :
    ∃ after', u ++ v' = before ++ p ++ after' ∧ breakOn p (u ++ v') = some (before, after') := by
  have hpre : before ++ p <+: u := by
    have hb : before ++ p <+: cs := ⟨after, (breakOn_eq h).symm⟩
    exact List.prefix_of_prefix_length_le hb ⟨v, hcs.symm⟩ (by simpa using hle)
  obtain ⟨rest, hrest⟩ := hpre
  refine ⟨rest ++ v', by rw [← hrest]; simp, ?_⟩
  rw [← hrest, List.append_assoc]
  exact breakOn_retail h _

/-! ## Patterns that do not overlap -/

/-- Where a pattern stands across the border of a text and another pattern that
starts the same way, its start lies at the border, if the first character does
not come again in it. -/
theorem infix_of_append_cons {p cs v : List Char} {c : Char} (hc : c ∉ p) {q u : List Char}
    (h : cs ++ c :: q = u ++ c :: p ++ v) (hlt : u.length < cs.length) : c :: p <:+: cs := by
  rcases List.append_eq_append_iff.1 h.symm with ⟨w, hw, -⟩ | ⟨w, hw, hq⟩
  · exact ⟨u, w, hw.symm⟩
  · -- The text ends inside the pattern, whose rest would start with `c`.
    have hu : ∃ x, cs = u ++ x ∧ c :: p = x ++ w := by
      rcases List.append_eq_append_iff.1 hw with ⟨x, hx, hx'⟩ | ⟨x, hx, -⟩
      · exact ⟨x, hx, hx'⟩
      · rw [hx, List.length_append] at hlt
        omega
    obtain ⟨x, hx, hpx⟩ := hu
    cases w with
    | nil => exact ⟨u, [], by rw [hx, hpx]; simp⟩
    | cons d w =>
      simp only [List.cons_append, List.cons.injEq] at hq
      obtain ⟨rfl, -⟩ := hq
      cases x with
      | nil =>
        rw [hx] at hlt
        simp at hlt
      | cons e x =>
        simp only [List.cons_append, List.cons.injEq] at hpx
        exact absurd (by rw [hpx.2]; simp) hc

theorem breakOn_of_absent {p before : List Char} {c : Char} (hc : c ∉ p)
    (h : ¬ c :: p <:+: before) (after : List Char) :
    breakOn (c :: p) (before ++ c :: p ++ after) = some (before, after) := by
  cases hb : breakOn (c :: p) (before ++ c :: p ++ after) with
  | none => exact absurd (List.infix_append before (c :: p) after) (breakOn_eq_none_iff.1 hb)
  | some pair =>
    obtain ⟨b, a⟩ := pair
    have hle := breakOn_length_le hb rfl
    have heq := breakOn_eq hb
    rcases Nat.lt_or_ge b.length before.length with hlt | hge
    · refine absurd ?_ h
      refine infix_of_append_cons hc (q := p ++ after) (u := b) (v := a) ?_ hlt
      simpa using heq
    · have hlen : before.length = b.length := Nat.le_antisymm hge hle
      simp only [List.append_assoc] at heq
      obtain ⟨rfl, htail⟩ := List.append_inj heq hlen
      rw [List.append_cancel_left htail]

/-- A character is found where it stands for the first time. -/
theorem breakOn_singleton {before : List Char} {c : Char} (h : c ∉ before) (after : List Char) :
    breakOn [c] (before ++ c :: after) = some (before, after) := by
  have hinf : ¬ [c] <:+: before := fun hi => h (hi.subset (by simp))
  simpa using breakOn_of_absent (p := []) (by simp) hinf after

theorem not_mem_of_breakOn {cs before after : List Char} {c : Char}
    (h : breakOn [c] cs = some (before, after)) : c ∉ before := by
  intro hm
  obtain ⟨u, v, rfl⟩ := List.append_of_mem hm
  have := breakOn_length_le h (u := u) (v := v ++ c :: after) (by simp [breakOn_eq h])
  simp only [List.length_append, List.length_cons] at this
  omega

/-- A pattern without a character lies on one side of it. -/
theorem infix_append_cons {p u v : List Char} {c : Char} (hc : c ∉ p)
    (h : p <:+: u ++ c :: v) : p <:+: u ∨ p <:+: v := by
  obtain ⟨x, y, h⟩ := h
  rcases List.append_eq_append_iff.1 h with ⟨w, rfl, -⟩ | ⟨w, hw, hcv⟩
  · exact .inl ⟨x, w, rfl⟩
  · cases w with
    | nil => exact .inl ⟨x, [], by simpa using hw⟩
    | cons d w =>
      simp only [List.cons_append, List.cons.injEq] at hcv
      obtain ⟨rfl, rfl⟩ := hcv
      rcases List.append_eq_append_iff.1 hw with ⟨z, -, hz⟩ | ⟨z, -, hz⟩
      · exact absurd (by rw [hz]; simp) hc
      · cases z with
        | nil => exact absurd (by rw [← List.nil_append p, ← hz]; simp) hc
        | cons e z =>
          simp only [List.cons_append, List.cons.injEq] at hz
          exact .inr ⟨z, y, by rw [hz.2]⟩

/-- A pattern without a character that starts a text ends in front of it. -/
theorem prefix_of_append_cons {p u v : List Char} {c : Char} (hc : c ∉ p)
    (h : p <+: u ++ c :: v) : p <+: u := by
  obtain ⟨r, hr⟩ := h
  rcases List.append_eq_append_iff.1 hr with ⟨w, hu, -⟩ | ⟨w, hp, hw⟩
  · exact ⟨w, hu.symm⟩
  · cases w with
    | nil => exact ⟨[], by simpa using hp⟩
    | cons d w =>
      obtain ⟨rfl, -⟩ := List.cons.inj hw
      exact absurd (by rw [hp]; simp) hc

/-- A text without a pattern, in front of a character that the pattern does not have, is
passed over. -/
theorem breakOn_append_cons {p u : List Char} {c : Char} (hc : c ∉ p) (h : ¬ p <:+: u)
    (cs : List Char) :
    breakOn p (u ++ c :: cs) =
      (breakOn p cs).map fun found => (u ++ c :: found.1, found.2) := by
  induction u with
  | nil =>
    have hstart : ¬ p <+: c :: cs := fun hp => h (prefix_of_append_cons hc hp).isInfix
    exact breakOn_cons_of_not_starts hstart
  | cons d u ih =>
    have hstart : ¬ p <+: d :: (u ++ c :: cs) := fun hp =>
      h (prefix_of_append_cons (u := d :: u) hc hp).isInfix
    rw [List.cons_append, breakOn_cons_of_not_starts hstart,
      ih fun hi => h (List.infix_cons hi), Option.map_map]
    rfl

/-- A pattern does not start in a text without its first character. -/
theorem infix_of_head_not_mem {p u v : List Char} {c : Char} (hc : c ∉ u)
    (h : c :: p <:+: u ++ v) : c :: p <:+: v := by
  induction u with
  | nil => exact h
  | cons d u ih =>
    rcases List.infix_cons_iff.1 h with h | h
    · obtain ⟨rfl, -⟩ := List.cons_prefix_cons.1 h
      exact absurd List.mem_cons_self hc
    · exact ih (fun hm => hc (List.mem_cons_of_mem d hm)) h

/-- A pattern does not end in a text without its last character. -/
theorem infix_of_last_not_mem {p u v : List Char} {c : Char} (hc : c ∉ v)
    (h : p ++ [c] <:+: u ++ v) : p ++ [c] <:+: u := by
  have hreverse : c :: p.reverse <:+: v.reverse ++ u.reverse := by
    simpa using List.reverse_infix.2 h
  have := infix_of_head_not_mem (by simpa using hc) hreverse
  rw [← List.reverse_infix]
  simpa using this

end Gloss.Text
