import Gloss.Proofs.Text.Lines
import Gloss.Proofs.Text.Search

/-!
# Texts that differ in their blanks

Two texts are `Respaced` if they differ only in how long their runs of blanks are
and in which blanks these hold. A pattern without blanks is found in the one
where it is found in the other (`Respaced.breakOn`).

Trimmed and squeezed texts are respaced (`respaced_squeeze`), and a text has the
words of its lines (`blankWords_lines`). So texts with the same words, trimmed,
cannot be told apart by such patterns.
-/

namespace Gloss.Text

/-- Equal texts but for runs of blanks, none of which is lost. -/
inductive Respaced : List Char → List Char → Prop where
  | nil : Respaced [] []
  | char {a b : List Char} (c : Char) (h : Respaced a b) : Respaced (c :: a) (c :: b)
  | blanks {x y a b : List Char} (hx : isBlankText x = true) (hy : isBlankText y = true)
      (hxne : x ≠ []) (hyne : y ≠ []) (h : Respaced a b) : Respaced (x ++ a) (y ++ b)

namespace Respaced

theorem refl (a : List Char) : Respaced a a := by
  induction a with
  | nil => exact nil
  | cons c a ih => exact char c ih

theorem symm {a b : List Char} (h : Respaced a b) : Respaced b a := by
  induction h with
  | nil => exact nil
  | char c _ ih => exact char c ih
  | blanks hx hy hxne hyne _ ih => exact blanks hy hx hyne hxne ih

theorem append {a b a' b' : List Char} (h : Respaced a b) (h' : Respaced a' b') :
    Respaced (a ++ a') (b ++ b') := by
  induction h with
  | nil => exact h'
  | char c _ ih => exact char c ih
  | blanks hx hy hxne hyne _ ih =>
    rw [List.append_assoc, List.append_assoc]
    exact blanks hx hy hxne hyne ih

theorem nil_left {b : List Char} (h : Respaced [] b) : b = [] := by
  generalize ha : ([] : List Char) = a at h
  cases h with
  | nil => rfl
  | char c h => cases ha
  | blanks hx hy hxne hyne h => exact absurd (List.append_eq_nil_iff.1 ha.symm).1 hxne

theorem cons_left {a b : List Char} {c : Char} (h : Respaced (c :: a) b) (hc : isBlank c = false) :
    ∃ b', b = c :: b' ∧ Respaced a b' := by
  generalize ha : c :: a = a' at h
  cases h with
  | nil => cases ha
  | char d h =>
    cases ha
    exact ⟨_, rfl, h⟩
  | @blanks x y a b hx hy hxne hyne h =>
    cases x with
    | nil => exact absurd rfl hxne
    | cons d x =>
      cases ha
      have := isBlankText_iff.1 hx c (by simp)
      rw [hc] at this
      cases this

theorem getLast? {a b : List Char} {c : Char} (h : Respaced a b) (hc : isBlank c = false)
    (ha : a.getLast? = some c) : b.getLast? = some c := by
  induction h with
  | nil => cases ha
  | @char a b d h ih =>
    cases a with
    | nil => rwa [h.nil_left]
    | cons e a =>
      rw [List.getLast?_cons] at ha ⊢
      cases hl : (e :: a).getLast? with
      | none => simp at hl
      | some f =>
        rw [hl] at ha
        rw [ih (hl.trans ha)]
        rfl
  | @blanks x y a b hx hy hxne hyne h ih =>
    rw [List.getLast?_append] at ha ⊢
    cases hl : a.getLast? with
    | none =>
      rw [hl] at ha
      have := isBlankText_iff.1 hx c (List.mem_of_getLast? (by simpa using ha))
      rw [hc] at this
      cases this
    | some d =>
      rw [hl] at ha
      rw [ih (hl.trans ha)]
      rfl

/-! ## Patterns without blanks -/

theorem append_left {p a b : List Char} (hp : ∀ c ∈ p, isBlank c = false)
    (h : Respaced (p ++ a) b) : ∃ b', b = p ++ b' ∧ Respaced a b' := by
  induction p generalizing b with
  | nil => exact ⟨b, rfl, h⟩
  | cons c p ih =>
    obtain ⟨b', rfl, h'⟩ := h.cons_left (hp c (by simp))
    obtain ⟨b'', rfl, h''⟩ := ih (fun d hd => hp d (List.mem_cons_of_mem c hd)) h'
    exact ⟨b'', rfl, h''⟩

end Respaced

theorem breakOn_blank_append {p x : List Char} (hp : ∀ c ∈ p, isBlank c = false) (hne : p ≠ [])
    (hx : isBlankText x = true) (a : List Char) :
    breakOn p (x ++ a) = (breakOn p a).map fun (before, after) => (x ++ before, after) := by
  induction x with
  | nil => simp
  | cons d x ih =>
    have hd : isBlank d = true := isBlankText_iff.1 hx d (by simp)
    have hx' : isBlankText x = true := isBlankText_of_subset (by simp) hx
    have hnot : ¬ p <+: d :: (x ++ a) := by
      intro hpre
      cases p with
      | nil => exact hne rfl
      | cons c p =>
        obtain ⟨rfl, -⟩ := List.cons_prefix_cons.1 hpre
        rw [hp c (by simp)] at hd
        cases hd
    rw [List.cons_append, breakOn_cons_of_not_starts hnot, ih hx', Option.map_map]
    rfl

/-- Blanks behind a text hide no pattern without blanks. -/
theorem breakOn_append_blank {p x post before after : List Char}
    (hp : ∀ c ∈ p, isBlank c = false) (hne : p ≠ []) (hpost : isBlankText post = true)
    (h : breakOn p (x ++ post) = some (before, after)) :
    ∃ after', after = after' ++ post ∧ breakOn p x = some (before, after') := by
  have hfits : ∃ after', x = before ++ p ++ after' ∧ after = after' ++ post := by
    rcases List.append_eq_append_iff.1 (breakOn_eq h) with ⟨w, hw, hpost'⟩ | ⟨w, hw, hafter⟩
    · -- The pattern would end among the blanks.
      have hlast := congrArg List.getLast? hw
      rw [List.getLast?_append, List.getLast?_append] at hlast
      cases w with
      | nil => exact ⟨[], by simpa using hw.symm, by simpa using hpost'.symm⟩
      | cons d w =>
        obtain ⟨e, he⟩ := Option.ne_none_iff_exists'.1 (mt List.getLast?_eq_none_iff.1 hne)
        obtain ⟨f, hf⟩ := Option.ne_none_iff_exists'.1
          (mt List.getLast?_eq_none_iff.1 (List.cons_ne_nil d w))
        simp only [he, hf, Option.some_or, Option.some.injEq] at hlast
        have hmem : f ∈ post := by
          rw [hpost']
          exact List.mem_append_left after (List.mem_of_getLast? hf)
        have hblank := isBlankText_iff.1 hpost f hmem
        rw [← hlast, hp e (List.mem_of_getLast? he)] at hblank
        cases hblank
    · exact ⟨w, hw, hafter⟩
  obtain ⟨after', rfl, rfl⟩ := hfits
  refine ⟨after', rfl, breakOn_retail h after'⟩

theorem infix_of_blanks {p pre x post : List Char} (hp : ∀ c ∈ p, isBlank c = false) (hne : p ≠ [])
    (hpre : isBlankText pre = true) (hpost : isBlankText post = true)
    (h : p <:+: pre ++ x ++ post) : p <:+: x := by
  rw [← breakOn_isSome_iff, Option.isSome_iff_exists] at h
  obtain ⟨⟨u, v⟩, huv⟩ := h
  obtain ⟨v', -, hb⟩ := breakOn_append_blank hp hne hpost huv
  rw [breakOn_blank_append hp hne hpre] at hb
  obtain ⟨⟨before, after⟩, hx, -⟩ := Option.map_eq_some_iff.1 hb
  exact ⟨before, after, (breakOn_eq hx).symm⟩

/-- A pattern without blanks is found at the same place among other blanks. -/
theorem Respaced.breakOn {p a b before after : List Char} (hp : ∀ c ∈ p, isBlank c = false)
    (hne : p ≠ []) (h : Respaced a b) (hb : breakOn p a = some (before, after)) :
    ∃ before' after', breakOn p b = some (before', after') ∧
      Respaced before before' ∧ Respaced after after' := by
  induction h generalizing before with
  | nil =>
    have := breakOn_eq hb
    simp only [List.nil_eq, List.append_eq_nil_iff] at this
    exact absurd this.1.2 hne
  | @char a b c h ih =>
    by_cases hpre : p <+: c :: a
    · obtain ⟨rest, hrest⟩ := hpre
      rw [breakOn_cons_of_starts hrest.symm] at hb
      cases hb
      obtain ⟨rest', hrest', hr⟩ := append_left hp (hrest ▸ char c h)
      exact ⟨[], rest', breakOn_cons_of_starts hrest', nil, hr⟩
    · have hpre' : ¬ p <+: c :: b := by
        rintro ⟨rest, hrest⟩
        obtain ⟨rest', hrest', -⟩ := append_left hp (hrest ▸ char c h.symm)
        exact hpre ⟨rest', hrest'.symm⟩
      rw [breakOn_cons_of_not_starts hpre] at hb
      obtain ⟨⟨u, v⟩, huv, heq⟩ := Option.map_eq_some_iff.1 hb
      simp only [Prod.mk.injEq] at heq
      obtain ⟨rfl, rfl⟩ := heq
      obtain ⟨u', v', huv', hu, hv⟩ := ih huv
      refine ⟨c :: u', v', ?_, char c hu, hv⟩
      rw [breakOn_cons_of_not_starts hpre', huv']
      rfl
  | @blanks x y a b hx hy hxne hyne h ih =>
    rw [breakOn_blank_append hp hne hx] at hb
    obtain ⟨⟨u, v⟩, huv, heq⟩ := Option.map_eq_some_iff.1 hb
    simp only [Prod.mk.injEq] at heq
    obtain ⟨rfl, rfl⟩ := heq
    obtain ⟨u', v', huv', hu, hv⟩ := ih huv
    refine ⟨y ++ u', v', ?_, blanks hx hy hxne hyne hu, hv⟩
    rw [breakOn_blank_append hp hne hy, huv']
    rfl

theorem Respaced.isInfix {p a b : List Char} (hp : ∀ c ∈ p, isBlank c = false) (hne : p ≠ [])
    (h : Respaced a b) (ha : p <:+: a) : p <:+: b := by
  rw [← breakOn_isSome_iff, Option.isSome_iff_exists] at ha ⊢
  obtain ⟨⟨u, v⟩, huv⟩ := ha
  obtain ⟨u', v', huv', -, -⟩ := h.breakOn hp hne huv
  exact ⟨(u', v'), huv'⟩

/-! ## Words -/

theorem blankWords_cons_of_blank {d : Char} (hd : isBlank d = true) (cs : List Char) :
    blankWords (d :: cs) = blankWords cs := by
  cases cs <;> simp [blankWords, hd]

theorem blankWords_of_blank {x : List Char} (hx : isBlankText x = true) : blankWords x = [] := by
  induction x with
  | nil => rfl
  | cons d x ih =>
    rw [blankWords_cons_of_blank (isBlankText_iff.1 hx d (by simp))]
    exact ih (isBlankText_of_subset (by simp) hx)

theorem blankWords_ne_nil {c : Char} (hc : isBlank c = false) (cs : List Char) :
    blankWords (c :: cs) ≠ [] := by
  cases cs with
  | nil => simp [blankWords, hc]
  | cons d cs =>
    rw [blankWords, hc]
    cases hd : isBlank d with
    | true => simp
    | false => cases blankWords (d :: cs) <;> simp [addToFirst]

/-- The words on both sides of a blank. -/
theorem blankWords_append_cons {b : Char} (hb : isBlank b = true) (x y : List Char) :
    blankWords (x ++ b :: y) = blankWords x ++ blankWords y := by
  fun_induction blankWords x with
  | case1 => exact blankWords_cons_of_blank hb y
  | case2 c hc =>
    rw [List.singleton_append, blankWords_cons_of_blank hc, blankWords_cons_of_blank hb]
    rfl
  | case3 c hc => simp [blankWords, hc, hb, blankWords_cons_of_blank hb]
  | case4 c d cs hc ih =>
    rw [List.cons_append, blankWords_cons_of_blank hc]
    exact ih
  | case5 c d cs hc hd ih =>
    rw [List.cons_append, List.cons_append, blankWords, if_neg hc, if_pos hd,
      ← List.cons_append, ih]
    rfl
  | case6 c d cs hc hd ih =>
    rw [List.cons_append, List.cons_append, blankWords, if_neg hc, if_neg hd,
      ← List.cons_append, ih]
    have hne := blankWords_ne_nil (by simpa using hd) cs
    cases hw : blankWords (d :: cs) with
    | nil => exact absurd hw hne
    | cons w ws => rfl

theorem blankWords_append_of_blank (x : List Char) {post : List Char}
    (hpost : isBlankText post = true) : blankWords (x ++ post) = blankWords x := by
  cases post with
  | nil => rw [List.append_nil]
  | cons b post =>
    have hb : isBlank b = true := isBlankText_iff.1 hpost b (by simp)
    have hpost' : isBlankText post = true := isBlankText_of_subset (by simp) hpost
    rw [blankWords_append_cons hb, blankWords_of_blank hpost', List.append_nil]

theorem blankWords_blank_append {pre : List Char} (hpre : isBlankText pre = true) (x : List Char) :
    blankWords (pre ++ x) = blankWords x := by
  induction pre with
  | nil => rfl
  | cons b pre ih =>
    rw [List.cons_append, blankWords_cons_of_blank (isBlankText_iff.1 hpre b (by simp))]
    exact ih (isBlankText_of_subset (by simp) hpre)

theorem blankWords_trim (cs : List Char) : blankWords (trim cs) = blankWords cs := by
  obtain ⟨pre, post, hcs, hpre, hpost⟩ := trim_split cs
  calc blankWords (trim cs) = blankWords (pre ++ (trim cs ++ post)) := by
        rw [blankWords_blank_append hpre, blankWords_append_of_blank _ hpost]
    _ = blankWords cs := by rw [← List.append_assoc, ← hcs]

theorem blankWords_joinLines (ls : List (List Char)) :
    blankWords (joinLines ls) = ls.flatMap blankWords := by
  induction ls with
  | nil => rfl
  | cons l ls ih =>
    cases hls : ls with
    | nil => simp
    | cons l' ls' =>
      rw [← hls, joinLines_cons_of_ne_nil l (by simp [hls]), blankWords_append_cons (by decide), ih]
      rfl

theorem lines_append_feed {l : List Char} (hl : '\n' ∉ l) (rest : List Char) :
    ∃ l' r, lines (l ++ '\n' :: rest) = l' :: lines rest ∧ l = l' ++ r ∧ isBlankText r = true := by
  induction l with
  | nil => exact ⟨[], [], rfl, rfl, rfl⟩
  | cons c l ih =>
    have hc : c ≠ '\n' := fun h => hl (by simp [h])
    obtain ⟨l', r, hlines, rfl, hr⟩ := ih fun h => hl (List.mem_cons_of_mem c h)
    by_cases hcr : c = '\r' ∧ l' ++ r = []
    · obtain ⟨rfl, hnil⟩ := hcr
      rw [hnil]
      exact ⟨[], ['\r'], rfl, rfl, rfl⟩
    · refine ⟨c :: l', r, ?_, rfl, hr⟩
      rw [List.cons_append, lines_cons_of_ne hc, hlines]
      · rfl
      · rintro rfl hhead
        cases hx : l' ++ r with
        | nil => exact hcr ⟨rfl, hx⟩
        | cons d x =>
          rw [hx] at hhead hl
          simp only [List.cons_append, List.head?_cons, Option.some.injEq] at hhead
          exact hl (by simp [hhead])

/-- A text has the words of its lines. -/
theorem blankWords_lines (cs : List Char) : (lines cs).flatMap blankWords = blankWords cs := by
  induction hn : cs.length using Nat.strongRecOn generalizing cs with
  | ind n ih =>
  by_cases hm : '\n' ∈ cs
  · obtain ⟨l, rest, rfl, hl⟩ := List.eq_append_cons_of_mem hm
    obtain ⟨l', r, hlines, rfl, hr⟩ := lines_append_feed hl rest
    have hrest := ih rest.length (by simp [← hn]; omega) rest rfl
    rw [hlines, List.flatMap_cons, hrest, blankWords_append_cons (by decide),
      blankWords_append_of_blank l' hr]
  · cases cs with
    | nil => rfl
    | cons c cs =>
      rw [lines_of_not_mem hm (by simp)]
      simp

/-! ## Squeezing -/

theorem trimEnd_cons_of_not_blank {c : Char} (hc : isBlank c = false) (cs : List Char) :
    trimEnd (c :: cs) = c :: trimEnd cs := by
  rw [trimEnd, dropEndWhile, trimEnd]
  cases dropEndWhile isBlank cs with
  | nil => simp [hc]
  | cons d ds => rfl

theorem trimEnd_append_of_ne_nil (pre : List Char) {cs : List Char} (h : trimEnd cs ≠ []) :
    trimEnd (pre ++ cs) = pre ++ trimEnd cs := by
  induction pre with
  | nil => rfl
  | cons c pre ih =>
    rw [List.cons_append, trimEnd, dropEndWhile, ← trimEnd, ih]
    cases hx : pre ++ trimEnd cs with
    | nil => exact absurd (List.append_eq_nil_iff.1 hx).2 h
    | cons d ds => simp [hx]

theorem trim_cons_of_blank {c : Char} (hc : isBlank c = true) (cs : List Char) :
    trim (c :: cs) = trim cs := by
  have hpre : isBlankText [c] = true := by simp [isBlankText, hc]
  rw [trim, ← List.singleton_append, trimStart_append_of_blank hpre, trim]

/-- What trimming at the end leaves of a text that starts with a blank. -/
theorem trimEnd_of_blank_head {d : Char} (hd : isBlank d = true) (cs : List Char) :
    trim (d :: cs) = [] ∧ trimEnd (d :: cs) = [] ∨
      ∃ pre, isBlankText pre = true ∧ pre ≠ [] ∧ trim (d :: cs) ≠ [] ∧
        trimEnd (d :: cs) = pre ++ trim (d :: cs) := by
  obtain ⟨pre, hpre, hblank⟩ := trimStart_split (d :: cs)
  by_cases hnil : isBlankText (d :: cs) = true
  · exact .inl ⟨trim_eq_nil_iff.2 hnil, trimEnd_eq_nil_iff.2 hnil⟩
  · have hne : trimEnd (trimStart (d :: cs)) ≠ [] := fun h => hnil (trim_eq_nil_iff.1 h)
    refine .inr ⟨pre, hblank, ?_, hne, ?_⟩
    · rintro rfl
      have hstart : trimStart (d :: cs) = d :: cs := hpre.symm
      rw [isBlank_of_trimStart hstart] at hd
      cases hd
    · have := trimEnd_append_of_ne_nil pre hne
      rwa [← hpre] at this

/-- Squeezing a text changes only the blanks that trimming leaves. -/
theorem respaced_squeeze (cs : List Char) : Respaced (trim cs) (squeeze cs) := by
  induction cs using blankWords.induct with
  | case1 => exact .nil
  | case2 c hc =>
    rw [trim_cons_of_blank hc, squeeze, blankWords_cons_of_blank hc]
    exact .nil
  | case3 c hc =>
    have hc' : isBlank c = false := by simpa using hc
    rw [trim_eq_self hc' (trimEnd_cons_of_not_blank hc' []), squeeze]
    simpa [blankWords, hc'] using Respaced.refl [c]
  | case4 c d cs hc ih =>
    rw [trim_cons_of_blank hc, squeeze, blankWords_cons_of_blank hc]
    exact ih
  | case5 c d cs hc hd ih =>
    have hc' : isBlank c = false := by simpa using hc
    rw [trim, trimStart_cons_of_not_blank hc', trimEnd_cons_of_not_blank hc', squeeze, blankWords,
      if_neg hc, if_pos hd]
    rcases trimEnd_of_blank_head hd cs with ⟨htrim, hend⟩ | ⟨pre, hpre, hne, htrim, hend⟩
    · rw [hend, blankWords_of_blank (trim_eq_nil_iff.1 htrim)]
      simpa using Respaced.refl [c]
    · rw [hend]
      cases hw : blankWords (d :: cs) with
      | nil =>
        rw [squeeze, hw] at ih
        exact absurd ih.symm.nil_left htrim
      | cons w ws =>
        rw [squeeze, hw] at ih
        have hspace : isBlankText [' '] = true := rfl
        rw [List.intercalate_cons_cons, List.append_assoc]
        have hrun := Respaced.blanks hpre hspace hne (by simp) ih
        exact .char c hrun
  | case6 c d cs hc hd ih =>
    have hc' : isBlank c = false := by simpa using hc
    have hd' : isBlank d = false := by simpa using hd
    rw [trim, trimStart_cons_of_not_blank hd'] at ih
    rw [trim, trimStart_cons_of_not_blank hc', trimEnd_cons_of_not_blank hc', squeeze, blankWords,
      if_neg hc, if_neg hd]
    cases hw : blankWords (d :: cs) with
    | nil => exact absurd hw (blankWords_ne_nil hd' cs)
    | cons w ws =>
      rw [squeeze, hw] at ih
      have hfirst : List.intercalate [' '] (addToFirst c (w :: ws)) =
          c :: List.intercalate [' '] (w :: ws) := by
        cases ws <;> simp [addToFirst]
      rw [hfirst]
      exact .char c ih

/-! ## Texts that squeezing keeps -/

/-- Words with one space between neighbours. -/
inductive Spaced : List Char → Prop where
  | word {w : List Char} (hne : w ≠ []) (hw : ∀ c ∈ w, isBlank c = false) : Spaced w
  | space {w cs : List Char} (hne : w ≠ []) (hw : ∀ c ∈ w, isBlank c = false) (h : Spaced cs) :
      Spaced (w ++ ' ' :: cs)

theorem blankWords_word {w : List Char} (hne : w ≠ []) (hw : ∀ c ∈ w, isBlank c = false) :
    blankWords w = [w] := by
  induction w with
  | nil => exact absurd rfl hne
  | cons c w ih =>
    cases w with
    | nil => simp [blankWords, hw c]
    | cons d w =>
      rw [blankWords, hw c (by simp), hw d (by simp),
        ih (by simp) fun e he => hw e (List.mem_cons_of_mem c he)]
      rfl

namespace Spaced

theorem append {a b : List Char} (ha : Spaced a) (hb : Spaced b) : Spaced (a ++ b) := by
  induction ha with
  | @word w hne hw =>
    have hsolid {x : List Char} (hx : ∀ c ∈ x, isBlank c = false) :
        ∀ c ∈ w ++ x, isBlank c = false := by
      intro c hc
      exact (List.mem_append.1 hc).elim (hw c) (hx c)
    cases hb with
    | word hne' hw' => exact word (by simp [hne]) (hsolid hw')
    | space hne' hw' h =>
      rw [← List.append_assoc]
      exact space (by simp [hne]) (hsolid hw') h
  | space hne hw _ ih =>
    rw [List.append_assoc]
    exact space hne hw ih

theorem append_space {a b : List Char} (ha : Spaced a) (hb : Spaced b) :
    Spaced (a ++ ' ' :: b) := by
  induction ha with
  | word hne hw => exact space hne hw hb
  | space hne hw _ ih =>
    rw [List.append_assoc]
    exact space hne hw ih

theorem blankWords_ne_nil {cs : List Char} (h : Spaced cs) : blankWords cs ≠ [] := by
  cases h with
  | word hne hw => simp [blankWords_word hne hw]
  | space hne hw h => simp [blankWords_append_cons (show isBlank ' ' = true by decide),
      blankWords_word hne hw]

theorem squeeze_eq {cs : List Char} (h : Spaced cs) : squeeze cs = cs := by
  induction h with
  | word hne hw => simp [squeeze, blankWords_word hne hw]
  | @space w cs hne hw h ih =>
    rw [squeeze, blankWords_append_cons (by decide), blankWords_word hne hw]
    have hwords := h.blankWords_ne_nil
    rw [squeeze] at ih
    generalize blankWords cs = words at ih hwords
    cases words with
    | nil => exact absurd rfl hwords
    | cons v words =>
      rw [List.singleton_append, List.intercalate_cons_cons, ih]
      simp

end Spaced

end Gloss.Text
