import Gloss.Proofs.Comment.DocLine
import Gloss.Proofs.Comment.Passable

/-!
# Normalised texts

The text of an element is made of trimmed lines, the first and the last of which
are not empty (`Normal`). A text of that form is its own normalisation, also with
empty lines in front of it (`normalLines_of_lines`).

Normalising keeps the words of a content (`blankWords_normalLines`), so what is
found in the content by its words is found in the text: `isInfix_normalLines`
and `Passable.normalLines`.
-/

namespace Gloss.Comment

open Gloss.Text

/-- The lines of the text of an element. -/
def normalLines (content : List Char) : List (List Char) :=
  dropEndWhile List.isEmpty (((lines content).map trim).dropWhile List.isEmpty)

theorem normalizeText_eq (content : List Char) :
    normalizeText content = String.ofList (joinLines (normalLines content)) :=
  rfl

/-- Trimmed lines with characters on the first and the last. -/
structure Normal (ls : List (List Char)) : Prop where
  line : ∀ l ∈ ls, '\n' ∉ l
  trimmed : ∀ l ∈ ls, trim l = l
  head : ls.head? ≠ some []
  last : ls.getLast? ≠ some []

/-! ## Normal forms -/

theorem normalLines_split (content : List Char) :
    ∃ post, ((lines content).map trim).dropWhile List.isEmpty = normalLines content ++ post ∧
      post.all List.isEmpty = true :=
  dropEndWhile_split List.isEmpty _

theorem head?_dropWhile_isEmpty (ls : List (List Char)) :
    (ls.dropWhile List.isEmpty).head? ≠ some [] := by
  cases h : ls.dropWhile List.isEmpty with
  | nil => simp
  | cons l ls' =>
    have hne : ls.dropWhile List.isEmpty ≠ [] := by simp [h]
    have := List.head_dropWhile_not List.isEmpty hne
    simp only [h, List.head_cons] at this
    rintro hl
    cases hl
    cases this

theorem getLast?_dropEndWhile_isEmpty (ls : List (List Char)) :
    (dropEndWhile List.isEmpty ls).getLast? ≠ some [] := by
  rw [dropEndWhile_eq, List.getLast?_reverse]
  exact head?_dropWhile_isEmpty ls.reverse

theorem head?_dropEndWhile (ls : List (List Char)) (h : ls.head? ≠ some []) :
    (dropEndWhile List.isEmpty ls).head? ≠ some [] := by
  obtain ⟨post, hls, -⟩ := dropEndWhile_split List.isEmpty ls
  cases hd : dropEndWhile List.isEmpty ls with
  | nil => simp
  | cons l ls' =>
    rw [hls, hd] at h
    exact h

theorem normal_normalLines (content : List Char) : Normal (normalLines content) := by
  have hsub : ∀ l ∈ normalLines content, l ∈ (lines content).map trim := by
    intro l hl
    obtain ⟨post, hls, -⟩ := normalLines_split content
    refine (List.dropWhile_sublist List.isEmpty).subset ?_
    rw [hls]
    exact List.mem_append_left post hl
  refine ⟨fun l hl => ?_, fun l hl => ?_, head?_dropEndWhile _ (head?_dropWhile_isEmpty _),
    getLast?_dropEndWhile_isEmpty _⟩
  · obtain ⟨l', hl', rfl⟩ := List.mem_map.1 (hsub l hl)
    obtain ⟨pre, post, hsplit, -, -⟩ := trim_split l'
    intro hm
    refine not_mem_of_mem_lines hl' ?_
    rw [hsplit]
    simp [hm]
  · obtain ⟨l', -, rfl⟩ := List.mem_map.1 (hsub l hl)
    exact trim_trim l'

theorem Normal.trimEnd {ls : List (List Char)} (h : Normal ls) : ∀ l ∈ ls, trimEnd l = l := by
  intro l hl
  rw [← h.trimmed l hl, trim, trimEnd_trimEnd]

theorem Normal.isLine {ls : List (List Char)} (h : Normal ls) : ∀ l ∈ ls, IsLine l :=
  fun l hl => isLine_of_trimEnd (h.line l hl) (h.trimEnd l hl)

/-- A content whose lines are in normal form, but for empty lines in front. -/
theorem normalLines_of_lines {content : List Char} {ls : List (List Char)} (h : Normal ls) {n : Nat}
    (hl : lines content = List.replicate n [] ++ ls) : normalLines content = ls := by
  have hmap : ls.map trim = ls := by rw [List.map_congr_left h.trimmed, List.map_id']
  have htrim : (lines content).map trim = List.replicate n [] ++ ls := by
    rw [hl, List.map_append, hmap, List.map_replicate]
    rfl
  have hdrop : (List.replicate n [] ++ ls).dropWhile List.isEmpty = ls := by
    rw [List.dropWhile_append_of_pos fun l hl => by rw [List.eq_of_mem_replicate hl]; rfl]
    cases ls with
    | nil => rfl
    | cons l ls =>
      have : l ≠ [] := fun hl => h.head (by simp [hl])
      simp [this]
  rw [normalLines, htrim, hdrop, dropEndWhile_eq]
  cases hr : ls.reverse with
  | nil => simpa using hr.symm
  | cons l rs =>
    have hlast : l ≠ [] := by
      rintro rfl
      exact h.last (by rw [← List.head?_reverse, hr]; rfl)
    have hkeep : (l :: rs).dropWhile List.isEmpty = l :: rs := by simp [hlast]
    rw [hkeep, ← hr, List.reverse_reverse]

theorem trimEnd_joinLines {ls : List (List Char)} (h : ∀ l ∈ ls, trimEnd l = l)
    (hlast : ls.getLast? ≠ some []) : trimEnd (joinLines ls) = joinLines ls := by
  refine trimEnd_eq_self_iff.2 fun c hc => ?_
  rcases List.eq_nil_or_concat ls with rfl | ⟨init, l, rfl⟩
  · cases hc
  · rw [List.concat_eq_append] at *
    have hl : l ≠ [] := by simpa using hlast
    have hcl : l.getLast? = some c := by
      cases init with
      | nil => simpa using hc
      | cons i init =>
        rw [joinLines_append (by simp) (by simp), joinLines_singleton, List.getLast?_append,
          List.getLast?_cons] at hc
        cases hg : l.getLast? with
        | none => exact absurd (List.getLast?_eq_none_iff.1 hg) hl
        | some d =>
          rw [hg] at hc
          exact hc
    exact trimEnd_eq_self_iff.1 (h l (by simp)) c hcl

theorem Normal.trim_joinLines {ls : List (List Char)} (h : Normal ls) :
    trim (joinLines ls) = joinLines ls := by
  have hend := trimEnd_joinLines h.trimEnd h.last
  cases ls with
  | nil => rfl
  | cons l ls =>
    cases l with
    | nil => exact absurd rfl h.head
    | cons c l =>
      have hc : isBlank c = false := by
        have htrim := h.trimmed (c :: l) (by simp)
        cases hb : isBlank c with
        | false => rfl
        | true =>
          rw [trim_cons_of_blank hb] at htrim
          obtain ⟨pre, post, hl, -, -⟩ := trim_split l
          rw [htrim] at hl
          have := congrArg List.length hl
          simp only [List.length_append, List.length_cons] at this
          omega
      obtain ⟨more, hmore⟩ : ∃ more, joinLines ((c :: l) :: ls) = c :: more := by
        cases ls with
        | nil => exact ⟨l, joinLines_singleton _⟩
        | cons l' ls => exact ⟨_, joinLines_cons_of_ne_nil _ (by simp)⟩
      rw [hmore] at hend ⊢
      exact trim_eq_self hc hend

theorem Normal.lines_joinLines {ls : List (List Char)} (h : Normal ls) :
    lines (joinLines ls) = ls :=
  Text.lines_joinLines h.isLine h.last

/-! ## Words of a normalised content -/

theorem blankWords_normalLines (content : List Char) :
    blankWords (joinLines (normalLines content)) = blankWords content := by
  have hempty : ∀ ls : List (List Char), ls.all List.isEmpty = true →
      ls.flatMap blankWords = [] := by
    intro ls hls
    refine List.flatMap_eq_nil_iff.2 fun l hl => ?_
    rw [List.isEmpty_iff.1 (List.all_eq_true.1 hls l hl)]
    rfl
  obtain ⟨post, hend, hpost⟩ := normalLines_split content
  have hstart := @List.takeWhile_append_dropWhile _ List.isEmpty ((lines content).map trim)
  calc blankWords (joinLines (normalLines content))
      = (normalLines content).flatMap blankWords := blankWords_joinLines _
    _ = (((lines content).map trim).dropWhile List.isEmpty).flatMap blankWords := by
        rw [hend, List.flatMap_append, hempty post hpost, List.append_nil]
    _ = ((lines content).map trim).flatMap blankWords := by
        rw [← hstart, List.flatMap_append, hempty _ List.all_takeWhile, List.nil_append, hstart]
    _ = (lines content).flatMap blankWords := by
        rw [List.flatMap_map]
        congr 1
        funext l
        exact blankWords_trim l
    _ = blankWords content := blankWords_lines content

theorem squeeze_normalLines (content : List Char) :
    squeeze (joinLines (normalLines content)) = squeeze content := by
  rw [squeeze, blankWords_normalLines, squeeze]

/-- A pattern without blanks that is in a content is in its text. -/
theorem isInfix_normalLines {p content : List Char} (hp : ∀ c ∈ p, isBlank c = false)
    (hne : p ≠ []) (h : p <:+: content) : p <:+: joinLines (normalLines content) := by
  obtain ⟨pre, post, hcontent, hpre, hpost⟩ := trim_split content
  have htrim : p <:+: trim content := by
    rw [hcontent] at h
    exact infix_of_blanks hp hne hpre hpost h
  have hsqueeze := (respaced_squeeze content).isInfix hp hne htrim
  rw [← squeeze_normalLines] at hsqueeze
  have := (respaced_squeeze (joinLines (normalLines content))).symm.isInfix hp hne hsqueeze
  rwa [(normal_normalLines content).trim_joinLines] at this

/-- The text of a passable content is passable. -/
theorem Passable.normalLines {name content : List Char}
    (hname : ∀ c ∈ '<' :: name, isBlank c = false) (h : Passable name content) :
    Passable name (joinLines (normalLines content)) := by
  obtain ⟨pre, post, hcontent, hpre, hpost⟩ := trim_split content
  rw [hcontent] at h
  have htrim := Passable.of_blank_append hname hpre (Passable.of_append_blank hname hpost h)
  have hsqueeze := htrim.respaced hname (respaced_squeeze content)
  rw [← squeeze_normalLines] at hsqueeze
  have := hsqueeze.respaced hname (respaced_squeeze _).symm
  rwa [(normal_normalLines content).trim_joinLines] at this

end Gloss.Comment
