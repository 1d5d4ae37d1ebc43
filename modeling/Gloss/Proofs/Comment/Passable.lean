import Gloss.Proofs.Comment.Element
import Gloss.Proofs.Text.Respaced

/-!
# Contents that a closing tag ends

The content of an element without its own closing tag in it is ended by the
first closing tag behind it exactly if it is `Passable`: the tags in it that
would open the same element close themselves, up to the first place, if any,
where the name goes on behind the characters that are looked for
(`findClosing_of_passable`, `passable_of_findClosing`).

Whether a content can be passed depends on its words only, but for one case: a
content that ends in such an opening must not be followed by a blank
(`Passable.respaced`, `Passable.append_blank`).
-/

namespace Gloss.Comment

open Gloss.Text

/-- The search for the closing tag of an element runs through the content without
opening an element of the same name. -/
inductive Passable (name : List Char) : List Char → Prop where
  | absent {content : List Char} (h : ¬ '<' :: name <:+: content) : Passable name content
  | other {content before after : List Char}
      (h : breakOn ('<' :: name) content = some (before, after)) (he : endsName after = false) :
      Passable name content
  | selfClosed {content before tail beyond : List Char}
      (h : breakOn ('<' :: name) content = some (before, tail ++ '>' :: beyond))
      (he : endsName (tail ++ '>' :: beyond) = true) (ht : '>' ∉ tail)
      (hclosed : ('<' :: name ++ tail).getLast? = some '/') (hbeyond : Passable name beyond) :
      Passable name content

/-! ## Searching through a passable content -/

theorem breakOn_closingTag {name content : List Char} (hname : '<' ∉ name)
    (h : ¬ closingTag name <:+: content) (rest : List Char) :
    breakOn (closingTag name) (content ++ closingTag name ++ rest) = some (content, rest) := by
  have hmem : '<' ∉ '/' :: name ++ ['>'] := by simp [hname]
  exact breakOn_of_absent hmem h rest

theorem endsName_append_closing {after : List Char} (h : endsName after = false)
    (name rest : List Char) :
    endsName (after ++ (closingTag name ++ rest)) = false := by
  cases after with
  | nil => rfl
  | cons c cs => exact h

/-- The first closing tag behind a passable content ends it. -/
theorem findClosing_of_passable {name content : List Char} (hname : '<' ∉ name)
    (hp : Passable name content) (h : ¬ closingTag name <:+: content) (rest : List Char) :
    findClosing name 0 (content ++ closingTag name ++ rest) = some (content, rest) := by
  induction hp with
  | @absent content habsent =>
    refine findClosing_zero_of_none (breakOn_closingTag hname h rest) ?_
    cases ho : nextOpening name content.length (content ++ closingTag name ++ rest) with
    | none => rfl
    | some found =>
      obtain ⟨through, closed, beyond⟩ := found
      obtain ⟨b, tail, hb, hlt, -⟩ := nextOpening_cases ho
      refine absurd ?_ habsent
      have heq := breakOn_eq hb
      rw [closingTag, List.append_assoc] at heq
      exact infix_of_append_cons hname heq hlt
  | @other content before after hb he =>
    refine findClosing_zero_of_none (breakOn_closingTag hname h rest) ?_
    have hb' := breakOn_append hb (closingTag name ++ rest)
    rw [nextOpening, List.append_assoc, hb']
    simp [endsName_append_closing he]
  | @selfClosed content before tail beyond hb he ht hclosed hbeyond ih =>
    have hcontent := breakOn_eq hb
    have hb' : breakOn ('<' :: name) (content ++ closingTag name ++ rest) =
        some (before, tail ++ '>' :: (beyond ++ closingTag name ++ rest)) := by
      simpa using breakOn_append hb (closingTag name ++ rest)
    have he' : endsName (tail ++ '>' :: (beyond ++ closingTag name ++ rest)) = true := by
      have := endsName_append_of_true he (closingTag name ++ rest)
      simpa using this
    have hlt : before.length < content.length := by
      rw [hcontent]
      simp only [List.length_append, List.length_cons]
      omega
    have ho := nextOpening_of_breakOn hb' hlt he' ht
    have hbeyond' : ¬ closingTag name <:+: beyond := by
      intro hin
      refine h (hin.trans ⟨before ++ '<' :: name ++ tail ++ ['>'], [], ?_⟩)
      rw [hcontent]
      simp
    rw [findClosing_eq_of_opening (breakOn_closingTag hname h rest) ho, hclosed]
    simp only [beq_self_eq_true, if_true]
    rw [ih hbeyond', hcontent]
    simp

/-- An element that is open in a content closes in it. -/
theorem closingTag_mem_of_findClosing {name rest content tail : List Char} {depth : Nat}
    (h : findClosing name (depth + 1) rest = some (content, tail)) :
    closingTag name <:+: content := by
  generalize hd : depth + 1 = d at h
  fun_induction findClosing name d rest generalizing content depth with
  | case1 => cases h
  | case2 d rest before after hc through closed beyond ho hlt ih =>
    obtain ⟨⟨c, t⟩, hf, heq⟩ := Option.map_eq_some_iff.1 h
    simp only [Prod.mk.injEq] at heq
    obtain ⟨rfl, rfl⟩ := heq
    have hin : closingTag name <:+: c := by
      cases closed with
      | true => exact ih hd hf
      | false => exact ih rfl hf
    exact hin.trans ⟨through, [], by simp⟩
  | case3 => cases hd
  | case4 rest before after hc ho hlt d ih =>
    obtain ⟨⟨c, t⟩, hf, heq⟩ := Option.map_eq_some_iff.1 h
    simp only [Prod.mk.injEq] at heq
    obtain ⟨rfl, rfl⟩ := heq
    exact ⟨before, c, rfl⟩

/-- A content that a closing tag ends, and that has no closing tag in it, is
passable. -/
theorem passable_of_findClosing {name content rest : List Char} (hname : '<' ∉ name)
    (h : ¬ closingTag name <:+: content)
    (hf : findClosing name 0 (content ++ closingTag name ++ rest) = some (content, rest)) :
    Passable name content := by
  induction hn : content.length using Nat.strongRecOn generalizing content with
  | ind n ih =>
  cases hb : breakOn ('<' :: name) content with
  | none => exact .absent (breakOn_eq_none_iff.1 hb)
  | some pair =>
    obtain ⟨before, after⟩ := pair
    cases he : endsName after with
    | false => exact .other hb he
    | true =>
      have hcontent := breakOn_eq hb
      have hlt : before.length < content.length := by
        rw [hcontent]
        simp only [List.length_append, List.length_cons]
        omega
      have hb' := breakOn_append hb (closingTag name ++ rest)
      have he' := endsName_append_of_true he (closingTag name ++ rest)
      -- The tag ends somewhere, at the latest with the closing tag.
      have hmem : '>' ∈ after ++ (closingTag name ++ rest) := by simp [closingTag]
      obtain ⟨tail, beyond, hsplit, htail⟩ := List.eq_append_cons_of_mem hmem
      rw [hsplit] at hb' he'
      rw [← List.append_assoc] at hb'
      have ho := nextOpening_of_breakOn hb' hlt he' htail
      rw [findClosing_eq_of_opening (breakOn_closingTag hname h rest) ho] at hf
      obtain ⟨⟨inner, rest'⟩, hinner, heq⟩ := Option.map_eq_some_iff.1 hf
      simp only [Prod.mk.injEq] at heq
      obtain ⟨hthrough, rfl⟩ := heq
      have hafter : after = tail ++ '>' :: inner := by
        have := hthrough.trans hcontent
        simp only [List.append_assoc, List.cons_append, List.nil_append] at this
        exact (List.append_cancel_left (List.cons.inj (List.append_cancel_left this)).2).symm
      have hin : inner <:+: content :=
        ⟨before ++ '<' :: name ++ tail ++ ['>'], [], by simpa using hthrough⟩
      have hinner' : ¬ closingTag name <:+: inner := fun hi => h (hi.trans hin)
      have hbeyond := findClosing_eq hinner
      cases hclosed : ('<' :: name ++ tail).getLast? == some '/' with
      | false =>
        rw [hclosed] at hinner
        exact absurd (closingTag_mem_of_findClosing hinner) hinner'
      | true =>
        rw [hclosed] at hinner
        rw [hbeyond] at hinner
        rw [hafter] at hb he
        refine .selfClosed hb he htail (by simpa using hclosed)
          (ih inner.length ?_ hinner' hinner rfl)
        rw [← hn, ← hthrough]
        simp only [List.length_append, List.length_cons]
        omega

/-! ## Other blanks -/

theorem endsName_of_respaced {a b : List Char} (h : Respaced a b) : endsName a = endsName b := by
  cases h with
  | nil => rfl
  | char c h => rfl
  | @blanks x y a b hx hy hxne hyne h =>
    cases x with
    | nil => exact absurd rfl hxne
    | cons c x =>
      cases y with
      | nil => exact absurd rfl hyne
      | cons d y =>
        have hc := isBlankText_iff.1 hx c (by simp)
        have hd := isBlankText_iff.1 hy d (by simp)
        simp [endsName, hc, hd]

section Blanks

variable {name : List Char} (hname : ∀ c ∈ '<' :: name, isBlank c = false)
include hname

theorem Passable.respaced {a b : List Char} (hp : Passable name a) (h : Respaced a b) :
    Passable name b := by
  induction hp generalizing b with
  | absent habsent => exact .absent fun hb => habsent (h.symm.isInfix hname (by simp) hb)
  | other hb he =>
    obtain ⟨before', after', hb', -, hafter⟩ := h.breakOn hname (by simp) hb
    exact .other hb' (endsName_of_respaced hafter ▸ he)
  | @selfClosed a before tail beyond hb he ht hclosed hbeyond ih =>
    obtain ⟨before', after', hb', -, hafter⟩ := h.breakOn hname (by simp) hb
    have hgt : ∀ c ∈ ['>'], isBlank c = false := by simp [isBlank]
    obtain ⟨tail', beyond', ht', htail, hbeyond'⟩ :=
      hafter.breakOn hgt (by simp) (breakOn_singleton ht beyond)
    have hsplit : after' = tail' ++ '>' :: beyond' := by simpa using breakOn_eq ht'
    rw [hsplit] at hb' hafter
    refine .selfClosed hb' (endsName_of_respaced hafter ▸ he) (not_mem_of_breakOn ht') ?_
      (ih hbeyond')
    exact ((Respaced.refl ('<' :: name)).append htail).getLast? (by decide) hclosed

theorem Passable.of_blank_append {pre a : List Char} (hpre : isBlankText pre = true)
    (hp : Passable name (pre ++ a)) : Passable name a := by
  have hbreak := breakOn_blank_append hname (by simp) hpre a
  cases hp with
  | absent habsent => exact .absent fun h => habsent (h.trans ⟨pre, [], by simp⟩)
  | other hb he =>
    rw [hb] at hbreak
    obtain ⟨⟨u, v⟩, huv, heq⟩ := Option.map_eq_some_iff.1 hbreak.symm
    simp only [Prod.mk.injEq] at heq
    exact .other huv (heq.2 ▸ he)
  | selfClosed hb he ht hclosed hbeyond =>
    rw [hb] at hbreak
    obtain ⟨⟨u, v⟩, huv, heq⟩ := Option.map_eq_some_iff.1 hbreak.symm
    simp only [Prod.mk.injEq] at heq
    obtain ⟨-, rfl⟩ := heq
    exact .selfClosed huv he ht hclosed hbeyond

theorem Passable.blank_append {pre a : List Char} (hpre : isBlankText pre = true)
    (hp : Passable name a) : Passable name (pre ++ a) := by
  have hbreak := breakOn_blank_append hname (by simp) hpre a
  cases hp with
  | absent habsent =>
    rw [breakOn_eq_none_iff.2 habsent] at hbreak
    exact .absent (breakOn_eq_none_iff.1 hbreak)
  | other hb he =>
    rw [hb] at hbreak
    exact .other hbreak he
  | selfClosed hb he ht hclosed hbeyond =>
    rw [hb] at hbreak
    exact .selfClosed hbreak he ht hclosed hbeyond

theorem Passable.of_append_blank {a post : List Char} (hpost : isBlankText post = true)
    (hp : Passable name (a ++ post)) : Passable name a := by
  generalize hcs : a ++ post = cs at hp
  induction hp generalizing a with
  | absent habsent => exact .absent fun h => habsent (h.trans ⟨[], post, by simpa using hcs⟩)
  | other hb he =>
    obtain ⟨after', rfl, hb'⟩ := breakOn_append_blank hname (by simp) hpost (hcs ▸ hb)
    refine .other hb' ?_
    cases after' with
    | nil => rfl
    | cons c after' => exact he
  | @selfClosed cs before tail beyond hb he ht hclosed hbeyond ih =>
    obtain ⟨after', hafter, hb'⟩ := breakOn_append_blank hname (by simp) hpost (hcs ▸ hb)
    have hgt : ∀ c ∈ ['>'], isBlank c = false := by simp [isBlank]
    obtain ⟨beyond', rfl, hafter'⟩ :=
      breakOn_append_blank hgt (by simp) hpost (hafter ▸ breakOn_singleton ht beyond)
    have hsplit : after' = tail ++ '>' :: beyond' := by simpa using breakOn_eq hafter'
    rw [hsplit] at hb'
    refine .selfClosed hb' ?_ ht hclosed (ih rfl)
    have hne : tail ++ ['>'] ≠ [] := by simp
    have := endsName_append hne beyond' (beyond' ++ post)
    simpa [he] using this

/-- Blanks may follow a content that does not end where the name of a tag would
be continued. -/
theorem Passable.append_blank {a post : List Char} (hpost : isBlankText post = true)
    (hp : Passable name a) (hend : ¬ '<' :: name <:+ a) : Passable name (a ++ post) := by
  induction hp with
  | absent habsent =>
    refine .absent fun h => habsent ?_
    rw [← breakOn_isSome_iff, Option.isSome_iff_exists] at h
    obtain ⟨⟨u, v⟩, huv⟩ := h
    obtain ⟨v', -, hb⟩ := breakOn_append_blank hname (by simp) hpost huv
    exact ⟨u, v', (breakOn_eq hb).symm⟩
  | @other a before after hb he =>
    refine .other (breakOn_append hb post) ?_
    cases after with
    | nil => exact absurd ⟨before, by simpa using (breakOn_eq hb).symm⟩ hend
    | cons c after => exact he
  | @selfClosed a before tail beyond hb he ht hclosed hbeyond ih =>
    have hb' := breakOn_append hb post
    have he' := endsName_append_of_true he post
    simp only [List.append_assoc, List.cons_append] at hb' he'
    refine .selfClosed hb' he' ht hclosed (ih fun hsuf => hend (hsuf.trans ?_))
    exact ⟨before ++ '<' :: name ++ tail ++ ['>'], by simp [breakOn_eq hb]⟩

end Blanks

end Gloss.Comment
