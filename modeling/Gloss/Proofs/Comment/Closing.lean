import Gloss.Proofs.Comment.Element

/-!
# Closing tags that balance

The closing tag of an element is the one at which its depth gets down to zero, when the text
is read tag by tag (`matchClosing`). `findClosing` goes from the next opening tag to the next
closing tag instead, and looks at the first place only that reads like an opening tag. If
that is the tag of another element, whose name begins with the same characters, it overlooks
the opening tags from there to the next closing tag (`Overlooks`).

So an element may be closed too early, but never too late, and it is closed at the right tag
exactly if nothing is overlooked (`findClosing_balances`). In a text without such other
elements nothing is.
-/

namespace Gloss.Comment

open Gloss.Text

/-! ## Counting tags -/

/-- The names of elements: they end in front of a slash and of the end of a tag. -/
structure IsName (name : List Char) : Prop where
  ne_nil : name ≠ []
  slash : '/' ∉ name
  bracket : '>' ∉ name

/-- The name in a tag is a name, if there is one. -/
theorem isName_tagName {tag : List Char} (htag : '>' ∉ tag) (hne : tagName tag ≠ []) :
    IsName (tagName tag) where
  ne_nil := hne
  slash hmem := by
    have hslash := List.all_eq_true.1 List.all_takeWhile _ hmem
    simp at hslash
  bracket hmem := htag ((List.takeWhile_sublist _).subset hmem)

/-- The tag at the start of a text that opens an element `name`, up to its `>`. -/
def openingTag? (name rest : List Char) : Option (List Char) :=
  if ('<' :: name).isPrefixOf rest && endsName (rest.drop (name.length + 1)) then
    (breakOn ['>'] rest).map Prod.fst
  else none

/-- The content of an element and the text behind its closing tag, with `depth` elements of
the same name open inside it. Tags are read from left to right. An opening tag counts unless
it ends in a slash. -/
def matchClosing (name : List Char) (depth : Nat) (rest : List Char) :
    Option (List Char × List Char) :=
  match rest with
  | [] => none
  | c :: cs =>
    if (closingTag name).isPrefixOf (c :: cs) then
      let after := (c :: cs).drop (closingTag name).length
      match depth with
      | 0 => some ([], after)
      | depth + 1 => (matchClosing name depth after).map (Prod.map (closingTag name ++ ·) id)
    else
      match openingTag? name (c :: cs) with
      | some tag =>
        (matchClosing name (if tag.getLast? = some '/' then depth else depth + 1)
          (cs.drop tag.length)).map (Prod.map (tag ++ ['>'] ++ ·) id)
      | none => (matchClosing name depth cs).map (Prod.map (c :: ·) id)
  termination_by rest.length
  decreasing_by
    all_goals
      simp only [List.length_drop, List.length_cons, List.length_append, closingTag]
      omega

/-- What a closing tag behind `before` does. -/
def closeAt (name : List Char) (depth : Nat) (before after : List Char) :
    Option (List Char × List Char) :=
  match depth with
  | 0 => some (before, after)
  | depth + 1 => (matchClosing name depth after).map (Prod.map (before ++ closingTag name ++ ·) id)

section

variable {name rest tag after : List Char} {depth : Nat}

theorem eq_of_first {c : Char} {x y x' y' : List Char} (h : x ++ c :: y = x' ++ c :: y')
    (hx : c ∉ x) (hx' : c ∉ x') : x = x' ∧ y = y' := by
  have heq := breakOn_singleton hx y
  rw [h, breakOn_singleton hx' y'] at heq
  simpa [eq_comm] using heq

theorem openingTag?_eq (h : openingTag? name rest = some tag) :
    '<' :: name <+: rest ∧ '>' ∉ tag ∧ ∃ beyond, rest = tag ++ ['>'] ++ beyond := by
  unfold openingTag? at h
  split at h
  · rename_i hstart
    obtain ⟨⟨t, beyond⟩, hb, rfl⟩ := Option.map_eq_some_iff.1 h
    rw [Bool.and_eq_true, List.isPrefixOf_iff_prefix] at hstart
    exact ⟨hstart.1, not_mem_of_breakOn hb, beyond, breakOn_eq hb⟩
  · cases h

theorem openingTag?_of_ends {tail beyond : List Char} (hname : '>' ∉ name) (htail : '>' ∉ tail)
    (hends : endsName (tail ++ '>' :: beyond) = true) :
    openingTag? name ('<' :: name ++ tail ++ '>' :: beyond) = some ('<' :: name ++ tail) := by
  have htag : '>' ∉ '<' :: name ++ tail := by simp [hname, htail]
  have hdrop : ('<' :: name ++ tail ++ '>' :: beyond).drop (name.length + 1) =
      tail ++ '>' :: beyond := by simp
  rw [openingTag?, breakOn_singleton htag, hdrop, hends, if_pos, Option.map_some]
  simp [List.isPrefixOf_iff_prefix]

/-- A closing tag ends the element, or one that is open inside it. -/
theorem matchClosing_closing (name : List Char) (depth : Nat) (after : List Char) :
    matchClosing name depth (closingTag name ++ after) = closeAt name depth [] after := by
  have hstart : (closingTag name).isPrefixOf (closingTag name ++ after) = true :=
    List.isPrefixOf_iff_prefix.2 ⟨after, rfl⟩
  have hdrop : (closingTag name ++ after).drop (closingTag name).length = after := List.drop_left
  cases hrest : closingTag name ++ after with
  | nil => cases hrest
  | cons c cs =>
    rw [hrest] at hstart hdrop
    rw [matchClosing, if_pos hstart, hdrop]
    cases depth with
    | zero => rfl
    | succ depth => rw [closeAt, List.nil_append]

theorem matchClosing_opening (depth : Nat) (hstart : ¬ closingTag name <+: tag ++ ['>'] ++ after)
    (htag : openingTag? name (tag ++ ['>'] ++ after) = some tag) :
    matchClosing name depth (tag ++ ['>'] ++ after) =
      (matchClosing name (if tag.getLast? = some '/' then depth else depth + 1) after).map
        (Prod.map (tag ++ ['>'] ++ ·) id) := by
  have hdrop : (tag ++ ['>'] ++ after).drop (tag.length + 1) = after := by simp
  cases hrest : tag ++ ['>'] ++ after with
  | nil => simp at hrest
  | cons c cs =>
    rw [hrest] at hstart htag hdrop
    rw [List.drop_succ_cons] at hdrop
    rw [matchClosing, if_neg fun h => hstart (List.isPrefixOf_iff_prefix.1 h), htag]
    simp only [hdrop]

theorem matchClosing_skip {c : Char} {cs : List Char} (hstart : ¬ closingTag name <+: c :: cs)
    (htag : openingTag? name (c :: cs) = none) :
    matchClosing name depth (c :: cs) =
      (matchClosing name depth cs).map (Prod.map (c :: ·) id) := by
  rw [matchClosing, if_neg fun h => hstart (List.isPrefixOf_iff_prefix.1 h), htag]

theorem closeAt_append (name : List Char) (depth : Nat) (x before after : List Char) :
    closeAt name depth (x ++ before) after =
      (closeAt name depth before after).map (Prod.map (x ++ ·) id) := by
  cases depth with
  | zero => rfl
  | succ depth =>
    rw [closeAt, closeAt, Option.map_map]
    congr 1
    funext found
    simp [Prod.map]

theorem matchClosing_eq_none (h : ¬ closingTag name <:+: rest) :
    matchClosing name depth rest = none := by
  induction hlen : rest.length using Nat.strongRecOn generalizing rest depth with
  | ind n ih =>
    cases rest with
    | nil => rw [matchClosing]
    | cons c cs =>
      have hstart : ¬ closingTag name <+: c :: cs := fun hstart => h hstart.isInfix
      cases htag : openingTag? name (c :: cs) with
      | none =>
        rw [matchClosing_skip hstart htag, ih cs.length (by simp [← hlen]) _ rfl, Option.map_none]
        exact fun hin => h (hin.trans (List.suffix_cons c cs).isInfix)
      | some tag =>
        obtain ⟨-, -, beyond, hrest⟩ := openingTag?_eq htag
        rw [hrest] at hstart htag hlen h ⊢
        have hshort : beyond.length < n := by
          simp only [← hlen, List.length_append, List.length_singleton]
          omega
        rw [matchClosing_opening depth hstart htag, ih beyond.length hshort _ rfl, Option.map_none]
        exact fun hin => h (hin.trans (List.suffix_append _ _).isInfix)

end

/-! ## Up to the next closing tag -/

/-- A tag that opens an element, and does not close it, starts in front of a position. -/
def OpensBefore (name : List Char) (limit : Nat) (rest : List Char) : Prop :=
  ∃ u v tag, rest = u ++ v ∧ u.length < limit ∧ openingTag? name v = some tag ∧
    tag.getLast? ≠ some '/'

section

variable {name rest before after tag : List Char} {depth limit : Nat}

theorem OpensBefore.prepend (h : OpensBefore name limit rest) (x : List Char) :
    OpensBefore name (x.length + limit) (x ++ rest) := by
  obtain ⟨u, v, tag, rfl, hlt, htag, hcounts⟩ := h
  refine ⟨x ++ u, v, tag, by rw [List.append_assoc], ?_, htag, hcounts⟩
  rw [List.length_append]
  omega

/-- Tags that end with the same `>` both count, or neither does. So a tag that counts does not
start inside one that does not. -/
theorem OpensBefore.of_tag {beyond : List Char} (htag : '>' ∉ tag)
    (hclosed : tag.getLast? = some '/')
    (h : OpensBefore name ((tag ++ ['>']).length + limit) (tag ++ ['>'] ++ beyond)) :
    OpensBefore name limit beyond := by
  obtain ⟨u, v, tag', hrest, hlt, htag', hcounts⟩ := h
  rcases List.append_eq_append_iff.1 hrest with ⟨e, rfl, rfl⟩ | ⟨e, hu, hv⟩
  · refine ⟨e, v, tag', rfl, ?_, htag', hcounts⟩
    rw [List.length_append] at hlt
    omega
  rcases List.eq_nil_or_concat e with rfl | ⟨e, c, rfl⟩
  · refine ⟨[], v, tag', hv.symm, ?_, htag', hcounts⟩
    rw [hu, List.append_nil] at hlt
    exact Nat.pos_of_lt_add_right hlt
  · -- The tag that counts starts inside the other one, and so ends with it.
    rw [List.concat_eq_append] at hu hv
    rw [← List.append_assoc] at hu
    obtain ⟨rfl, hc⟩ := List.append_inj' hu rfl
    obtain rfl := List.singleton_inj.1 hc
    obtain ⟨⟨more, hstart⟩, hfirst, beyond', rfl⟩ := openingTag?_eq htag'
    simp only [List.append_assoc, List.singleton_append] at hv hstart
    obtain ⟨rfl, -⟩ := eq_of_first hv hfirst fun hmem => htag (List.mem_append_right u hmem)
    have hne : tag' ≠ [] := by
      rintro rfl
      cases hstart
    rw [List.getLast?_append, List.getLast?_eq_some_getLast hne, Option.some_or] at hclosed
    exact absurd ((List.getLast?_eq_some_getLast hne).trans hclosed) hcounts

theorem OpensBefore.of_skip {c : Char} (hskip : openingTag? name (c :: rest) = none)
    (h : OpensBefore name (limit + 1) (c :: rest)) : OpensBefore name limit rest := by
  obtain ⟨u, v, tag, hrest, hlt, htag, hcounts⟩ := h
  cases u with
  | nil =>
    rw [List.nil_append] at hrest
    rw [hrest, htag] at hskip
    cases hskip
  | cons d u =>
    rw [List.cons_append] at hrest
    obtain ⟨rfl, rfl⟩ := List.cons.inj hrest
    exact ⟨u, v, tag, rfl, by simpa using hlt, htag, hcounts⟩

theorem breakOn_of_append {p y b a : List Char} (x : List Char)
    (h : breakOn p (x ++ y) = some (x ++ b, a)) : breakOn p y = some (b, a) := by
  induction x with
  | nil => exact h
  | cons c x ih =>
    rw [List.cons_append, List.cons_append, breakOn] at h
    split at h
    · cases h
    · obtain ⟨⟨b', a'⟩, hb, heq⟩ := Option.map_eq_some_iff.1 h
      simp only [Prod.mk.injEq, List.cons.injEq, true_and] at heq
      obtain ⟨rfl, rfl⟩ := heq
      exact ih hb

theorem not_starts_of_breakOn {p before after cs : List Char} {c : Char}
    (h : breakOn p (c :: cs) = some (c :: before, after)) : ¬ p <+: c :: cs := by
  rintro ⟨more, hmore⟩
  rw [breakOn_cons_of_starts hmore.symm] at h
  cases h

/-- How the reading gets to the closing tag behind `before`. Either no tag counts on the way, or
the tags that do leave it at least as deep behind the closing tag as it was. -/
def Passes (name : List Char) (depth : Nat) (rest before after : List Char) : Prop :=
  ¬ OpensBefore name before.length rest ∧
    matchClosing name depth rest = closeAt name depth before after ∨
  OpensBefore name before.length rest ∧ ∃ deeper, depth ≤ deeper ∧
    matchClosing name depth rest =
      (matchClosing name deeper after).map (Prod.map (before ++ closingTag name ++ ·) id)

theorem passes_nil (name : List Char) (depth : Nat) (after : List Char) :
    Passes name depth (closingTag name ++ after) [] after := by
  refine .inl ⟨?_, matchClosing_closing name depth after⟩
  rintro ⟨u, _, _, _, hlt, _⟩
  exact Nat.not_lt_zero _ hlt

theorem map_map_append (x y : List Char) (found : Option (List Char × List Char)) :
    (found.map (Prod.map (y ++ ·) id)).map (Prod.map (x ++ ·) id) =
      found.map (Prod.map (x ++ y ++ ·) id) := by
  cases found with
  | none => rfl
  | some found => simp [Prod.map]

theorem exists_of_map_append {x content tail : List Char} {found : Option (List Char × List Char)}
    (h : found.map (Prod.map (x ++ ·) id) = some (content, tail)) :
    ∃ inner, found = some (inner, tail) ∧ content = x ++ inner := by
  obtain ⟨⟨inner, t⟩, hfound, heq⟩ := Option.map_eq_some_iff.1 h
  obtain ⟨rfl, rfl⟩ := Prod.mk.inj heq
  exact ⟨inner, hfound, rfl⟩

/-- Text in front of which no tag counts is passed over. -/
theorem Passes.prepend (x : List Char) (h : Passes name depth rest before after)
    (hread : matchClosing name depth (x ++ rest) =
      (matchClosing name depth rest).map (Prod.map (x ++ ·) id))
    (hopens : OpensBefore name (x ++ before).length (x ++ rest) →
      OpensBefore name before.length rest) :
    Passes name depth (x ++ rest) (x ++ before) after := by
  rcases h with ⟨hnone, hclose⟩ | ⟨hsome, deeper, hle, hmore⟩
  · refine .inl ⟨fun h => hnone (hopens h), ?_⟩
    rw [hread, hclose, closeAt_append]
  · refine .inr ⟨?_, deeper, hle, ?_⟩
    · rw [List.length_append]
      exact hsome.prepend x
    · rw [hread, hmore, map_map_append, List.append_assoc x]

/-- Behind a tag that counts the reading is deeper by one, which the closing tag takes back. -/
theorem Passes.deeper (x : List Char) (h : Passes name (depth + 1) rest before after)
    (hread : matchClosing name depth (x ++ rest) =
      (matchClosing name (depth + 1) rest).map (Prod.map (x ++ ·) id))
    (hopens : OpensBefore name (x ++ before).length (x ++ rest)) :
    Passes name depth (x ++ rest) (x ++ before) after := by
  rcases h with ⟨-, hclose⟩ | ⟨-, deeper, hle, hmore⟩
  · refine .inr ⟨hopens, depth, Nat.le_refl depth, ?_⟩
    rw [hread, hclose, closeAt, map_map_append, List.append_assoc x]
  · refine .inr ⟨hopens, deeper, by omega, ?_⟩
    rw [hread, hmore, map_map_append, List.append_assoc x]

theorem opensBefore_of_tag (htag : openingTag? name rest = some tag)
    (hcounts : tag.getLast? ≠ some '/') (hlimit : 0 < limit) : OpensBefore name limit rest :=
  ⟨[], rest, tag, rfl, hlimit, htag, hcounts⟩

/-- A tag that ends in front of the closing tag. -/
theorem passes_over (h : ∀ depth, Passes name depth rest before after)
    (hstart : ¬ closingTag name <+: tag ++ ['>'] ++ rest)
    (htag : openingTag? name (tag ++ ['>'] ++ rest) = some tag) (depth : Nat) :
    Passes name depth (tag ++ ['>'] ++ rest) (tag ++ ['>'] ++ before) after := by
  have hread := matchClosing_opening depth hstart htag
  obtain ⟨-, hfirst, -⟩ := openingTag?_eq htag
  by_cases hclosed : tag.getLast? = some '/'
  · rw [if_pos hclosed] at hread
    refine (h depth).prepend _ hread fun hopens => ?_
    rw [List.length_append] at hopens
    exact hopens.of_tag hfirst hclosed
  · rw [if_neg hclosed] at hread
    refine (h (depth + 1)).deeper _ hread (opensBefore_of_tag htag hclosed ?_)
    simp only [List.length_append, List.length_singleton]
    omega

/-- A tag that goes on into the closing tag takes it in. It counts, for the closing tag does not
end in a slash. -/
theorem passes_into (hname : IsName name) (hbefore : before ≠ [])
    (hstart : ¬ closingTag name <+: before ++ '<' :: '/' :: name ++ ['>'] ++ after)
    (htag : openingTag? name (before ++ '<' :: '/' :: name ++ ['>'] ++ after) =
      some (before ++ '<' :: '/' :: name)) (depth : Nat) :
    Passes name depth (before ++ '<' :: '/' :: name ++ ['>'] ++ after) before after := by
  have hread := matchClosing_opening depth hstart htag
  have hlast : (before ++ '<' :: '/' :: name).getLast? = some (name.getLast hname.ne_nil) := by
    simp [List.getLast?_append, List.getLast?_cons, List.getLast?_eq_some_getLast hname.ne_nil]
  have hcounts : (before ++ '<' :: '/' :: name).getLast? ≠ some '/' := by
    rw [hlast]
    exact fun heq => hname.slash (Option.some.inj heq ▸ List.getLast_mem hname.ne_nil)
  rw [if_neg hcounts] at hread
  refine .inr ⟨opensBefore_of_tag htag hcounts (List.length_pos_iff.2 hbefore), depth + 1,
    Nat.le_succ depth, ?_⟩
  rw [hread, closingTag, List.append_assoc before]

/-- From any place the reading passes to the next closing tag. -/
theorem passes_of_breakOn (hname : IsName name)
    (hc : breakOn (closingTag name) rest = some (before, after)) (depth : Nat) :
    Passes name depth rest before after := by
  induction hlen : before.length using Nat.strongRecOn generalizing rest before depth with
  | ind n ih =>
    have hrest := breakOn_eq hc
    cases before with
    | nil =>
      rw [hrest]
      exact passes_nil name depth after
    | cons c before =>
      obtain ⟨cs, rfl⟩ : ∃ cs, rest = c :: cs := ⟨_, hrest⟩
      have hstart := not_starts_of_breakOn hc
      cases htag : openingTag? name (c :: cs) with
      | none =>
        have hpasses := ih before.length (by simp [← hlen]) (breakOn_of_append [c] hc) depth rfl
        exact hpasses.prepend [c] (matchClosing_skip hstart htag) (.of_skip htag)
      | some tag =>
        obtain ⟨-, hfirst, beyond, hbeyond⟩ := openingTag?_eq htag
        by_cases hin : '>' ∈ c :: before
        · obtain ⟨x, inner, hinner, hx⟩ := List.eq_append_cons_of_mem hin
          have hsplit : tag ++ '>' :: beyond = x ++ '>' :: (inner ++ closingTag name ++ after) := by
            simpa [hbeyond, hinner] using hrest
          obtain ⟨rfl, rfl⟩ := eq_of_first hsplit hfirst hx
          rw [List.append_cons] at hinner
          rw [hbeyond] at hstart htag hc ⊢
          rw [hinner] at hlen hc ⊢
          have hshort : inner.length < n := by
            rw [← hlen, List.length_append, List.length_append, List.length_singleton]
            omega
          have hpasses := fun depth => ih inner.length hshort (breakOn_of_append _ hc) depth rfl
          exact passes_over hpasses hstart htag depth
        · have hsplit :
              tag ++ '>' :: beyond = c :: before ++ '<' :: '/' :: name ++ '>' :: after := by
            simpa [hbeyond, closingTag] using hrest
          have hfree : '>' ∉ c :: before ++ '<' :: '/' :: name := by
            simpa [hname.bracket] using hin
          obtain ⟨rfl, rfl⟩ := eq_of_first hsplit hfirst hfree
          rw [hbeyond] at hstart htag ⊢
          exact passes_into hname (List.cons_ne_nil c before) hstart htag depth

/-- An element that is open inside another does not end it at the next closing tag. -/
theorem exists_behind (hname : IsName name)
    (hc : breakOn (closingTag name) rest = some (before, after)) {depth deeper : Nat}
    (hdeep : depth < deeper ∨ depth ≤ deeper ∧ OpensBefore name before.length rest) :
    ∃ deeper', depth ≤ deeper' ∧ matchClosing name deeper rest =
      (matchClosing name deeper' after).map (Prod.map (before ++ closingTag name ++ ·) id) := by
  rcases passes_of_breakOn hname hc deeper with ⟨hnone, hclose⟩ | ⟨-, deeper', hle, hmore⟩
  · have hlt := hdeep.resolve_right fun h => hnone h.2
    obtain ⟨d, rfl⟩ : ∃ d, deeper = d + 1 := ⟨deeper - 1, by omega⟩
    exact ⟨d, by omega, hclose⟩
  · exact ⟨deeper', by omega, hmore⟩

/-- The opening tag that `nextOpening` finds is the next one that is read. -/
theorem matchClosing_of_nextOpening {through beyond : List Char} {closed : Bool}
    (hname : IsName name) (hc : breakOn (closingTag name) rest = some (before, after))
    (ho : nextOpening name before.length rest = some (through, closed, beyond)) (depth : Nat) :
    matchClosing name depth rest =
      (matchClosing name (if closed then depth else depth + 1) beyond).map
        (Prod.map (through ++ ·) id) := by
  obtain ⟨b, tail, hb, hlt, hends, ht, rfl, rfl⟩ := nextOpening_cases ho
  have htail := not_mem_of_breakOn ht
  clear ho ht
  induction b generalizing rest before with
  | nil =>
    obtain ⟨c, before, rfl⟩ := List.exists_cons_of_ne_nil (List.length_pos_iff.1 hlt)
    have hrest : rest = '<' :: name ++ tail ++ ['>'] ++ beyond := by simpa using breakOn_eq hb
    have htag : openingTag? name rest = some ('<' :: name ++ tail) := by
      have := openingTag?_of_ends hname.bracket htail hends
      rwa [List.append_cons, ← hrest] at this
    have hstart : ¬ closingTag name <+: rest := by
      obtain ⟨cs, rfl⟩ : ∃ cs, rest = c :: cs := ⟨_, breakOn_eq hc⟩
      exact not_starts_of_breakOn hc
    rw [hrest] at hstart htag ⊢
    rw [matchClosing_opening depth hstart htag]
    simp only [beq_iff_eq, List.nil_append]
  | cons d b ih =>
    obtain ⟨c, before, rfl⟩ := List.exists_cons_of_ne_nil
      (List.length_pos_iff.1 (Nat.lt_of_le_of_lt (Nat.zero_le _) hlt))
    obtain ⟨cs, rfl⟩ : ∃ cs, rest = c :: cs := ⟨_, breakOn_eq hc⟩
    obtain ⟨rfl, -⟩ := List.cons.inj (breakOn_eq hb)
    have htag : openingTag? name (c :: cs) = none := by
      cases htag : openingTag? name (c :: cs) with
      | none => rfl
      | some tag => exact absurd (openingTag?_eq htag).1 (not_starts_of_breakOn hb)
    rw [matchClosing_skip (not_starts_of_breakOn hc) htag,
      ih (breakOn_of_append [c] hc) (breakOn_of_append [c] hb) (by simpa using hlt)]
    exact map_map_append [c] _ _

end

/-! ## Opening tags that are overlooked -/

/-- `findClosing` comes by an opening tag that counts without reading it, for it goes on to the
next closing tag from a place in front of it. -/
inductive Overlooks (name : List Char) : Nat → List Char → Prop where
  | here {depth : Nat} {rest before after : List Char}
      (hc : breakOn (closingTag name) rest = some (before, after))
      (ho : nextOpening name before.length rest = none)
      (h : OpensBefore name before.length rest) : Overlooks name depth rest
  | inside {depth : Nat} {rest before after through beyond : List Char} {closed : Bool}
      (hc : breakOn (closingTag name) rest = some (before, after))
      (ho : nextOpening name before.length rest = some (through, closed, beyond))
      (h : Overlooks name (if closed then depth else depth + 1) beyond) : Overlooks name depth rest
  | behind {depth : Nat} {rest before after : List Char}
      (hc : breakOn (closingTag name) rest = some (before, after))
      (ho : nextOpening name before.length rest = none)
      (h : Overlooks name depth after) : Overlooks name (depth + 1) rest

section

variable {name rest content tail : List Char} {depth deeper : Nat}

theorem length_lt_append_closing (name before inner : List Char) :
    before.length < (before ++ closingTag name ++ inner).length := by
  simp only [List.length_append, closingTag, List.length_cons]
  omega

theorem length_append_lt (x : List Char) {a b : List Char} (h : a.length < b.length) :
    (x ++ a).length < (x ++ b).length := by
  rw [List.length_append, List.length_append]
  omega

/-- Where `findClosing` finds no end, there is none, all the more for an element further out. -/
theorem matchClosing_of_findClosing_none (hname : IsName name)
    (h : findClosing name depth rest = none) (hle : depth ≤ deeper) :
    matchClosing name deeper rest = none := by
  fun_induction findClosing name depth rest generalizing deeper with
  | case1 depth rest hc => exact matchClosing_eq_none (breakOn_eq_none_iff.1 hc)
  | case2 depth rest before after hc through closed beyond ho hlt ih =>
    rw [matchClosing_of_nextOpening hname hc ho, ih (Option.map_eq_none_iff.1 h) ?_,
      Option.map_none]
    split <;> omega
  | case3 => cases h
  | case4 rest before after hc ho hlt depth ih =>
    obtain ⟨deeper', hle', hmore⟩ := exists_behind hname hc (.inl hle)
    rw [hmore, ih (Option.map_eq_none_iff.1 h) hle', Option.map_none]

/-- An element further out ends later. -/
theorem length_lt_of_deeper (hname : IsName name)
    (h : findClosing name depth rest = some (content, tail)) (hlt : depth < deeper)
    {content' tail' : List Char} (hm : matchClosing name deeper rest = some (content', tail')) :
    content.length < content'.length := by
  fun_induction findClosing name depth rest generalizing deeper content content' with
  | case1 => cases h
  | case2 depth rest before after hc through closed beyond ho hshort ih =>
    obtain ⟨inner, hinner, rfl⟩ := exists_of_map_append h
    rw [matchClosing_of_nextOpening hname hc ho] at hm
    obtain ⟨inner', hinner', rfl⟩ := exists_of_map_append hm
    exact length_append_lt through (ih hinner (by split <;> omega) hinner')
  | case3 rest before after hc ho hshort =>
    obtain ⟨rfl, rfl⟩ := Prod.mk.inj (Option.some.inj h)
    obtain ⟨deeper', -, hmore⟩ := exists_behind hname hc (.inl hlt)
    rw [hmore] at hm
    obtain ⟨inner', -, rfl⟩ := exists_of_map_append hm
    exact length_lt_append_closing name before inner'
  | case4 rest before after hc ho hshort depth ih =>
    obtain ⟨inner, hinner, rfl⟩ := exists_of_map_append h
    obtain ⟨deeper', hle, hmore⟩ := exists_behind hname hc (.inl hlt)
    rw [hmore] at hm
    obtain ⟨inner', hinner', rfl⟩ := exists_of_map_append hm
    exact length_append_lt _ (ih hinner hle hinner')

/-- Behind an opening tag that was overlooked the search is not as deep as the element is. -/
theorem length_lt_of_opensBefore (hname : IsName name) {before after : List Char}
    (hc : breakOn (closingTag name) rest = some (before, after))
    (ho : nextOpening name before.length rest = none)
    (hopens : OpensBefore name before.length rest)
    (h : findClosing name depth rest = some (content, tail)) {content' tail' : List Char}
    (hm : matchClosing name depth rest = some (content', tail')) :
    content.length < content'.length := by
  obtain ⟨deeper, hle, hmore⟩ := exists_behind hname hc (.inr ⟨Nat.le_refl depth, hopens⟩)
  rw [hmore] at hm
  obtain ⟨inner', hinner', rfl⟩ := exists_of_map_append hm
  cases depth with
  | zero =>
    rw [findClosing_zero_of_none hc ho] at h
    obtain ⟨rfl, rfl⟩ := Prod.mk.inj (Option.some.inj h)
    exact length_lt_append_closing name before inner'
  | succ depth =>
    rw [findClosing_succ_of_none hc ho] at h
    obtain ⟨inner, hinner, rfl⟩ := exists_of_map_append h
    exact length_append_lt _ (length_lt_of_deeper hname hinner hle hinner')

theorem Overlooks.length_lt (hover : Overlooks name depth rest) (hname : IsName name)
    (h : findClosing name depth rest = some (content, tail)) {content' tail' : List Char}
    (hm : matchClosing name depth rest = some (content', tail')) :
    content.length < content'.length := by
  induction hover generalizing content content' with
  | here hc ho hopens => exact length_lt_of_opensBefore hname hc ho hopens h hm
  | inside hc ho _ ih =>
    rw [findClosing_eq_of_opening hc ho] at h
    rw [matchClosing_of_nextOpening hname hc ho] at hm
    obtain ⟨inner, hinner, rfl⟩ := exists_of_map_append h
    obtain ⟨inner', hinner', rfl⟩ := exists_of_map_append hm
    exact length_append_lt _ (ih hinner hinner')
  | @behind depth rest before after hc ho _ ih =>
    rcases passes_of_breakOn hname hc (depth + 1) with ⟨-, hclose⟩ | ⟨hopens, -⟩
    · rw [hclose] at hm
      rw [findClosing_succ_of_none hc ho] at h
      obtain ⟨inner, hinner, rfl⟩ := exists_of_map_append h
      obtain ⟨inner', hinner', rfl⟩ := exists_of_map_append hm
      exact length_append_lt _ (ih hinner hinner')
    · exact length_lt_of_opensBefore hname hc ho hopens h hm

/-- Where nothing is overlooked the two agree. -/
theorem findClosing_of_not_overlooks (hname : IsName name) (hover : ¬ Overlooks name depth rest) :
    findClosing name depth rest = matchClosing name depth rest := by
  fun_induction findClosing name depth rest with
  | case1 depth rest hc => exact (matchClosing_eq_none (breakOn_eq_none_iff.1 hc)).symm
  | case2 depth rest before after hc through closed beyond ho hshort ih =>
    have hrec : findClosing name (if closed then depth else depth + 1) beyond =
        matchClosing name (if closed then depth else depth + 1) beyond :=
      ih fun h => hover (.inside hc ho h)
    rw [matchClosing_of_nextOpening hname hc ho, hrec]
    rfl
  | case3 rest before after hc ho hshort =>
    rcases passes_of_breakOn hname hc 0 with ⟨-, hclose⟩ | ⟨hopens, -⟩
    · exact hclose.symm
    · exact absurd (.here hc ho hopens) hover
  | case4 rest before after hc ho hshort depth ih =>
    rcases passes_of_breakOn hname hc (depth + 1) with ⟨-, hclose⟩ | ⟨hopens, -⟩
    · rw [hclose, closeAt, ih fun h => hover (.behind hc ho h)]
      rfl
    · exact absurd (.here hc ho hopens) hover

/-- An opening tag is passed by only behind the tag of an element with a longer name, which is
found in its place. -/
theorem exists_longer_name {limit : Nat} (hname : '>' ∉ name)
    (ho : nextOpening name limit rest = none) (hopens : OpensBefore name limit rest) :
    ∃ a c x, rest = a ++ '<' :: name ++ c :: x ∧ endsName (c :: x) = false := by
  obtain ⟨u, v, tag, hrest, hlt, htag, -⟩ := hopens
  obtain ⟨⟨more, rfl⟩, -, beyond, hmore⟩ := openingTag?_eq htag
  have hbracket : '>' ∈ more := by
    have hmem : '>' ∈ '<' :: name ++ more := hmore ▸ by simp
    simpa [hname] using hmem
  rw [← List.append_assoc] at hrest
  cases hb : breakOn ('<' :: name) rest with
  | none => exact absurd ⟨u, more, hrest.symm⟩ (breakOn_eq_none_iff.1 hb)
  | some found =>
    obtain ⟨b, x⟩ := found
    have hfirst : b.length < limit := Nat.lt_of_le_of_lt (breakOn_length_le hb hrest) hlt
    have heq := breakOn_eq hb
    have hsuffix : more <:+ x := by
      have hlen := congrArg List.length (hrest.symm.trans heq)
      have hle := breakOn_length_le hb hrest
      simp only [List.length_append] at hlen
      exact List.suffix_of_suffix_length_le ⟨_, hrest.symm⟩ ⟨_, heq.symm⟩ (by omega)
    obtain ⟨t, y, rfl, ht⟩ := List.eq_append_cons_of_mem (hsuffix.subset hbracket)
    cases hends : endsName (t ++ '>' :: y) with
    | true =>
      rw [nextOpening_of_breakOn hb hfirst hends ht] at ho
      cases ho
    | false =>
      obtain ⟨c, x, hx⟩ := List.exists_cons_of_ne_nil (List.append_ne_nil_of_right_ne_nil t
        (List.cons_ne_nil '>' y))
      exact ⟨b, c, x, hx ▸ heq, hx ▸ hends⟩

/-- What is overlooked comes behind the tag of an element with a longer name. -/
theorem Overlooks.longer_name (h : Overlooks name depth rest) (hname : '>' ∉ name) :
    ∃ a c x, rest = a ++ '<' :: name ++ c :: x ∧ endsName (c :: x) = false := by
  induction h with
  | here _ ho hopens => exact exists_longer_name hname ho hopens
  | @inside depth rest before after through beyond closed hc ho _ ih =>
    obtain ⟨a, c, x, hbeyond, hends⟩ := ih
    refine ⟨through ++ a, c, x, ?_, hends⟩
    rw [(nextOpening_eq ho).1, hbeyond]
    simp only [List.append_assoc]
  | @behind depth rest before after hc ho _ ih =>
    obtain ⟨a, c, x, hafter, hends⟩ := ih
    refine ⟨before ++ closingTag name ++ a, c, x, ?_, hends⟩
    rw [breakOn_eq hc, hafter]
    simp only [List.append_assoc]

end

/-- An element is closed at the tag that balances it if, and only if, no opening tag is
overlooked, and it is never closed at a later one. Where the name of the element stands behind
no `<` as a part of a longer name, nothing is overlooked. -/
theorem findClosing_balances {name : List Char} (hname : IsName name) (rest : List Char) :
    (findClosing name 0 rest = matchClosing name 0 rest ↔
      ∀ content tail, findClosing name 0 rest = some (content, tail) →
        ¬ Overlooks name 0 rest) ∧
    (∀ content tail, findClosing name 0 rest = some (content, tail) →
      rest = content ++ closingTag name ++ tail ∧
      ∀ content' tail', matchClosing name 0 rest = some (content', tail') →
        content.length ≤ content'.length) ∧
    ((∀ a c x, rest = a ++ '<' :: name ++ c :: x → endsName (c :: x) = true) →
      findClosing name 0 rest = matchClosing name 0 rest) := by
  refine ⟨⟨fun heq content tail h hover => ?_, fun h => ?_⟩, fun content tail h => ⟨?_, ?_⟩, ?_⟩
  · exact Nat.lt_irrefl _ (hover.length_lt hname h (heq ▸ h))
  · cases hfound : findClosing name 0 rest with
    | none => exact (matchClosing_of_findClosing_none hname hfound (Nat.le_refl 0)).symm
    | some found =>
      rw [← hfound]
      exact findClosing_of_not_overlooks hname (h found.1 found.2 hfound)
  · exact findClosing_eq h
  · intro content' tail' hm
    by_cases hover : Overlooks name 0 rest
    · exact Nat.le_of_lt (hover.length_lt hname h hm)
    · rw [findClosing_of_not_overlooks hname hover, hm] at h
      cases h
      exact Nat.le_refl _
  · intro hlonger
    refine findClosing_of_not_overlooks hname fun hover => ?_
    obtain ⟨a, c, x, hrest, hends⟩ := hover.longer_name hname.bracket
    rw [hlonger a c x hrest] at hends
    cases hends

theorem findClosing_balances_list :
    let name := tagName "list compact".toList
    let rest := "<list>a</list><listheader/></list>b</list>".toList
    findClosing name 0 rest = some ("<list>a</list><listheader/>".toList, "b</list>".toList) ∧
      findClosing name 0 rest = matchClosing name 0 rest ∧ ¬ Overlooks name 0 rest := by
  intro name rest
  have hfound : findClosing name 0 rest =
      some ("<list>a</list><listheader/>".toList, "b</list>".toList) := by decide +kernel
  have heq : findClosing name 0 rest = matchClosing name 0 rest := by decide +kernel
  have hname : IsName name := isName_tagName (by decide +kernel) (by decide +kernel)
  exact ⟨hfound, heq, (findClosing_balances hname rest).1.1 heq _ _ hfound⟩

/-- The header of a list hides the list that follows it. -/
theorem findClosing_listheader :
    let name := "list".toList
    let rest := "<listheader/><list>a</list>b</list>".toList
    findClosing name 0 rest = some ("<listheader/><list>a".toList, "b</list>".toList) ∧
      matchClosing name 0 rest = some ("<listheader/><list>a</list>b".toList, []) := by
  decide +kernel

end Gloss.Comment
