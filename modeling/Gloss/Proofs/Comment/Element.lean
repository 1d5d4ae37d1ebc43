import Gloss.Comment.Read
import Gloss.Proofs.Text.Search

/-!
# Elements, whatever follows them

An element is read from its opening tag through the closing tag that balances
it, and what follows has no part in it: `nextOpening_retail`,
`findClosing_retail` and `readElement_retail` replace the text behind. The
opening tag that `nextOpening` looks for starts before the closing tag that was
found and so ends inside the text through that closing tag, which is why it is
also not found when the text behind changes (`nextOpening_none_retail`).
-/

namespace Gloss.Comment

open Gloss.Text

theorem endsName_append {cs : List Char} (h : cs ≠ []) (more more' : List Char) :
    endsName (cs ++ more) = endsName (cs ++ more') := by
  cases cs with
  | nil => exact absurd rfl h
  | cons c cs => rfl

theorem endsName_append_of_true {cs : List Char} (h : endsName cs = true) (more : List Char) :
    endsName (cs ++ more) = true := by
  cases cs with
  | nil => cases h
  | cons c cs => exact h

/-! ## Opening tags -/

/-- An opening tag that was found, taken apart. -/
theorem nextOpening_cases {name rest through beyond : List Char} {limit : Nat} {closed : Bool}
    (h : nextOpening name limit rest = some (through, closed, beyond)) :
    ∃ before tail, breakOn ('<' :: name) rest = some (before, tail ++ '>' :: beyond) ∧
      before.length < limit ∧ endsName (tail ++ '>' :: beyond) = true ∧
      breakOn ['>'] (tail ++ '>' :: beyond) = some (tail, beyond) ∧
      through = before ++ '<' :: name ++ tail ++ ['>'] ∧
      closed = (('<' :: name ++ tail).getLast? == some '/') := by
  unfold nextOpening at h
  split at h
  · cases h
  · rename_i before after hb
    split at h
    · rename_i hcond
      simp only [Bool.and_eq_true, decide_eq_true_eq] at hcond
      obtain ⟨⟨tail, b⟩, ht, heq⟩ := Option.map_eq_some_iff.1 h
      simp only [Prod.mk.injEq] at heq
      obtain ⟨rfl, rfl, rfl⟩ := heq
      have hafter : after = tail ++ '>' :: b := by simpa using breakOn_eq ht
      rw [hafter] at hb ht hcond
      exact ⟨before, tail, hb, hcond.1, hcond.2, ht, rfl, rfl⟩
    · cases h

/-- An opening tag is found where all that it needs stands. -/
theorem nextOpening_of_breakOn {name rest before tail beyond : List Char} {limit : Nat}
    (hb : breakOn ('<' :: name) rest = some (before, tail ++ '>' :: beyond))
    (hlt : before.length < limit) (he : endsName (tail ++ '>' :: beyond) = true)
    (ht : '>' ∉ tail) :
    nextOpening name limit rest =
      some (before ++ '<' :: name ++ tail ++ ['>'],
        ('<' :: name ++ tail).getLast? == some '/', beyond) := by
  rw [nextOpening, hb]
  simp [hlt, he, breakOn_singleton ht]

theorem nextOpening_retail {name rest through beyond : List Char} {limit : Nat} {closed : Bool}
    (h : nextOpening name limit rest = some (through, closed, beyond)) (beyond' : List Char) :
    nextOpening name limit (through ++ beyond') = some (through, closed, beyond') := by
  obtain ⟨before, tail, hb, hlt, he, ht, rfl, rfl⟩ := nextOpening_cases h
  have hb' := breakOn_retail hb (tail ++ '>' :: beyond')
  have he' : endsName (tail ++ '>' :: beyond') = true := by
    have hne : tail ++ ['>'] ≠ [] := by simp
    simpa [he] using endsName_append hne beyond' beyond
  have := nextOpening_of_breakOn hb' hlt he' (not_mem_of_breakOn ht)
  simpa using this

/-- Where no opening tag comes before a closing tag, none comes whatever follows
the closing tag. -/
theorem nextOpening_none_retail {name before after : List Char}
    (h : nextOpening name before.length (before ++ closingTag name ++ after) = none)
    (after' : List Char) :
    nextOpening name before.length (before ++ closingTag name ++ after') = none := by
  cases ho : nextOpening name before.length (before ++ closingTag name ++ after') with
  | none => rfl
  | some found =>
    obtain ⟨through, closed, beyond⟩ := found
    obtain ⟨b, tail, hb, hlt, he, ht, -, -⟩ := nextOpening_cases ho
    -- The name of the opening tag ends before the closing bracket of the closing tag.
    have hle : b.length + ('<' :: name).length ≤ (before ++ '<' :: '/' :: name).length := by
      simp only [List.length_cons, List.length_append]
      omega
    have hsplit : ∀ t, before ++ closingTag name ++ t =
        before ++ '<' :: '/' :: name ++ '>' :: t := by
      simp [closingTag]
    obtain ⟨x, hx, hbx⟩ := breakOn_of_length_le hb (hsplit after') hle ('>' :: after)
    rw [hsplit] at h
    have hlong : ∃ y, y ≠ [] ∧ x = y ++ '>' :: after := by
      have hlen := congrArg List.length hx
      simp only [List.length_append, List.length_cons] at hlen hle
      have hsuf : '>' :: after <:+ x := by
        refine List.suffix_of_suffix_length_le ⟨_, rfl⟩ ⟨b ++ '<' :: name, hx.symm⟩ ?_
        simp only [List.length_cons]
        omega
      obtain ⟨y, hy⟩ := hsuf
      refine ⟨y, ?_, hy.symm⟩
      rintro rfl
      rw [← hy] at hlen
      simp only [List.nil_append, List.length_cons] at hlen
      omega
    obtain ⟨y, hy, rfl⟩ := hlong
    -- Both texts go on with `y`, so the name ends in the one as in the other.
    have hy' : tail ++ '>' :: beyond = y ++ '>' :: after' := by
      have h1 := breakOn_eq hb
      rw [hsplit] at h1
      have h2 : before ++ '<' :: '/' :: name = b ++ '<' :: name ++ y := by
        have := hx
        simp only [← List.append_assoc] at this
        exact (List.append_inj' this (by simp)).1
      rw [h2] at h1
      simp only [List.append_assoc] at h1
      simpa using (List.append_cancel_left h1).symm
    have hey : endsName (y ++ '>' :: after) = true := by
      rw [endsName_append hy _ ('>' :: after'), ← hy']
      exact he
    have hmem : '>' ∈ y ++ '>' :: after := by simp
    obtain ⟨u, v, hu, huv⟩ := List.eq_append_cons_of_mem hmem
    rw [hu] at hbx hey
    rw [nextOpening_of_breakOn hbx hlt hey huv] at h
    cases h

/-! ## Closing tags -/

theorem findClosing_eq_of_opening {name rest through beyond before after : List Char}
    {depth : Nat} {closed : Bool} (hc : breakOn (closingTag name) rest = some (before, after))
    (ho : nextOpening name before.length rest = some (through, closed, beyond)) :
    findClosing name depth rest =
      (findClosing name (if closed then depth else depth + 1) beyond).map
        fun (content, tail) => (through ++ content, tail) := by
  rw [findClosing]
  split
  · rename_i hn
    rw [hc] at hn
    cases hn
  · rename_i b a hs
    rw [hc] at hs
    cases hs
    split
    · rename_i t c y ho'
      rw [ho] at ho'
      cases ho'
      rfl
    · rename_i ho'
      rw [ho] at ho'
      cases ho'

theorem findClosing_zero_of_none {name rest before after : List Char}
    (hc : breakOn (closingTag name) rest = some (before, after))
    (ho : nextOpening name before.length rest = none) :
    findClosing name 0 rest = some (before, after) := by
  rw [findClosing]
  split
  · rename_i hn
    rw [hc] at hn
    cases hn
  · rename_i b a hs
    rw [hc] at hs
    cases hs
    split
    · rename_i ho'
      rw [ho] at ho'
      cases ho'
    · rfl

theorem findClosing_succ_of_none {name rest before after : List Char} {depth : Nat}
    (hc : breakOn (closingTag name) rest = some (before, after))
    (ho : nextOpening name before.length rest = none) :
    findClosing name (depth + 1) rest =
      (findClosing name depth after).map
        fun (content, tail) => (before ++ closingTag name ++ content, tail) := by
  rw [findClosing]
  split
  · rename_i hn
    rw [hc] at hn
    cases hn
  · rename_i b a hs
    rw [hc] at hs
    cases hs
    split
    · rename_i ho'
      rw [ho] at ho'
      cases ho'
    · rfl

/-- An element is closed at the same place whatever follows it. -/
theorem findClosing_retail {name rest content tail : List Char} {depth : Nat}
    (h : findClosing name depth rest = some (content, tail)) (tail' : List Char) :
    findClosing name depth (content ++ closingTag name ++ tail') = some (content, tail') := by
  fun_induction findClosing name depth rest generalizing content with
  | case1 => cases h
  | case2 depth rest before after hc through closed beyond ho hlt ih =>
    obtain ⟨⟨c, t⟩, hf, heq⟩ := Option.map_eq_some_iff.1 h
    simp only [Prod.mk.injEq] at heq
    obtain ⟨rfl, rfl⟩ := heq
    have hrest : rest = through ++ c ++ closingTag name ++ t := by
      rw [(nextOpening_eq ho).1, findClosing_eq hf]
      simp
    -- The first closing tag lies no later than the one that balances.
    have hle : before.length + (closingTag name).length ≤
        (through ++ c ++ closingTag name).length := by
      have := breakOn_length_le hc hrest
      simp only [List.length_append] at this ⊢
      omega
    obtain ⟨after', -, hc'⟩ := breakOn_of_length_le hc hrest hle tail'
    have ho' := nextOpening_retail ho (c ++ closingTag name ++ tail')
    have hassoc : through ++ c ++ closingTag name ++ tail' =
        through ++ (c ++ closingTag name ++ tail') := by simp
    have hrec : findClosing name (if closed then depth else depth + 1)
        (c ++ closingTag name ++ tail') = some (c, tail') := ih hf
    rw [hassoc] at hc' ⊢
    rw [findClosing_eq_of_opening hc' ho', hrec]
    rfl
  | case3 rest before after hc ho hlt =>
    simp only [Option.some.injEq, Prod.mk.injEq] at h
    obtain ⟨rfl, rfl⟩ := h
    have ho' := ho
    rw [breakOn_eq hc] at ho'
    exact findClosing_zero_of_none (breakOn_retail hc tail') (nextOpening_none_retail ho' tail')
  | case4 rest before after hc ho hlt depth ih =>
    obtain ⟨⟨c, t⟩, hf, heq⟩ := Option.map_eq_some_iff.1 h
    simp only [Prod.mk.injEq] at heq
    obtain ⟨rfl, rfl⟩ := heq
    have ho' := ho
    rw [breakOn_eq hc] at ho'
    have hassoc : before ++ closingTag name ++ c ++ closingTag name ++ tail' =
        before ++ closingTag name ++ (c ++ closingTag name ++ tail') := by simp
    rw [hassoc, findClosing_succ_of_none (breakOn_retail hc _) (nextOpening_none_retail ho' _),
      ih hf]
    rfl

/-! ## Elements -/

theorem readElement_of_selfClosed {tag : List Char} (hgt : '>' ∉ tag)
    (hslash : tag.head? ≠ some '/') (hname : tagName tag ≠ []) (hclosed : tag.getLast? = some '/')
    (after : List Char) :
    readElement (tag ++ '>' :: after) =
      .ok (if tagName tag = "inheritdoc".toList then .inheritDoc
        else keepVerbatim ('<' :: tag ++ ['>']), after) := by
  rw [readElement, breakOn_singleton hgt]
  dsimp only
  rw [if_neg hslash, if_neg (by simpa using hname), if_pos hclosed]
  split <;> rfl

theorem readElement_of_closing {tag content after tail : List Char} {segment : Segment}
    (hgt : '>' ∉ tag) (hslash : tag.head? ≠ some '/') (hname : tagName tag ≠ [])
    (hopen : tag.getLast? ≠ some '/')
    (hf : findClosing (tagName tag) 0 after = some (content, tail))
    (hs : elementSegment tag (tagName tag) content = .ok segment) :
    readElement (tag ++ '>' :: after) = .ok (segment, tail) := by
  rw [readElement, breakOn_singleton hgt]
  dsimp only
  rw [if_neg hslash, if_neg (by simpa using hname), if_neg hopen, hf]
  simp only [hs]
  rfl

/-- What an element with a closing tag becomes. -/
theorem elementSegment_cases {tag name content : List Char} {segment : Segment}
    (h : elementSegment tag name content = .ok segment) :
    name = "summary".toList ∧ segment = .summary (normalizeText content) ∨
      name = "returns".toList ∧ segment = .returns (normalizeText content) ∨
      name = "param".toList ∧ (∃ value, nameAttribute tag = some value ∧
        segment = .param (String.ofList value) (normalizeText content)) ∨
      segment = .inheritDoc ∨
      segment = keepVerbatim ('<' :: tag ++ ['>'] ++ content ++ closingTag name) := by
  unfold elementSegment at h
  split at h
  · rename_i hname
    exact .inl ⟨hname, (Except.ok.inj h).symm⟩
  split at h
  · rename_i hname
    exact .inr (.inl ⟨hname, (Except.ok.inj h).symm⟩)
  split at h
  · rename_i hname
    split at h
    · rename_i value hvalue
      exact .inr (.inr (.inl ⟨hname, value, hvalue, (Except.ok.inj h).symm⟩))
    · cases h
  split at h
  · exact .inr (.inr (.inr (.inl (Except.ok.inj h).symm)))
  · exact .inr (.inr (.inr (.inr (Except.ok.inj h).symm)))

/-- An element that was read, taken apart: a tag that closes itself, or a tag with
a content and a closing tag. -/
theorem readElement_cases {rest tail : List Char} {segment : Segment}
    (h : readElement rest = .ok (segment, tail)) :
    ∃ tag after, rest = tag ++ '>' :: after ∧ '>' ∉ tag ∧ tag.head? ≠ some '/' ∧ tagName tag ≠ [] ∧
      (tag.getLast? = some '/' ∧ tail = after ∧
          segment = (if tagName tag = "inheritdoc".toList then .inheritDoc
            else keepVerbatim ('<' :: tag ++ ['>'])) ∨
        tag.getLast? ≠ some '/' ∧ ∃ content,
          findClosing (tagName tag) 0 after = some (content, tail) ∧
          elementSegment tag (tagName tag) content = .ok segment) := by
  unfold readElement at h
  split at h
  · cases h
  · rename_i tag after hb
    dsimp only at h
    split at h
    · cases h
    rename_i hslash
    split at h
    · cases h
    rename_i hname
    refine ⟨tag, after, by simpa using breakOn_eq hb, not_mem_of_breakOn hb, hslash,
      by simpa using hname, ?_⟩
    split at h
    · rename_i hclosed
      refine .inl ⟨hclosed, ?_⟩
      split at h <;> rename_i hinherit <;> cases h
      · rw [if_pos hinherit]
        exact ⟨rfl, rfl⟩
      · rw [if_neg hinherit]
        exact ⟨rfl, rfl⟩
    rename_i hopen
    refine .inr ⟨hopen, ?_⟩
    split at h
    · cases h
    · rename_i content t hf
      cases hs : elementSegment tag (tagName tag) content with
      | error e => rw [hs] at h; cases h
      | ok s =>
        rw [hs] at h
        cases h
        exact ⟨content, hf, hs⟩

/-- An element is read the same whatever follows it. -/
theorem readElement_retail {rest tail : List Char} {segment : Segment}
    (h : readElement rest = .ok (segment, tail)) :
    ∃ used, rest = used ++ tail ∧ used.getLast? = some '>' ∧
      ∀ tail', readElement (used ++ tail') = .ok (segment, tail') := by
  obtain ⟨tag, after, rfl, hgt, hslash, hname, h⟩ := readElement_cases h
  rcases h with ⟨hclosed, rfl, rfl⟩ | ⟨hopen, content, hf, hs⟩
  · refine ⟨tag ++ ['>'], by simp, by simp, fun tail' => ?_⟩
    rw [List.append_assoc]
    exact readElement_of_selfClosed hgt hslash hname hclosed tail'
  · refine ⟨tag ++ '>' :: (content ++ closingTag (tagName tag)), ?_, ?_, fun tail' => ?_⟩
    · rw [findClosing_eq hf]
      simp
    · simp [closingTag, List.getLast?_cons]
    · rw [List.append_assoc]
      exact readElement_of_closing hgt hslash hname hopen (findClosing_retail hf tail') hs

end Gloss.Comment
