import Gloss.Proofs.Comment.RoundTrip
import Gloss.Proofs.Reply.Block

/-!
# Replies that are a bare comment

A reply all of whose lines are documentation lines (`IsBare`) needs no search: it is the
block. It is nevertheless searched for fences, wherever on a line they stand. A fence on one
line is not closed and makes no difference, but the part between fences on two lines counts
as fenced, and of the comment only this part is taken: `extractBlock_bare_iff`.
-/

namespace Gloss.Generation

open Gloss.Text

/-! ## Documentation lines -/

theorem docMarker_prefix_trim_iff {l : List Char} :
    docMarker.toList <+: trim l ↔
      ∃ pre rest, isBlankText pre = true ∧ l = pre ++ docMarker.toList ++ rest := by
  constructor
  · rintro ⟨rest, hrest⟩
    obtain ⟨pre, post, hl, hpre, -⟩ := trim_split l
    exact ⟨pre, rest ++ post, hpre, by rw [hl, ← hrest]; simp⟩
  · rintro ⟨pre, rest, hpre, rfl⟩
    have hslash : isBlank '/' = false := by decide
    have htrim : trim (pre ++ docMarker.toList ++ rest) = docMarker.toList ++ trimEnd rest := by
      rw [trim, List.append_assoc, trimStart_append_of_blank hpre]
      have hstart : trimStart (docMarker.toList ++ rest) = '/' :: '/' :: '/' :: rest :=
        trimStart_cons_of_not_blank hslash _
      rw [hstart, trimEnd_cons_of_not_blank hslash, trimEnd_cons_of_not_blank hslash,
        trimEnd_cons_of_not_blank hslash]
      rfl
    rw [htrim]
    exact List.prefix_append _ _

/-- What stands in front of a fence on a documentation line is a documentation line too. -/
theorem docLine_before_fence {l before after : List Char} (hdoc : docMarker.toList <+: trim l)
    (hb : breakOn fence l = some (before, after)) : docMarker.toList <+: trim before := by
  obtain ⟨pre, rest, hpre, hl⟩ := docMarker_prefix_trim_iff.1 hdoc
  have heq : before ++ (fence ++ after) = pre ++ docMarker.toList ++ rest := by
    rw [← hl, ← List.append_assoc]
    exact (breakOn_eq hb).symm
  have hbacktick : '\x60' ∉ pre ++ docMarker.toList := by
    intro hm
    rcases List.mem_append.1 hm with hm | hm
    · have := isBlankText_iff.1 hpre _ hm
      revert this
      decide
    · revert hm
      decide
  rcases List.append_eq_append_iff.1 heq with ⟨w, hw, hafter⟩ | ⟨w, hw, -⟩
  · cases w with
    | nil =>
      rw [List.append_nil] at hw
      exact docMarker_prefix_trim_iff.2 ⟨pre, [], hpre, by rw [hw, List.append_nil]⟩
    | cons c w =>
      obtain ⟨rfl, -⟩ := List.cons.inj hafter
      exact absurd (by rw [hw]; simp) hbacktick
  · exact docMarker_prefix_trim_iff.2 ⟨pre, w, hpre, hw⟩

/-- Lines that can be put together, and are documentation lines once trimmed. -/
def AreDocLines (ls : List (List Char)) : Prop :=
  ∀ l ∈ ls, '\n' ∉ l ∧ docMarker.toList <+: trim l

section

variable {ls : List (List Char)}

theorem AreDocLines.ne_nil (h : AreDocLines ls) : ∀ l ∈ ls, l ≠ [] := by
  rintro l hl rfl
  exact absurd (h [] hl).2 (by decide)

theorem AreDocLines.tail {l : List Char} (h : AreDocLines (l :: ls)) : AreDocLines ls :=
  fun x hx => h x (List.mem_cons_of_mem l hx)

/-- Up to blanks, joined lines are found again. -/
theorem AreDocLines.map_trim_lines (h : AreDocLines ls) :
    (lines (joinLines ls)).map trim = ls.map trim := by
  induction ls with
  | nil => rfl
  | cons l ls ih =>
    have hl := h l List.mem_cons_self
    cases hls : ls with
    | nil => rw [joinLines_singleton, lines_of_not_mem hl.1 (h.ne_nil l List.mem_cons_self)]
    | cons l' ls' =>
      obtain ⟨line, blanks, hlines, hline, hblanks⟩ := lines_append_feed hl.1 (joinLines ls)
      have htrim : trim line = trim l := by
        rw [hline]
        exact (@trim_append_of_blank [] blanks rfl line hblanks).symm
      rw [← hls, joinLines_cons_of_ne_nil l (by simp [hls]), hlines, List.map_cons, ih h.tail,
        htrim, List.map_cons]

/-- The block of a text that consists of documentation lines is made of all of them. -/
theorem AreDocLines.extractBlock_eq {text : String} (h : AreDocLines ls)
    (hbody : (fencedBody text.toList).getD text.toList = joinLines ls) :
    extractBlock text =
      if (ls.map trim).any hasContent then some (String.ofList (joinLines (ls.map trim)))
      else none := by
  have hall : ∀ l ∈ ls.map trim, isDocLine l = true := by
    intro l hl
    obtain ⟨x, hx, rfl⟩ := List.mem_map.1 hl
    exact isDocLine_iff.2 (h x hx).2
  have hdrop : (ls.map trim).dropWhile (fun line => !isDocLine line) = ls.map trim := by
    cases hls : ls.map trim with
    | nil => rfl
    | cons l more =>
      exact List.dropWhile_cons_of_neg (by simp [hall l (by rw [hls]; exact List.mem_cons_self)])
  have htake : (ls.map trim ++ []).takeWhile isDocLine = ls.map trim ++ [] :=
    List.takeWhile_append_of_pos hall
  rw [List.append_nil] at htake
  simp only [extractBlock, hbody, h.map_trim_lines, hdrop, htake]

/-- Joined documentation lines hold a documentation mark. -/
theorem AreDocLines.marked (h : AreDocLines ls) (hne : ls ≠ []) :
    occursIn docMarker.toList (joinLines ls) = true := by
  obtain ⟨l, more, rfl⟩ := List.exists_cons_of_ne_nil hne
  obtain ⟨pre, rest, -, hl⟩ := docMarker_prefix_trim_iff.1 (h l List.mem_cons_self).2
  rw [occursIn_iff, joinLines_cons, hl, List.append_assoc]
  exact List.infix_append _ _ _

/-- The trimmed lines are found again where they are put together. -/
theorem AreDocLines.lines_trimmed (h : AreDocLines ls) :
    lines (joinLines (ls.map trim)) = ls.map trim := by
  refine lines_joinLines (fun l hl => ?_) fun hlast => ?_
  · obtain ⟨x, hx, rfl⟩ := List.mem_map.1 hl
    exact isLine_of_trimEnd (not_mem_trim (h x hx).1) (trimEnd_trimEnd _)
  · obtain ⟨x, hx, hnil⟩ := List.mem_map.1 (List.mem_of_getLast? hlast)
    have hdoc := (h x hx).2
    rw [hnil] at hdoc
    exact absurd hdoc (by decide)

end

/-! ## Fences on the lines of a comment -/

/-- The first fence of joined lines stands on the first line that has one. -/
theorem breakOn_joinLines {before after : List (List Char)} {l b a : List Char}
    (hbefore : ∀ x ∈ before, ¬ fence <:+: x) (hl : breakOn fence l = some (b, a)) :
    breakOn fence (joinLines (before ++ l :: after)) =
      some (joinLines (before ++ [b]), a ++ after.flatMap ('\n' :: ·)) := by
  induction before with
  | nil =>
    rw [List.nil_append, joinLines_cons, breakOn_append hl, List.nil_append, joinLines_singleton]
  | cons x before ih =>
    have hfeed : '\n' ∉ fence := by decide
    rw [List.cons_append, joinLines_cons_of_ne_nil x (by simp),
      breakOn_append_cons hfeed (hbefore x List.mem_cons_self),
      ih fun y hy => hbefore y (List.mem_cons_of_mem x hy), List.cons_append,
      joinLines_cons_of_ne_nil x (by simp)]
    rfl

theorem breakOn_joinLines_of_absent {ls : List (List Char)} (h : ∀ l ∈ ls, ¬ fence <:+: l) :
    breakOn fence (joinLines ls) = none := by
  induction ls with
  | nil => rfl
  | cons l ls ih =>
    have hl := h l List.mem_cons_self
    cases hls : ls with
    | nil => rw [joinLines_singleton, breakOn_eq_none_iff.2 hl]
    | cons l' ls' =>
      have hfeed : '\n' ∉ fence := by decide
      rw [← hls, joinLines_cons_of_ne_nil l (by simp [hls]), breakOn_append_cons hfeed hl,
        ih fun x hx => h x (List.mem_cons_of_mem l hx)]
      rfl

/-- The text behind the first line feed, if the text goes on with further lines. -/
theorem breakOn_feed {a : List Char} (ha : '\n' ∉ a) (after : List (List Char)) :
    breakOn ['\n'] (a ++ after.flatMap ('\n' :: ·)) =
      if after = [] then none else some (a, joinLines after) := by
  cases after with
  | nil =>
    rw [List.flatMap_nil, List.append_nil, if_pos rfl, breakOn_eq_none_iff]
    exact fun h => ha (h.subset (by simp))
  | cons l after =>
    rw [if_neg (by simp), joinLines_cons, List.flatMap_cons, List.cons_append]
    exact breakOn_singleton ha _

/-- The first line with a fence, if there is one. -/
theorem first_fence (ls : List (List Char)) :
    ls.countP (occursIn fence) = 0 ∧ (∀ l ∈ ls, ¬ fence <:+: l) ∨
      ∃ before l after, ls = before ++ l :: after ∧ (∀ x ∈ before, ¬ fence <:+: x) ∧
        occursIn fence l = true ∧
        ls.countP (occursIn fence) = after.countP (occursIn fence) + 1 := by
  have hnot : ∀ {x : List Char}, ¬ occursIn fence x = true → ¬ fence <:+: x :=
    fun h hi => h (occursIn_iff.2 hi)
  cases hfind : ls.find? (occursIn fence) with
  | none =>
    have hnone := List.find?_eq_none.1 hfind
    exact .inl ⟨List.countP_eq_zero.2 hnone, fun l hl => hnot (hnone l hl)⟩
  | some l =>
    obtain ⟨hl, before, after, rfl, hbefore⟩ := List.find?_eq_some_iff_append.1 hfind
    have hbefore' : ∀ x ∈ before, ¬ occursIn fence x = true := by simpa using hbefore
    refine .inr ⟨before, l, after, rfl, fun x hx => hnot (hbefore' x hx), hl, ?_⟩
    rw [List.countP_append, List.countP_cons_of_pos hl, List.countP_eq_zero.2 hbefore',
      Nat.zero_add]

/-- Fences on at most one line close no part. -/
theorem fencedBody_joinLines_of_le {ls : List (List Char)} (hfeed : ∀ l ∈ ls, '\n' ∉ l)
    (h : ls.countP (occursIn fence) ≤ 1) : fencedBody (joinLines ls) = none := by
  rcases first_fence ls with ⟨-, hnone⟩ | ⟨before, l, after, rfl, hbefore, hl, hcount⟩
  · exact fencedBody_of_absent (breakOn_eq_none_iff.1 (breakOn_joinLines_of_absent hnone))
  · obtain ⟨⟨b, a⟩, hb⟩ := Option.isSome_iff_exists.1 hl
    have hafter : ∀ x ∈ after, ¬ fence <:+: x := by
      intro x hx hocc
      have := List.countP_pos_iff.2 ⟨x, hx, occursIn_iff.2 hocc⟩
      omega
    have ha : '\n' ∉ a := fun hm => hfeed l (by simp) (by rw [breakOn_eq hb]; simp [hm])
    refine fencedBody_of_open (breakOn_joinLines hbefore hb) fun line content hline => ?_
    rw [breakOn_feed ha] at hline
    split at hline
    · cases hline
    · cases hline
      exact breakOn_joinLines_of_absent hafter

/-- Between fences on two lines stands a fenced part: the lines between them and the start of
the second. -/
theorem fencedBody_joinLines_of_two {before mid after : List (List Char)} {f g b a : List Char}
    (h : AreDocLines (before ++ f :: (mid ++ g :: after)))
    (hbefore : ∀ x ∈ before, ¬ fence <:+: x) (hf : occursIn fence f = true)
    (hmid : ∀ x ∈ mid, ¬ fence <:+: x) (hg : breakOn fence g = some (b, a)) :
    AreDocLines (mid ++ [b]) ∧
      fencedBody (joinLines (before ++ f :: (mid ++ g :: after))) =
        some (joinLines (mid ++ [b])) := by
  obtain ⟨⟨b', a'⟩, hf⟩ := Option.isSome_iff_exists.1 hf
  have hfront : '\n' ∉ a' := fun hm => (h f (by simp)).1 (by rw [breakOn_eq hf]; simp [hm])
  have hdoc : AreDocLines (mid ++ [b]) := by
    intro x hx
    rcases List.mem_append.1 hx with hx | hx
    · exact h x (by simp [hx])
    · obtain ⟨hline, hmark⟩ := h g (by simp)
      rw [List.mem_singleton.1 hx]
      exact ⟨fun hm => hline (by rw [breakOn_eq hg]; simp [hm]), docLine_before_fence hmark hg⟩
  have hline := breakOn_feed hfront (mid ++ g :: after)
  rw [if_neg (by simp)] at hline
  refine ⟨hdoc, ?_⟩
  rw [fencedBody_of_closed (breakOn_joinLines hbefore hf) hline (breakOn_joinLines hmid hg),
    hdoc.marked (by simp)]
  rfl

/-! ## Bare comments -/

/-- Lines that are a comment and nothing else: each starts with the documentation mark once
trimmed, and one of them has a text. -/
structure IsBare (ls : List (List Char)) : Prop where
  docLines : AreDocLines ls
  text : ∃ l ∈ ls, ∃ c ∈ l, c ≠ '/' ∧ isBlank c = false

theorem hasContent_of_mem {l : List Char} {c : Char} (hc : c ∈ l) (hslash : c ≠ '/')
    (hblank : isBlank c = false) : hasContent (trim l) = true := by
  have htrim : c ∈ trim l := by
    obtain ⟨pre, post, hl, hpre, hpost⟩ := trim_split l
    rw [hl] at hc
    have hnot : ∀ {cs : List Char}, isBlankText cs = true → c ∉ cs := by
      intro cs hcs hm
      rw [isBlankText_iff.1 hcs c hm] at hblank
      cases hblank
    simpa [hnot hpre, hnot hpost] using hc
  have hrest : c ∈ (trim l).dropWhile (· == '/') := by
    rw [← List.takeWhile_append_dropWhile (p := (· == '/')) (l := trim l)] at htrim
    refine (List.mem_append.1 htrim).resolve_left fun hm => hslash ?_
    simpa using List.all_eq_true.1 List.all_takeWhile c hm
  rw [hasContent, Bool.not_eq_true', ← Bool.not_eq_true, isBlankText_iff]
  intro hall
  rw [hall c hrest] at hblank
  cases hblank

theorem IsBare.any_hasContent {ls : List (List Char)} (h : IsBare ls) :
    (ls.map trim).any hasContent = true := by
  obtain ⟨l, hl, c, hc, hslash, hblank⟩ := h.text
  exact List.any_eq_true.2 ⟨_, List.mem_map_of_mem hl, hasContent_of_mem hc hslash hblank⟩

/-- A bare comment is taken whole unless two of its lines have fences. -/
theorem IsBare.extractBlock_iff {ls : List (List Char)} (h : IsBare ls) :
    extractBlock (String.ofList (joinLines ls)) =
        some (String.ofList (joinLines (ls.map trim))) ↔
      ls.countP (occursIn fence) ≤ 1 := by
  constructor
  · intro hwhole
    refine Nat.le_of_not_lt fun hlt => ?_
    obtain ⟨hzero, -⟩ | ⟨before, f, rest, rfl, hbefore, hf, hcount⟩ := first_fence ls
    · omega
    obtain ⟨hzero, -⟩ | ⟨mid, g, after, rfl, hmid, hg, -⟩ := first_fence rest
    · omega
    obtain ⟨⟨b, a⟩, hg⟩ := Option.isSome_iff_exists.1 hg
    obtain ⟨hdoc, hbody⟩ := fencedBody_joinLines_of_two h.docLines hbefore hf hmid hg
    rw [hdoc.extractBlock_eq (by rw [String.toList_ofList, hbody]; rfl)] at hwhole
    split at hwhole
    · -- The lines of the part are fewer than those of the comment.
      have hjoin := congrArg lines (String.ofList_injective (Option.some.inj hwhole))
      rw [hdoc.lines_trimmed, h.docLines.lines_trimmed] at hjoin
      have hlen := congrArg List.length hjoin
      simp only [List.length_map, List.length_append, List.length_cons, List.length_nil] at hlen
      omega
    · cases hwhole
  · intro hle
    have hnone := fencedBody_joinLines_of_le (fun l hl => (h.docLines l hl).1) hle
    rw [h.docLines.extractBlock_eq (by rw [String.toList_ofList, hnone]; rfl), if_pos h.any_hasContent]

/-! ## Comments -/

theorem trim_docLine {content : String} (htrim : trimEnd content.toList = content.toList) :
    trim (docLine content).toList = (docLine content).toList := by
  have hslash : isBlank '/' = false := by decide
  have hrest : trimEnd (if content.isEmpty then [] else ' ' :: content.toList) =
      if content.isEmpty then [] else ' ' :: content.toList := by
    by_cases he : content.isEmpty
    · rw [if_pos he]
      rfl
    · have hne : trimEnd content.toList ≠ [] := by
        rw [htrim]
        simpa using he
      rw [if_neg he]
      exact (trimEnd_append_of_ne_nil [' '] hne).trans (by rw [htrim]; rfl)
  rw [toList_docLine]
  refine trim_eq_self hslash ?_
  rw [trimEnd_cons_of_not_blank hslash, trimEnd_cons_of_not_blank hslash,
    trimEnd_cons_of_not_blank hslash, hrest]

/-- A comment that was read, and may be put in front of a declaration, is bare. -/
theorem isBare_of_read {block : String} {comment : Comment}
    (h : Comment.read block = .ok comment) (hinsertable : comment.validateInsertable = .ok ()) :
    IsBare (comment.renderLines.map String.toList) ∧
      (comment.renderLines.map String.toList).map trim = comment.renderLines.map String.toList := by
  have hcontents := contents_trimmed_of_read h (Comment.documents_of_insertable hinsertable).1
  have hlines : ∀ l ∈ comment.renderLines.map String.toList,
      '\n' ∉ l ∧ trim l = l ∧ docMarker.toList <+: l := by
    intro l hl
    obtain ⟨line, hline, rfl⟩ := List.mem_map.1 hl
    obtain ⟨content, hcontent, rfl⟩ := List.mem_map.1 hline
    obtain ⟨hfeed, htrim⟩ := hcontents content hcontent
    refine ⟨(@isLine_docLine [] (by simp) content hfeed htrim).1, trim_docLine htrim, ?_⟩
    rw [toList_docLine]
    exact List.prefix_append docMarker.toList _
  obtain ⟨line, hline, hlt⟩ := Comment.exists_tag_line hinsertable
  refine ⟨⟨fun l hl => ?_, _, List.mem_map_of_mem hline, '<', hlt, by decide, by decide⟩, ?_⟩
  · obtain ⟨hfeed, htrim, hdoc⟩ := hlines l hl
    exact ⟨hfeed, htrim.symm ▸ hdoc⟩
  · exact (List.map_congr_left fun l hl => (hlines l hl).2.1).trans (List.map_id' _)

theorem toString_eq_joinLines (comment : Comment) :
    toString comment = String.ofList (joinLines (comment.renderLines.map String.toList)) := by
  refine String.toList_injective ?_
  rw [String.toList_ofList]
  exact String.toList_intercalate

/-- A reply that is a bare comment is taken whole exactly if fences stand on at most one of
its lines. So is the text of a comment that was read. -/
theorem extractBlock_bare_iff (ls : List (List Char)) (block : String) (comment : Comment) :
    (IsBare ls →
      (extractBlock (String.ofList (joinLines ls)) =
          some (String.ofList (joinLines (ls.map trim))) ↔
        ls.countP (occursIn fence) ≤ 1)) ∧
    (Comment.read block = .ok comment → comment.validateInsertable = .ok () →
      (extractBlock (toString comment) = some (toString comment) ↔
        comment.renderLines.countP (fun line => occursIn fence line.toList) ≤ 1)) := by
  refine ⟨fun h => h.extractBlock_iff, fun h hinsertable => ?_⟩
  obtain ⟨hbare, htrim⟩ := isBare_of_read h hinsertable
  have hiff := hbare.extractBlock_iff
  rw [htrim, List.countP_map, ← toString_eq_joinLines] at hiff
  exact hiff

/-- One line with two fences is taken like any other. -/
theorem extractBlock_bare_inline :
    extractBlock "  /// Takes ```a``` \r\n///\n///// x" = some "/// Takes ```a```\n///\n///// x" ∧
      extractBlock (toString (⟨[.summary "Takes ```a```\nor b."]⟩ : Comment)) =
        some "/// <summary>\n/// Takes ```a```\n/// or b.\n/// </summary>" := by
  constructor
  · have hbare : IsBare ["  /// Takes ```a``` \r".toList, "///".toList, "///// x".toList] := by
      refine ⟨?_, "///// x".toList, by simp, 'x', by decide, by decide, by decide⟩
      intro l hl
      simp only [List.mem_cons, List.not_mem_nil, or_false] at hl
      rcases hl with rfl | rfl | rfl <;> decide
    exact (((extractBlock_bare_iff _ "" ⟨[]⟩).1 hbare).2 (by decide)).trans (by decide)
  · have hread : Comment.read "/// <summary> Takes ```a```\n/// or b.</summary>" =
        .ok ⟨[.summary "Takes ```a```\nor b."]⟩ :=
      ok_of_toOption (by decide +kernel)
    exact (((extractBlock_bare_iff [] _ _).2 hread rfl).2 (by decide +kernel)).trans
      (by decide +kernel)

/-- Of a comment with a code sample between fences, only the sample is taken. -/
theorem extractBlock_bare_sample :
    let comment : Comment := ⟨[.summary "```\nRun();\n```"]⟩
    Comment.read (toString comment) = .ok comment ∧ comment.validateInsertable = .ok () ∧
      extractBlock (toString comment) = some "/// Run();\n///" ∧
      extractBlock (toString comment) ≠ some (toString comment) :=
  ⟨ok_of_toOption (by decide +kernel), rfl, by decide +kernel, by decide +kernel⟩

end Gloss.Generation
