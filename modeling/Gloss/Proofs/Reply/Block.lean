import Gloss.Generation.Reply
import Gloss.Proofs.Text.Lines
import Gloss.Proofs.Text.Search

/-!
# The block of a reply

What is taken out of a reply of a model (`extractBlock_transparent`). In a reply without
fences it is the first run of documentation lines (`FirstRun`), if one of them has a text
behind its slashes (`HasText`). Fenced parts without documentation, and whatever stands
between them, are passed over, and the first fenced part with documentation counts like a
reply of its own.

`fencedBody_part` is what the search does at one fenced part; the runs of backticks in front
of a fence make no difference, because they stay on the line of the fence.
-/

namespace Gloss.Generation

open Gloss.Text

/-! ## The search for a fenced part -/

theorem fencedBody_of_absent {text : List Char} (h : ¬ fence <:+: text) :
    fencedBody text = none := by
  rw [fencedBody]
  split
  · rfl
  · rename_i ho
    rw [breakOn_eq_none_iff.2 h] at ho
    cases ho

/-- A fence on the last line, or one that is not closed, ends the search. -/
theorem fencedBody_of_open {text lead behind : List Char}
    (ho : breakOn fence text = some (lead, behind))
    (h : ∀ line content, breakOn ['\n'] behind = some (line, content) →
      breakOn fence content = none) : fencedBody text = none := by
  rw [fencedBody]
  split
  · rfl
  · rename_i ho'
    cases ho.symm.trans ho'
    split
    · rfl
    · rename_i line content hl
      split
      · rfl
      · rename_i hc
        cases (h line content hl).symm.trans hc

/-- One round of the search: a fence, the rest of its line, and the next fence. -/
theorem fencedBody_of_closed {text lead behind line content body rest : List Char}
    (ho : breakOn fence text = some (lead, behind))
    (hl : breakOn ['\n'] behind = some (line, content))
    (hc : breakOn fence content = some (body, rest)) :
    fencedBody text =
      if occursIn docMarker.toList body then some body else fencedBody rest := by
  rw [fencedBody]
  split
  · rename_i ho'
    cases ho.symm.trans ho'
  · rename_i ho'
    cases ho.symm.trans ho'
    split
    · rename_i hl'
      cases hl.symm.trans hl'
    · rename_i hl'
      cases hl.symm.trans hl'
      split
      · rename_i hc'
        cases hc.symm.trans hc'
      · rename_i hc'
        cases hc.symm.trans hc'
        rfl

/-! ## Replies with fenced parts -/

/-- A fenced part of a reply with the prose in front of it. -/
structure FencedPart where
  prose : List Char
  /-- What stands on the line of the opening fence. -/
  info : List Char
  body : List Char
  prose_plain : ¬ fence <:+: prose
  info_line : '\n' ∉ info
  body_plain : ¬ fence <:+: body
  body_ends : body.getLast? = some '\n'

/-- The text of a fenced part. -/
def FencedPart.text (part : FencedPart) : List Char :=
  part.prose ++ fence ++ part.info ++ '\n' :: part.body ++ fence

/-- The fence that is found first may start in the prose, but ends on the same line. -/
theorem FencedPart.breakOn_text (part : FencedPart) (rest : List Char) :
    ∃ lead line, breakOn fence (part.text ++ rest) =
        some (lead, line ++ '\n' :: (part.body ++ fence ++ rest)) ∧ '\n' ∉ line := by
  obtain ⟨after, hafter⟩ : ∃ after, after = part.info ++ '\n' :: (part.body ++ fence ++ rest) :=
    ⟨_, rfl⟩
  have htext : part.text ++ rest = part.prose ++ fence ++ after := by
    rw [hafter]
    simp [FencedPart.text]
  rw [htext]
  cases hb : breakOn fence (part.prose ++ fence ++ after) with
  | none => exact absurd (List.infix_append _ _ _) (breakOn_eq_none_iff.1 hb)
  | some found =>
    obtain ⟨lead, behind⟩ := found
    have hle := breakOn_length_le hb rfl
    have heq : part.prose ++ (fence ++ after) = lead ++ fence ++ behind := by
      rw [← List.append_assoc]
      exact breakOn_eq hb
    rcases List.append_eq_append_iff.1 heq with ⟨w, hw, hafter'⟩ | ⟨w, hw, -⟩
    · -- The fence that is found takes `w` of the opening fence.
      have hlen := congrArg List.length hw
      simp only [List.length_append] at hlen
      obtain ⟨w', hw'⟩ : w <+: fence :=
        List.prefix_of_prefix_length_le ⟨behind, hafter'.symm⟩ ⟨after, rfl⟩ (by omega)
      have hbehind : w' ++ after = behind := by
        rw [← hw', List.append_assoc] at hafter'
        exact List.append_cancel_left hafter'
      refine ⟨lead, w' ++ part.info, by rw [← hbehind, hafter]; simp, fun hm => ?_⟩
      rcases List.mem_append.1 hm with hm | hm
      · have hmem : '\n' ∈ fence := hw' ▸ List.mem_append_right w hm
        exact absurd hmem (by decide)
      · exact part.info_line hm
    · -- Otherwise the prose would hold a fence.
      exact absurd ⟨lead, w, hw.symm⟩ part.prose_plain

/-- A text that ends in a line feed and has no fence is passed over up to the next fence. -/
theorem FencedPart.breakOn_body (part : FencedPart) (rest : List Char) :
    breakOn fence (part.body ++ fence ++ rest) = some (part.body, rest) := by
  obtain ⟨init, hinit⟩ := List.getLast?_eq_some_iff.1 part.body_ends
  have hplain : ¬ fence <:+: init := by
    intro h
    have hbody := part.body_plain
    rw [hinit] at hbody
    exact hbody (h.trans (List.prefix_append init ['\n']).isInfix)
  have hstart : breakOn fence (fence ++ rest) = some ([], rest) :=
    breakOn_cons_of_starts rfl
  rw [hinit, List.append_assoc, List.append_assoc, List.singleton_append,
    breakOn_append_cons (by decide) hplain, hstart]
  simp

/-- The search stops at a fenced part with documentation and passes over any other. -/
theorem fencedBody_part (part : FencedPart) (rest : List Char) :
    fencedBody (part.text ++ rest) =
      if occursIn docMarker.toList part.body then some part.body else fencedBody rest := by
  obtain ⟨lead, line, ho, hline⟩ := part.breakOn_text rest
  exact fencedBody_of_closed ho (breakOn_singleton hline _) (part.breakOn_body rest)

theorem fencedBody_parts {skipped : List FencedPart}
    (h : ∀ part ∈ skipped, ¬ docMarker.toList <:+: part.body) (rest : List Char) :
    fencedBody (skipped.flatMap FencedPart.text ++ rest) = fencedBody rest := by
  induction skipped with
  | nil => rfl
  | cons part skipped ih =>
    have hpart := occursIn_eq_false_iff.2 (h part List.mem_cons_self)
    rw [List.flatMap_cons, List.append_assoc, fencedBody_part, hpart]
    exact ih fun p hp => h p (List.mem_cons_of_mem part hp)

/-- What is in a fenced part without further fences counts like a reply of its own. -/
theorem extractBlock_of_fencedBody {text body : List Char} (h : fencedBody text = some body)
    (hplain : ¬ fence <:+: body) :
    extractBlock (String.ofList text) = extractBlock (String.ofList body) := by
  simp only [extractBlock, String.toList_ofList, h, fencedBody_of_absent hplain,
    Option.getD_some, Option.getD_none]

/-! ## Replies without fences -/

/-- A line has a text behind the slashes that it starts with. -/
def HasText (line : List Char) : Prop :=
  ∃ slashes rest, line = slashes ++ rest ∧ (∀ c ∈ slashes, c = '/') ∧ rest.head? ≠ some '/' ∧
    ∃ c ∈ rest, isBlank c = false

/-- The first of the longest runs of documentation lines among some lines. -/
inductive FirstRun : List (List Char) → List (List Char) → Prop where
  | intro (before run after : List (List Char))
      (hbefore : ∀ l ∈ before, ¬ docMarker.toList <+: l) (hne : run ≠ [])
      (hrun : ∀ l ∈ run, docMarker.toList <+: l)
      (hafter : ∀ l, after.head? = some l → ¬ docMarker.toList <+: l) :
      FirstRun (before ++ run ++ after) run

theorem isDocLine_iff {l : List Char} : isDocLine l = true ↔ docMarker.toList <+: l :=
  List.isPrefixOf_iff_prefix

theorem not_isDocLine_iff {l : List Char} :
    (!isDocLine l) = true ↔ ¬ docMarker.toList <+: l := by
  rw [← isDocLine_iff, Bool.not_eq_true, Bool.not_eq_true']

theorem hasContent_iff {l : List Char} : hasContent l = true ↔ HasText l := by
  have hnot : ∀ cs, (!isBlankText cs) = true ↔ ∃ c ∈ cs, isBlank c = false := by
    simp [isBlankText]
  rw [hasContent, hnot]
  constructor
  · intro h
    refine ⟨l.takeWhile (· == '/'), l.dropWhile (· == '/'), ?_, ?_, ?_, h⟩
    · exact List.takeWhile_append_dropWhile.symm
    · intro c hc
      simpa using List.all_eq_true.1 List.all_takeWhile c hc
    · intro hhead
      have := List.head?_dropWhile_not (· == '/') l
      rw [hhead] at this
      simp at this
  · rintro ⟨slashes, rest, rfl, hslashes, hhead, h⟩
    have hdrop : (slashes ++ rest).dropWhile (· == '/') = rest := by
      rw [List.dropWhile_append_of_pos (by simpa using hslashes)]
      cases rest with
      | nil => rfl
      | cons c rest => exact List.dropWhile_cons_of_neg (by simpa using hhead)
    rw [hdrop]
    exact h

/-- The run that is taken is the first. -/
theorem firstRun_iff {ls run : List (List Char)} :
    FirstRun ls run ↔
      (ls.dropWhile fun l => !isDocLine l).takeWhile isDocLine = run ∧ run ≠ [] := by
  constructor
  · rintro ⟨before, run, after, hbefore, hne, hrun, hafter⟩
    refine ⟨?_, hne⟩
    have hskip : ∀ l ∈ before, (!isDocLine l) = true := fun l hl =>
      not_isDocLine_iff.2 (hbefore l hl)
    have hstart : (run ++ after).dropWhile (fun l => !isDocLine l) = run ++ after := by
      obtain ⟨l, ls, rfl⟩ := List.exists_cons_of_ne_nil hne
      exact List.dropWhile_cons_of_neg (by simpa [isDocLine_iff] using hrun l List.mem_cons_self)
    have hend : after.takeWhile isDocLine = [] := by
      cases after with
      | nil => rfl
      | cons l after =>
        exact List.takeWhile_cons_of_neg (by simpa [isDocLine_iff] using hafter l rfl)
    rw [List.append_assoc, List.dropWhile_append_of_pos hskip, hstart,
      List.takeWhile_append_of_pos fun l hl => isDocLine_iff.2 (hrun l hl), hend, List.append_nil]
  · rintro ⟨rfl, hne⟩
    obtain ⟨rest, hrest⟩ : ∃ rest, rest = ls.dropWhile fun l => !isDocLine l := ⟨_, rfl⟩
    rw [← hrest] at hne ⊢
    have hsplit : ls = ls.takeWhile (fun l => !isDocLine l) ++ rest.takeWhile isDocLine ++
        rest.dropWhile isDocLine := by
      rw [List.append_assoc, List.takeWhile_append_dropWhile, hrest,
        List.takeWhile_append_dropWhile]
    rw [hsplit]
    refine .intro _ _ _ ?_ hne ?_ ?_
    · intro l hl
      exact not_isDocLine_iff.1 (List.all_eq_true.1 List.all_takeWhile l hl)
    · intro l hl
      exact isDocLine_iff.1 (List.all_eq_true.1 List.all_takeWhile l hl)
    · intro l hl
      have hnot := List.head?_dropWhile_not isDocLine rest
      rw [hl] at hnot
      simpa [← isDocLine_iff] using hnot

/-- The block of a reply without fences. -/
theorem extractBlock_eq_some_iff {reply block : String} (h : ¬ fence <:+: reply.toList) :
    extractBlock reply = some block ↔
      ∃ run, FirstRun ((lines reply.toList).map trim) run ∧ (∃ l ∈ run, HasText l) ∧
        block = String.ofList (joinLines run) := by
  simp only [extractBlock, fencedBody_of_absent h, Option.getD_none, firstRun_iff]
  generalize (((lines reply.toList).map trim).dropWhile fun line => !isDocLine line).takeWhile
    isDocLine = run
  have hcontent : run.any hasContent = true ↔ ∃ l ∈ run, HasText l := by
    simp only [List.any_eq_true, hasContent_iff]
  constructor
  · intro heq
    split at heq
    · rename_i hany
      cases heq
      obtain ⟨l, hl, htext⟩ := hcontent.1 hany
      exact ⟨run, ⟨rfl, List.ne_nil_of_mem hl⟩, ⟨l, hl, htext⟩, rfl⟩
    · cases heq
  · rintro ⟨run', ⟨rfl, -⟩, htext, rfl⟩
    rw [if_pos (hcontent.2 htext)]

/-! ## Any reply -/

/-- Of a reply made of prose and fenced parts, the first part with documentation is taken,
whatever comes behind it, and of a reply without fences the first run of documentation
lines. -/
theorem extractBlock_transparent :
    (∀ (skipped : List FencedPart) (last : FencedPart) (tail : List Char),
      (∀ part ∈ skipped, ¬ docMarker.toList <:+: part.body) →
      docMarker.toList <:+: last.body →
      extractBlock (String.ofList ((skipped ++ [last]).flatMap FencedPart.text ++ tail)) =
        extractBlock (String.ofList last.body)) ∧
    ∀ reply block : String, ¬ fence <:+: reply.toList →
      (extractBlock reply = some block ↔
        ∃ run, FirstRun ((lines reply.toList).map trim) run ∧ (∃ l ∈ run, HasText l) ∧
          block = String.ofList (joinLines run)) := by
  refine ⟨fun skipped last tail hskipped hlast => ?_, fun reply block h =>
    extractBlock_eq_some_iff h⟩
  refine extractBlock_of_fencedBody ?_ last.body_plain
  rw [List.flatMap_append, List.append_assoc, fencedBody_parts hskipped, List.flatMap_singleton,
    fencedBody_part, occursIn_iff.2 hlast]
  rfl

/-- Backticks of the prose run into both fences, and the reply without fences ends its lines
in two ways. -/
theorem extractBlock_transparent_backticks :
    let skipped : FencedPart :=
      ⟨"Not /// this``".toList, "text".toList, "// a\n".toList,
        occursIn_eq_false_iff.1 (by decide), by decide, occursIn_eq_false_iff.1 (by decide), rfl⟩
    let last : FencedPart :=
      ⟨"`but\n".toList, "cs ```".toList, "\n  /// b\n/// \nvoid C();\n".toList,
        occursIn_eq_false_iff.1 (by decide), by decide, occursIn_eq_false_iff.1 (by decide), rfl⟩
    extractBlock (String.ofList ([skipped, last].flatMap FencedPart.text ++ "``/// d".toList)) =
        some "/// b\n///" ∧
      extractBlock "So:\r\n\t/// e\r\n/// f \n/ g" = some "/// e\n/// f" := by
  intro skipped last
  constructor
  · have hskipped : ∀ part ∈ [skipped], ¬ docMarker.toList <:+: part.body := by
      intro part hpart
      rw [List.mem_singleton.1 hpart]
      exact occursIn_eq_false_iff.1 (by decide)
    have hlast : docMarker.toList <:+: last.body := occursIn_iff.1 (by decide)
    have hbody : extractBlock (String.ofList last.body) = some "/// b\n///" := by decide +kernel
    exact (extractBlock_transparent.1 [skipped] last "``/// d".toList hskipped hlast).trans hbody
  · refine (extractBlock_transparent.2 _ _ (occursIn_eq_false_iff.1 (by decide))).2
      ⟨["/// e".toList, "/// f".toList], ?_, ?_, by decide⟩
    · have hlines : (lines "So:\r\n\t/// e\r\n/// f \n/ g".toList).map trim =
          ["So:".toList] ++ ["/// e".toList, "/// f".toList] ++ ["/ g".toList] := by decide
      rw [hlines]
      exact .intro _ _ _ (by simp [docMarker]) (by simp) (by simp [docMarker]) (by simp [docMarker])
    · exact ⟨_, List.mem_cons_self, "///".toList, " e".toList, rfl, by simp, by decide,
        'e', by decide, by decide⟩

/-- A line of nothing but slashes and blanks is a block if a blank stands in front of one of
its slashes. -/
theorem extractBlock_spaced_slashes :
    ¬ ∀ reply : String, ¬ fence <:+: reply.toList →
      (∀ run, FirstRun ((lines reply.toList).map trim) run →
        ∀ l ∈ run, ∀ c ∈ l, c = '/' ∨ isBlank c = true) → extractBlock reply = none := by
  intro h
  have hblock : extractBlock "/// /" = some "/// /" := by decide +kernel
  have hnone : extractBlock "/// /" = none := by
    refine h "/// /" (occursIn_eq_false_iff.1 (by decide)) fun run hrun l hl c hc => ?_
    have hlines : (lines "/// /".toList).map trim = ["/// /".toList] := by decide
    rw [hlines, firstRun_iff] at hrun
    have hrun' : run = ["/// /".toList] := hrun.1.symm.trans (by decide)
    rw [hrun', List.mem_singleton] at hl
    rw [hl] at hc
    have hall : "/// /".toList.all (fun c => c == '/' || isBlank c) = true := by decide
    simpa using List.all_eq_true.1 hall c hc
  rw [hblock] at hnone
  cases hnone

end Gloss.Generation
