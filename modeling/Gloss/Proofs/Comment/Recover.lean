import Gloss.Proofs.Comment.Render
import Gloss.Proofs.Template

/-!
# Finding a written summary

A summary whose text is `Unmarked` is one chunk of the lines it is written in
(`chunk_summary`), and is recovered from them whatever lines stand around it
(`recoverLines_summary`).
-/

namespace Gloss

open Gloss.Text Comment

/-! ## Patterns in lines -/

theorem isInfix_of_mem_lines {cs l : List Char} (h : l ∈ lines cs) : l <:+: cs := by
  induction hn : cs.length using Nat.strongRecOn generalizing cs with
  | ind n ih =>
  by_cases hm : '\n' ∈ cs
  · obtain ⟨first, rest, rfl, hfirst⟩ := List.eq_append_cons_of_mem hm
    obtain ⟨l', r, hlines, rfl, -⟩ := lines_append_feed hfirst rest
    rw [hlines] at h
    rcases List.mem_cons.1 h with rfl | h
    · exact ⟨[], r ++ '\n' :: rest, by simp⟩
    · have hin := ih rest.length (by simp [← hn]; omega) h rfl
      exact hin.trans ⟨l' ++ r ++ ['\n'], [], by simp⟩
  · cases cs with
    | nil => cases h
    | cons c cs =>
      rw [lines_of_not_mem hm (by simp), List.mem_singleton] at h
      subst h
      exact List.infix_rfl

/-- A pattern without line feeds in a row of lines is in one of them. -/
theorem isInfix_of_flatMap {p : List Char} (hne : p ≠ []) (hfeed : '\n' ∉ p) {ls : List (List Char)}
    (h : p <:+: ls.flatMap (· ++ ['\n'])) : ∃ l ∈ ls, p <:+: l := by
  induction ls with
  | nil => exact absurd (List.infix_nil.1 h) hne
  | cons l ls ih =>
    rw [List.flatMap_cons, List.append_assoc, List.singleton_append] at h
    rcases infix_append_cons hfeed h with h | h
    · exact ⟨l, by simp, h⟩
    · obtain ⟨l', hl', hin⟩ := ih h
      exact ⟨l', List.mem_cons_of_mem l hl', hin⟩

theorem trimEnd_isInfix (cs : List Char) : trimEnd cs <:+: cs := by
  obtain ⟨post, hcs, -⟩ := trimEnd_split cs
  exact ⟨[], post, hcs.symm⟩

/-- A pattern between the tags of a summary is in its text. -/
theorem isInfix_of_summary {p : List Char} (hne : p ≠ []) (hfeed : '\n' ∉ p) {text : List Char}
    (h : p <:+: '\n' :: ((lines text).map trimEnd).flatMap (· ++ ['\n'])) : p <:+: text := by
  rcases infix_append_cons (u := []) hfeed h with h | h
  · exact absurd (List.infix_nil.1 h) hne
  · obtain ⟨l, hl, hin⟩ := isInfix_of_flatMap hne hfeed h
    obtain ⟨line, hline, rfl⟩ := List.mem_map.1 hl
    exact (hin.trans (trimEnd_isInfix line)).trans (isInfix_of_mem_lines hline)

/-! ## The lines of a summary -/

theorem chunk_summary {text : String} (h : Unmarked text) :
    ∃ read, Chunk (Segment.summary text).body (.summary read) := by
  refine ⟨normalizeText ('\n' :: ((lines text.toList).map trimEnd).flatMap (· ++ ['\n'])), ?_⟩
  rw [summary_body]
  refine chunk_of_passable (by decide) (by decide) (by decide) (by decide) (by decide) (by decide)
    (by decide) (.absent fun hin => h.opening ?_) (fun hin => h.closing ?_) ?_
  · exact isInfix_of_summary (by decide) (by decide) hin
  · exact isInfix_of_summary (by decide) (by decide) hin
  · rw [elementSegment, if_pos rfl]

theorem head?_summary_body (text : String) : (Segment.summary text).body.head? = some '<' := by
  rw [summary_body]
  rfl

theorem isInfix_docLine {p : List Char} (hspace : ' ' ∉ p) (hslash : ¬ p <:+: ['/', '/', '/'])
    {content : String} (h : p <:+: (docLine content).toList) : p <:+: content.toList := by
  rw [toList_docLine] at h
  split at h
  · exact absurd h hslash
  · rcases infix_append_cons (u := ['/', '/', '/']) hspace h with h | h
    · exact absurd h hslash
    · exact h

/-- The lines of a summary reach to the first that closes it. -/
theorem documentingLines_summary {text : String} (h : Unmarked text) (more : List String) :
    documentingLines ((Segment.summary text).contents.map docLine ++ more) =
      some ((Segment.summary text).contents.map docLine) := by
  have hbefore : ∀ l ∈ ("<summary>" :: linesOf text).map docLine,
      occurs "</summary>" l = false := by
    intro l hl
    obtain ⟨content, hcontent, rfl⟩ := List.mem_map.1 hl
    rcases List.mem_cons.1 hcontent with rfl | hcontent
    · decide
    · refine occursIn_eq_false_iff.2 fun hin => h.closing ?_
      obtain ⟨line, hline, rfl⟩ := List.mem_map.1 hcontent
      have hlines : (String.ofList line).toList ∈ lines text.toList := by
        rwa [String.toList_ofList]
      exact (isInfix_docLine (by decide) (by decide) hin).trans (isInfix_of_mem_lines hlines)
  have hlast : occurs "</summary>" (docLine "</summary>") = true := by decide
  have hsplit : (Segment.summary text).contents.map docLine =
      ("<summary>" :: linesOf text).map docLine ++ [docLine "</summary>"] := by
    simp [Segment.contents]
  have hfind :
      ((Segment.summary text).contents.map docLine ++ more).findIdx? (occurs "</summary>") =
        some (("<summary>" :: linesOf text).map docLine).length := by
    rw [hsplit, List.append_assoc, List.findIdx?_append, List.findIdx?_eq_none_iff.2 hbefore]
    simp [List.findIdx?_cons, hlast]
  have hopen : occurs "<summary" (docLine "<summary>") = true := by decide
  have hcons : (Segment.summary text).contents.map docLine ++ more =
      docLine "<summary>" :: ((linesOf text ++ ["</summary>"]).map docLine ++ more) := by
    simp [Segment.contents]
  rw [hcons, documentingLines, if_pos hopen, ← hcons, hfind, Option.map_some]
  congr 1
  have hlen : (("<summary>" :: linesOf text).map docLine).length + 1 =
      ((Segment.summary text).contents.map docLine).length := by simp [Segment.contents]
  rw [hlen, List.take_left]

theorem recoverHere_summary {text : String} (h : Unmarked text) (more : List String) :
    (recoverHere ((Segment.summary text).contents.map docLine ++ more)).isSome = true := by
  obtain ⟨read, hchunk⟩ := chunk_summary h
  have hspells : Spells (Segment.summary text).body [.summary read] := by
    have hnil : isBlankText [] = true := rfl
    have := Spells.chunk hnil hchunk (.inl (head?_summary_body text)) (.blank hnil)
    simpa using this
  have hread : readLines ((Segment.summary text).contents.map docLine) = .ok ⟨[.summary read]⟩ :=
    readLines_eq_ok_iff.2 ⟨_, lineContents_map_docLine _, hspells⟩
  rw [recoverHere, documentingLines_summary h more]
  dsimp only
  rw [hread]
  rfl

/-- A written summary is recovered from among any other lines. -/
theorem recoverLines_summary {text : String} (h : Unmarked text) (before more : List String) :
    (recoverLines (before ++ ((Segment.summary text).contents.map docLine ++ more))).isSome =
      true := by
  have hhere := recoverHere_summary h more
  induction before with
  | nil =>
    cases hlines : (Segment.summary text).contents.map docLine ++ more with
    | nil =>
      rw [hlines] at hhere
      cases hhere
    | cons line rest =>
      rw [hlines] at hhere
      simp [recoverLines, hhere]
  | cons line before ih => simp [recoverLines, ih]

end Gloss
