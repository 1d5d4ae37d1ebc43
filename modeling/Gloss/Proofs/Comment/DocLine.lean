import Gloss.Proofs.Comment.Grammar
import Gloss.Proofs.Text.Lines

/-!
# Documentation lines

What `docLine` writes, `lineContent` reads, up to blanks at the end and whatever
blanks stand in front (`lineContent_docLine`). Lines that go one after the other
are read as one body, with a line feed at the border: `readLines_append`.
-/

namespace Gloss

open Gloss.Text Comment

/-! ## Single lines -/

theorem toList_docLine (content : String) :
    (docLine content).toList =
      '/' :: '/' :: '/' :: (if content.isEmpty then [] else ' ' :: content.toList) := by
  unfold docLine docMarker
  split <;> simp

/-- A documentation line gives back its content, without the blanks at its end. -/
theorem lineContent_docLine {indent : List Char} (h : isBlankText indent = true)
    (content : String) :
    lineContent (String.ofList (indent ++ (docLine content).toList)) =
      .ok (trimEnd content.toList) := by
  rw [lineContent, String.toList_ofList, trimStart_append_of_blank h, toList_docLine]
  by_cases he : content.isEmpty
  · have : content.toList = [] := by simpa using he
    rw [if_pos he, this]
    rfl
  · simp [he, trimStart, dropPrefix?, docMarker, isBlank]

theorem trimEnd_of_lineContent {line : String} {content : List Char}
    (h : lineContent line = .ok content) : trimEnd content = content := by
  unfold lineContent at h
  dsimp only at h
  split at h
  · cases h
  · cases h
    exact trimEnd_trimEnd _
  · cases h
    exact trimEnd_trimEnd _

/-! ## Rows of lines -/

theorem lineContents_cons {line : String} {lines : List String} {contents : List (List Char)} :
    lineContents (line :: lines) = .ok contents ↔
      ∃ c cs, lineContent line = .ok c ∧ lineContents lines = .ok cs ∧ contents = c :: cs := by
  rw [lineContents]
  cases lineContent line with
  | error e => simp [bind, Except.bind]
  | ok c =>
    cases lineContents lines with
    | error e => simp [bind, Except.bind]
    | ok cs => simp [bind, Except.bind, pure, Except.pure, eq_comm]

theorem lineContents_append {as bs : List String} {contents : List (List Char)} :
    lineContents (as ++ bs) = .ok contents ↔
      ∃ xs ys, lineContents as = .ok xs ∧ lineContents bs = .ok ys ∧ contents = xs ++ ys := by
  induction as generalizing contents with
  | nil => simp [lineContents]
  | cons a as ih =>
    rw [List.cons_append, lineContents_cons]
    constructor
    · rintro ⟨c, cs, hc, hcs, rfl⟩
      obtain ⟨xs, ys, hxs, hys, rfl⟩ := ih.1 hcs
      exact ⟨c :: xs, ys, lineContents_cons.2 ⟨c, xs, hc, hxs, rfl⟩, hys, rfl⟩
    · rintro ⟨xs, ys, hxs, hys, rfl⟩
      obtain ⟨c, cs, hc, hcs, rfl⟩ := lineContents_cons.1 hxs
      exact ⟨c, cs ++ ys, hc, ih.2 ⟨cs, ys, hcs, hys, rfl⟩, rfl⟩

theorem trimEnd_of_lineContents {lines : List String} {contents : List (List Char)}
    (h : lineContents lines = .ok contents) : ∀ c ∈ contents, trimEnd c = c := by
  induction lines generalizing contents with
  | nil =>
    cases h
    simp
  | cons line lines ih =>
    obtain ⟨c, cs, hc, hcs, rfl⟩ := lineContents_cons.1 h
    simpa [trimEnd_of_lineContent hc] using ih hcs

theorem lineContents_map_docLine (contents : List String) :
    lineContents (contents.map docLine) = .ok (contents.map fun c => trimEnd c.toList) := by
  induction contents with
  | nil => rfl
  | cons c cs ih =>
    have hc := @lineContent_docLine [] rfl c
    rw [List.nil_append, String.ofList_toList] at hc
    exact lineContents_cons.2 ⟨_, _, hc, ih, rfl⟩

/-- The lines that a comment is written in are documentation lines. -/
theorem lineContents_renderLines (comment : Comment) :
    lineContents comment.renderLines =
      .ok ((comment.segments.flatMap Segment.contents).map fun c => trimEnd c.toList) :=
  lineContents_map_docLine _

/-- A comment that may be put in front of a declaration is well formed and documents it. -/
theorem Comment.documents_of_insertable {comment : Comment}
    (h : comment.validateInsertable = .ok ()) :
    comment.validate = .ok () ∧
      ∃ s ∈ comment.segments, s.isSummary = true ∨ s = .inheritDoc := by
  obtain ⟨⟨⟩, hvalid, hsays⟩ := ok_of_bind h
  refine ⟨hvalid, ?_⟩
  split at hsays
  · rename_i hor
    rcases Bool.or_eq_true_iff.1 hor with hsummary | hinherit
    · obtain ⟨s, hmem, hs⟩ := List.any_eq_true.1 hsummary
      exact ⟨s, hmem, .inl hs⟩
    · exact ⟨.inheritDoc, List.contains_iff_mem.1 hinherit, .inr rfl⟩
  · cases hsays

/-- One of its lines holds a tag. -/
theorem Comment.exists_tag_line {comment : Comment} (h : comment.validateInsertable = .ok ()) :
    ∃ line ∈ comment.renderLines, '<' ∈ line.toList := by
  have htag : ∀ s : Segment, s.isSummary = true ∨ s = .inheritDoc →
      ∃ content ∈ s.contents, '<' ∈ (docLine content).toList := by
    rintro s (hs | rfl)
    · cases s with
      | summary text => exact ⟨"<summary>", by simp [Segment.contents], by decide⟩
      | param | returns | inheritDoc | verbatim => cases hs
    · exact ⟨"<inheritdoc/>", by simp [Segment.contents], by decide⟩
  obtain ⟨-, s, hmem, hs⟩ := documents_of_insertable h
  obtain ⟨content, hcontent, hlt⟩ := htag s hs
  exact ⟨_, List.mem_map_of_mem (List.mem_flatMap.2 ⟨s, hmem, hcontent⟩), hlt⟩

theorem opens_joinLines (more : List Char) (ls : List (List Char)) :
    Opens (joinLines (('<' :: more) :: ls)) := by
  cases ls with
  | nil => exact joinLines_singleton _ ▸ opens_cons more
  | cons l ls =>
    rw [joinLines_cons_of_ne_nil _ (by simp)]
    exact opens_cons _

theorem readLines_of_lineContents {lines : List String} {contents : List (List Char)}
    (h : lineContents lines = .ok contents) :
    readLines lines = (readSegments (joinLines contents)).map Comment.mk := by
  rw [readLines, h]
  simp only [bind, Except.bind]
  cases readSegments (joinLines contents) <;> rfl

theorem readLines_eq_ok_iff {lines : List String} {comment : Comment} :
    readLines lines = .ok comment ↔
      ∃ contents, lineContents lines = .ok contents ∧
        Spells (joinLines contents) comment.segments := by
  constructor
  · intro h
    cases hc : lineContents lines with
    | error e =>
      rw [readLines, hc] at h
      cases h
    | ok contents =>
      rw [readLines_of_lineContents hc] at h
      obtain ⟨segments, hs, rfl⟩ := ok_of_map h
      exact ⟨contents, rfl, readSegments_eq_ok_iff.1 hs⟩
  · rintro ⟨contents, hc, hs⟩
    rw [readLines_of_lineContents hc, hs.readSegments_eq]
    rfl

/-- Lines that read as a comment may be followed by lines whose first content
opens with an element: both are read one after the other, and a fault of the
second is the fault of the whole. -/
theorem readLines_append {as bs : List String} {comment : Comment} {ys : List (List Char)}
    (ha : readLines as = .ok comment) (hb : lineContents bs = .ok ys)
    (hopens : Opens (joinLines ys)) :
    readLines (as ++ bs) =
      (readLines bs).map fun new => ⟨comment.segments ++ new.segments⟩ := by
  obtain ⟨xs, hxs, hspells⟩ := readLines_eq_ok_iff.1 ha
  have hjoin : readSegments (joinLines (xs ++ ys)) =
      (readSegments (joinLines ys)).map (comment.segments ++ ·) := by
    by_cases hx : xs = []
    · subst hx
      exact hspells.readSegments_append hopens
    by_cases hy : ys = []
    · subst hy
      simpa using hspells.readSegments_append hopens
    · have hfeed : isBlankText ['\n'] = true := rfl
      rw [joinLines_append hx hy, ← List.singleton_append,
        hspells.readSegments_append (hopens.append_blank hfeed), readSegments_append_of_blank hfeed]
  have hboth := lineContents_append.2 ⟨xs, ys, hxs, hb, rfl⟩
  rw [readLines_of_lineContents hboth, hjoin, readLines_of_lineContents hb]
  cases readSegments (joinLines ys) <;> rfl

end Gloss
