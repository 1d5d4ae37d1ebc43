import Gloss.Proofs.Comment.Recover
import Gloss.Scan

/-!
# The last summary among broken lines

Recovery goes through the lines from the last to the first, and takes the first
documenting element it meets. Lines that open none are passed over
(`recoverLines_of_silent`), and what was found does not depend on the lines in
front of it (`recoverLines_append`). So a plain summary is given back as it was
written, whatever stands in front of it, if no element is opened behind it:
`recoverLines_last_summary`. A declaration with such lines needs no comment.
-/

namespace Gloss

open Gloss.Text Comment

/-- A line on which no documenting element starts. -/
structure Silent (line : String) : Prop where
  summary : occurs "<summary" line = false
  inheritDoc : occurs "<inheritdoc" line = false

/-! ## Going through lines -/

theorem recoverHere_of_silent {line : String} (h : Silent line) (rest : List String) :
    recoverHere (line :: rest) = none := by
  have hlines : documentingLines (line :: rest) = none := by
    rw [documentingLines, if_neg (by simp [h.summary]), if_neg (by simp [h.inheritDoc])]
  rw [recoverHere, hlines]

theorem recoverLines_of_silent {docLines : List String} (h : ∀ line ∈ docLines, Silent line) :
    recoverLines docLines = none := by
  induction docLines with
  | nil => rfl
  | cons line rest ih =>
    rw [recoverLines, ih fun l hl => h l (List.mem_cons_of_mem line hl),
      recoverHere_of_silent (h line (by simp))]
    rfl

/-- Lines in front of what was found do not matter. -/
theorem recoverLines_append {docLines : List String} {comment : Comment}
    (h : recoverLines docLines = some comment) (before : List String) :
    recoverLines (before ++ docLines) = some comment := by
  induction before with
  | nil => exact h
  | cons line before ih => rw [List.cons_append, recoverLines, ih, Option.some_or]

/-! ## A plain summary -/

/-- A content without an angle bracket makes a silent line. -/
theorem silent_docLine {content : String} (h : Bare content) : Silent (docLine content) := by
  have habsent : ∀ p : List Char, '<' ∈ p → ' ' ∉ p → ¬ p <:+: ['/', '/', '/'] →
      ¬ p <:+: (docLine content).toList :=
    fun p hlt hspace hslash hin => h ((isInfix_docLine hspace hslash hin).subset hlt)
  exact ⟨occursIn_eq_false_iff.2 (habsent _ (by decide) (by decide) (by decide)),
    occursIn_eq_false_iff.2 (habsent _ (by decide) (by decide) (by decide))⟩

/-- Behind its first line, a plain summary is silent. -/
theorem silent_of_mem_summary {text : String} (h : Bare text) :
    ∀ line ∈ (linesOf text ++ ["</summary>"]).map docLine, Silent line := by
  intro line hline
  obtain ⟨content, hcontent, rfl⟩ := List.mem_map.1 hline
  rcases List.mem_append.1 hcontent with hcontent | hcontent
  · obtain ⟨l, hl, rfl⟩ := List.mem_map.1 hcontent
    refine silent_docLine fun hm => h ?_
    rw [String.toList_ofList] at hm
    exact (isInfix_of_mem_lines hl).subset hm
  · rw [List.mem_singleton.1 hcontent]
    exact ⟨by decide, by decide⟩

/-- A plain summary is read back from its lines. -/
theorem readLines_summary {text : String} (hbare : Bare text)
    (hnormal : normalizeText text.toList = text) :
    readLines (Comment.ofSummary text).renderLines = .ok (.ofSummary text) := by
  have hunmarked := unmarked_of_bare hbare
  have hend : ¬ '<' :: "summary".toList <:+ text.toList :=
    fun hin => hunmarked.opening hin.isInfix
  have hrereads := rereads_summary hnormal (.absent hunmarked.opening) hunmarked.closing hend
  have hspells : Spells (bodyOf [.summary text]) [.summary text] :=
    hrereads.spells_cons (.inl (head?_summary_body text)) (.blank rfl)
  exact readLines_eq_ok_iff.2 ⟨_, lineContents_renderLines _, hspells⟩

theorem recoverHere_plain {text : String} (hbare : Bare text)
    (hnormal : normalizeText text.toList = text) (after : List String) :
    recoverHere ((Comment.ofSummary text).renderLines ++ after) = some (.ofSummary text) := by
  have hlines : (Comment.ofSummary text).renderLines =
      (Segment.summary text).contents.map docLine := by
    simp [Comment.renderLines, Comment.ofSummary]
  have hdocumenting : documentingLines ((Comment.ofSummary text).renderLines ++ after) =
      some (Comment.ofSummary text).renderLines := by
    rw [hlines]
    exact documentingLines_summary (unmarked_of_bare hbare) after
  rw [recoverHere, hdocumenting]
  dsimp only
  rw [readLines_summary hbare hnormal]
  rfl

theorem recoverLines_plain {text : String} (hbare : Bare text)
    (hnormal : normalizeText text.toList = text) {after : List String}
    (hafter : ∀ line ∈ after, Silent line) :
    recoverLines ((Comment.ofSummary text).renderLines ++ after) = some (.ofSummary text) := by
  have hhere := recoverHere_plain hbare hnormal after
  have hcons : (Comment.ofSummary text).renderLines ++ after =
      docLine "<summary>" :: ((linesOf text ++ ["</summary>"]).map docLine ++ after) := by
    simp [Comment.renderLines, Comment.ofSummary, Segment.contents]
  have hrest : recoverLines ((linesOf text ++ ["</summary>"]).map docLine ++ after) = none := by
    refine recoverLines_of_silent fun line hline => ?_
    rcases List.mem_append.1 hline with hline | hline
    · exact silent_of_mem_summary hbare line hline
    · exact hafter line hline
  rw [hcons] at hhere ⊢
  rw [recoverLines, hrest, hhere, Option.none_or]

/-! ## Declarations -/

/-- Lines that do not read are not missed if something is recovered from them. -/
theorem documentation_of_recovered {d : Declaration} {fault : Fault}
    (hread : readLines d.docLines = .error fault)
    (h : (recoverLines d.docLines).isSome = true) : d.documentation = .recovered := by
  have hne : d.docLines.isEmpty = false := by
    cases hlines : d.docLines with
    | nil =>
      rw [hlines] at h
      cases h
    | cons line rest => rfl
  have hexisting : d.existingComment = .error fault := by
    rw [Declaration.existingComment, hne, if_neg (by simp), hread]
    rfl
  rw [Declaration.documentation, hexisting]
  exact if_pos h

/-- Behind any lines, and in front of lines that open no documenting element, a summary
with a plain text in normal form is what recovery finds. So a declaration with such lines,
if they do not read as a whole, is never asked to be documented. -/
theorem recoverLines_last_summary (before after : List String) {text : String}
    (hbare : Bare text) (hnormal : normalizeText text.toList = text)
    (hafter : ∀ line ∈ after, Silent line) :
    recoverLines (before ++ (Comment.ofSummary text).renderLines ++ after) =
      some (.ofSummary text) ∧
    ∀ (d : Declaration) (fault : Fault),
      d.docLines = before ++ (Comment.ofSummary text).renderLines ++ after →
      readLines d.docLines = .error fault →
      d.documentation = .recovered ∧ ∀ options, d.shouldDocument options = false := by
  have hrecovered : recoverLines (before ++ (Comment.ofSummary text).renderLines ++ after) =
      some (.ofSummary text) := by
    rw [List.append_assoc]
    exact recoverLines_append (recoverLines_plain hbare hnormal hafter) before
  refine ⟨hrecovered, fun d fault hlines hread => ?_⟩
  have hdocumentation : d.documentation = .recovered := by
    refine documentation_of_recovered hread ?_
    rw [hlines, hrecovered]
    rfl
  refine ⟨hdocumentation, fun options => ?_⟩
  rw [Declaration.shouldDocument, hdocumentation, Declaration.Documentation.isMissing,
    Bool.and_false]

theorem recoverLines_last_summary_unclosed :
    let before :=
      ["/// <remarks>Not closed, <summary>", "/// </summary></param>", "/// <inheritdoc"]
    let after := ["/// </summary>", "/// <param name=\"x\">"]
    let docLines := before ++ (Comment.ofSummary "Runs it.\n\nTwice.").renderLines ++ after
    let d : Declaration :=
      { kind := .method, name := "Run", leadingTrivia := docLines.map .docComment }
    (∀ line ∈ after, Silent line) ∧
      (∃ fault, readLines d.docLines = .error fault) ∧
      recoverLines docLines = some (.ofSummary "Runs it.\n\nTwice.") ∧
      d.isVisible {} = true ∧ d.shouldDocument {} = false := by
  intro before after docLines d
  have hafter : ∀ line ∈ after, Silent line :=
    List.forall_mem_cons.2 ⟨⟨by decide, by decide⟩,
      List.forall_mem_singleton.2 ⟨by decide, by decide⟩⟩
  obtain ⟨fault, hread⟩ : ∃ fault, readLines d.docLines = .error fault :=
    error_of_toOption (by decide +kernel)
  have hbare : Bare "Runs it.\n\nTwice." := by decide
  obtain ⟨hrecovered, hdeclared⟩ :=
    recoverLines_last_summary before after hbare (by decide +kernel) hafter
  exact ⟨hafter, ⟨fault, hread⟩, hrecovered, rfl,
    (hdeclared d fault (by decide +kernel) hread).2 {}⟩

end Gloss
