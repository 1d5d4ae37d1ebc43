import Gloss.Proofs.LineEndings
import Gloss.Proofs.Replace
import Gloss.Proofs.Source.Split

/-!
# Splitting the trivia of a patched declaration

Cutting the text in front of a declaration into trivia loses nothing, and a comment that is
put in there is found again as it was put in: cutting the new text, with the old comments
and the new lines as its comments, gives the trivia of the patched declaration
(`leadingTrivia_stable`).

The new trivia are those in front of the first new line, which are pieces of the old text
but for an indent (`splits_aligned`), and from there on lines, line breaks and blanks of
the longest kind (`Lined`), whose text is cut only where they were put together
(`splits_of_lined`).
-/

namespace Gloss

open Gloss.Text Gloss.Source

/-! ## Pieces -/

/-- A line break as one piece. -/
def IsLineBreak (text : String) : Prop :=
  text = "\r\n" ∨ ∃ c, isBreak c = true ∧ text = String.ofList [c]

/-- Blanks as one piece. -/
def IsBlanks (text : String) : Prop :=
  text.toList ≠ [] ∧ ∀ c ∈ text.toList, isSpacing c = true

section

variable {next : Option CommentSpan} {pos : Nat} {text rest : List Char} {piece : Trivia}

theorem Source.Takes.isLineBreak (h : Takes next pos text rest piece) {lineBreak : String}
    (hpiece : piece = .endOfLine lineBreak) : IsLineBreak lineBreak := by
  cases h with
  | comment | other =>
    rcases commentPiece_cases _ with hc | hc <;> rw [hc] at hpiece <;> cases hpiece
  | spacing => cases hpiece
  | lineBreak => exact .inl (Trivia.endOfLine.inj hpiece).symm
  | halfBreak _ h => exact .inr ⟨_, h, (Trivia.endOfLine.inj hpiece).symm⟩

theorem Source.Takes.isBlanks (h : Takes next pos text rest piece) {blanks : String}
    (hpiece : piece = .whitespace blanks) : IsBlanks blanks := by
  cases h with
  | comment | other =>
    rcases commentPiece_cases _ with hc | hc <;> rw [hc] at hpiece <;> cases hpiece
  | spacing _ hne h =>
    rw [IsBlanks, ← Trivia.whitespace.inj hpiece, String.toList_ofList]
    exact ⟨hne, h⟩
  | lineBreak | halfBreak => cases hpiece

theorem Source.Splits.takes_of_mem {comments : List CommentSpan} {region : List Char}
    {trivia : List Trivia} (h : Splits comments pos region trivia) (hmem : piece ∈ trivia) :
    ∃ next pos text rest, Takes next pos text rest piece := by
  induction h with
  | nil => cases hmem
  | cons h _ ih =>
    rcases List.mem_cons.1 hmem with rfl | hmem
    · exact ⟨_, _, _, _, h⟩
    · exact ih hmem

end

/-! ## Documentation lines among trivia -/

/-- The places of the documentation lines among trivia whose text starts at `pos`. -/
def docSpans (pos : Nat) : List Trivia → List CommentSpan
  | [] => []
  | piece :: pieces =>
    (piece.docLine?.map fun line => ⟨pos, pos + byteLength line.toList⟩).toList ++
      docSpans (pos + byteLength piece.text.toList) pieces

theorem Trivia.text_of_docLine? {piece : Trivia} {line : String} (h : piece.docLine? = some line) :
    piece.text = line := by
  cases piece with
  | docComment text => exact Option.some.inj h
  | whitespace | endOfLine | comment => cases h

theorem bounds_of_mem_docSpans {trivia : List Trivia} {pos : Nat} {s : CommentSpan}
    (h : s ∈ docSpans pos trivia) :
    pos ≤ s.start ∧ s.stop ≤ pos + byteLength (renderTrivia trivia).toList := by
  induction trivia generalizing pos with
  | nil => cases h
  | cons piece pieces ih =>
    rw [toList_renderTrivia_cons, byteLength_append]
    rcases List.mem_append.1 h with h | h
    · obtain ⟨line, hline, rfl⟩ := Option.map_eq_some_iff.1 (Option.mem_toList.1 h)
      rw [Trivia.text_of_docLine? hline]
      exact ⟨Nat.le_refl pos, by dsimp only; omega⟩
    · have := ih h
      omega

/-- The documentation lines stand at their places. -/
theorem slice_docSpans (a b : List Char) (trivia : List Trivia) :
    (docSpans (byteLength a) trivia).map (fun s =>
        slice s.start s.stop (a ++ ((renderTrivia trivia).toList ++ b))) =
      (trivia.filterMap Trivia.docLine?).map fun line => some line.toList := by
  induction trivia generalizing a with
  | nil => rfl
  | cons piece pieces ih =>
    have hrest := ih (a ++ piece.text.toList)
    rw [byteLength_append, List.append_assoc] at hrest
    rw [docSpans, List.map_append, toList_renderTrivia_cons, List.append_assoc, hrest]
    cases hline : piece.docLine? with
    | none => simp [hline]
    | some line =>
      have hslice := slice_append a line.toList ((renderTrivia pieces).toList ++ b)
      rw [byteLength_append] at hslice
      simp [hline, Trivia.text_of_docLine? hline, hslice]

/-! ## Trivia that are cut where they were put together -/

/-- Trivia whose text is cut into them again: documentation lines, line breaks that no line
feed follows, and blanks that no blanks follow. -/
inductive Lined : List Trivia → Prop where
  | nil : Lined []
  | line {content : String} {pieces : List Trivia}
      (hline : ∀ c ∈ (docLine content).toList, isBreak c = false) (hrest : Lined pieces) :
      Lined (.docComment (docLine content) :: pieces)
  | lineBreak {text : String} {pieces : List Trivia} (htext : IsLineBreak text)
      (hnext : (renderTrivia pieces).toList.head? ≠ some '\n') (hrest : Lined pieces) :
      Lined (.endOfLine text :: pieces)
  | blanks {text : String} {pieces : List Trivia} (htext : IsBlanks text)
      (hnext : ∀ c, (renderTrivia pieces).toList.head? = some c → isSpacing c = false)
      (hrest : Lined pieces) : Lined (.whitespace text :: pieces)

theorem head?_docLine (content : String) : (docLine content).toList.head? = some '/' := by
  rw [toList_docLine]
  rfl

theorem commentPiece_docLine (content : String) :
    commentPiece (docLine content).toList = .docComment (docLine content) := by
  rw [commentPiece, if_pos, String.ofList_toList]
  rw [toList_docLine]
  split <;> rfl

theorem free_of_docSpans (pos : Nat) {text : List Char} (hne : text ≠ []) (pieces : List Trivia) :
    ∀ s, nextComment (docSpans (pos + byteLength text) pieces) pos = some s → s.start ≠ pos := by
  intro s hs
  have hle := (bounds_of_mem_docSpans (nextComment_eq_some hs).1).1
  have hpos := byteLength_pos hne
  omega

theorem splits_of_lined {trivia : List Trivia} (h : Lined trivia) (pos : Nat) :
    Splits (docSpans pos trivia) pos (renderTrivia trivia).toList trivia := by
  induction h generalizing pos with
  | nil => exact .nil
  | @line content pieces hline hrest ih =>
    have hpos : 0 < byteLength (docLine content).toList :=
      byteLength_pos fun hnil => by simpa [hnil] using head?_docLine content
    have htakes : Takes (nextComment (docSpans pos (.docComment (docLine content) :: pieces)) pos)
        pos (docLine content).toList (renderTrivia pieces).toList
        (commentPiece (docLine content).toList) :=
      .comment (nextComment_of_head (Nat.le_refl pos)) rfl (by rw [List.append_nil])
        (head?_docLine content) (fun c hc => hline c (List.mem_of_getLast? hc))
        (fun c hc => absurd hc List.not_mem_nil) rfl
    rw [commentPiece_docLine] at htakes
    rw [toList_renderTrivia_cons]
    refine .cons htakes ((ih _).congr fun later hle => ?_)
    have hpassed : ¬ later ≤ pos := by
      have : pos + byteLength (docLine content).toList ≤ later := hle
      omega
    exact List.find?_cons_of_neg (by simpa using hpassed)
  | @lineBreak text pieces htext hnext hrest ih =>
    rw [toList_renderTrivia_cons]
    refine .cons ?_ (ih _)
    rcases htext with rfl | ⟨c, hc, rfl⟩
    · exact .lineBreak (free_of_docSpans _ (List.cons_ne_nil _ _) pieces)
    · rw [Trivia.text, String.toList_ofList]
      refine .halfBreak (free_of_docSpans _ ?_ pieces) hc fun _ => hnext
      simp [Trivia.text]
  | @blanks text pieces htext hnext hrest ih =>
    have htakes : Takes (nextComment (docSpans pos (.whitespace text :: pieces)) pos) pos
        text.toList (renderTrivia pieces).toList (.whitespace (String.ofList text.toList)) :=
      .spacing (free_of_docSpans _ htext.1 pieces) htext.1 htext.2 hnext
    rw [String.ofList_toList] at htakes
    rw [toList_renderTrivia_cons]
    exact .cons htakes (ih _)

/-! ## The lines of a comment -/

section

variable {lineBreak lead indent : String} {lines : List String} {pieces : List Trivia}

theorem lined_spacing {blanks : String} (hblanks : ∀ c ∈ blanks.toList, isSpacing c = true)
    (hnext : ∀ c, (renderTrivia pieces).toList.head? = some c → isSpacing c = false)
    (h : Lined pieces) : Lined (spacing blanks ++ pieces) := by
  unfold spacing
  split
  · exact h
  · rename_i hne
    exact .blanks ⟨by simpa using hne, hblanks⟩ hnext h

/-- Behind a line of a comment comes no line feed. -/
theorem head?_commentLines (lineBreak : String) (hlead : ∀ c ∈ lead.toList, isSpacing c = true)
    (hindent : ∀ c ∈ indent.toList, isSpacing c = true)
    (hlines : ∀ line ∈ lines, ∃ content, line = docLine content) :
    (renderTrivia (lines.flatMap (commentLine lineBreak indent) ++ spacing lead)).toList.head? ≠
      some '\n' := by
  have hspacing : ∀ {blanks : String}, (∀ c ∈ blanks.toList, isSpacing c = true) →
      blanks.toList.head? ≠ some '\n' := by
    intro blanks hblanks hhead
    cases hblanks _ (List.mem_of_head? hhead)
  rw [renderTrivia_append, renderTrivia_spacing, String.toList_append]
  cases lines with
  | nil => exact hspacing hlead
  | cons line lines =>
    obtain ⟨content, rfl⟩ := hlines line List.mem_cons_self
    rw [List.flatMap_cons, renderTrivia_append, renderTrivia_commentLine]
    simp only [String.toList_append, List.append_assoc, List.head?_append, head?_docLine,
      Option.some_or]
    cases hhead : indent.toList.head? with
    | none => simp
    | some c =>
      rw [Option.some_or, ← hhead]
      exact hspacing hindent

theorem lined_commentLines (hbreak : IsLineBreak lineBreak)
    (hlead : ∀ c ∈ lead.toList, isSpacing c = true)
    (hindent : ∀ c ∈ indent.toList, isSpacing c = true)
    (hlines : ∀ line ∈ lines, ∃ content, line = docLine content)
    (hunbroken : ∀ line ∈ lines, ∀ c ∈ line.toList, isBreak c = false) :
    Lined (lines.flatMap (commentLine lineBreak indent) ++ spacing lead) := by
  induction lines with
  | nil =>
    have hnil := lined_spacing hlead (fun c hc => by cases hc) Lined.nil
    rwa [List.append_nil] at hnil
  | cons line lines ih =>
    have hlines' : ∀ line ∈ lines, ∃ content, line = docLine content := fun line' hmem =>
      hlines line' (List.mem_cons_of_mem _ hmem)
    have hrest := ih hlines' fun line' hmem => hunbroken line' (List.mem_cons_of_mem _ hmem)
    have hhead := head?_commentLines lineBreak hlead hindent hlines'
    obtain ⟨content, rfl⟩ := hlines line List.mem_cons_self
    rw [List.flatMap_cons, commentLine, List.append_assoc, List.append_assoc]
    refine lined_spacing hindent (fun c hc => ?_)
      (.line (hunbroken _ List.mem_cons_self) (.lineBreak hbreak hhead hrest))
    rw [List.cons_append, toList_renderTrivia_cons, List.head?_append, Trivia.text, head?_docLine,
      Option.some_or] at hc
    obtain rfl := Option.some.inj hc
    rfl

end

/-! ## One comment -/

/-- The trivia that a comment adds behind the blanks in front of its first line. -/
def Declaration.insertedTrivia (d : Declaration) (comment : Comment) : List Trivia :=
  commentTrivia (lineBreakOf d.leadingTrivia) "" d.indent comment.renderLines ++
    spacing d.alignment

/-- The text in front of the first line of a comment that is put in. -/
def Declaration.aligned (d : Declaration) : List Char :=
  (renderTrivia (splitAlignment d.leadingTrivia).1 ++ d.alignment).toList

/-- The places of the lines of a comment that is put in. -/
def Declaration.insertedSpans (d : Declaration) (comment : Comment) : List CommentSpan :=
  docSpans (d.span.leadingStart + byteLength d.aligned) (d.insertedTrivia comment)

theorem insertComment_eq (d : Declaration) {comment : Comment} (hlines : comment.renderLines ≠ []) :
    insertComment d comment = (splitAlignment d.leadingTrivia).1 ++ spacing d.alignment ++
      d.insertedTrivia comment := by
  obtain ⟨first, rest, hlines⟩ := List.exists_cons_of_ne_nil hlines
  have heq : insertComment d comment = (splitAlignment d.leadingTrivia).1 ++
      commentTrivia (lineBreakOf d.leadingTrivia) d.alignment d.indent comment.renderLines ++
      spacing d.alignment := rfl
  have hnone : spacing "" = [] := rfl
  rw [heq, Declaration.insertedTrivia, hlines]
  simp only [commentTrivia, commentLine, hnone, List.nil_append, List.append_assoc]

theorem docLines_insertedTrivia (d : Declaration) (comment : Comment) :
    (d.insertedTrivia comment).filterMap Trivia.docLine? = comment.renderLines := by
  rw [Declaration.insertedTrivia, List.filterMap_append, docLines_commentTrivia, docLines_spacing,
    List.append_nil]

section

variable {d : Declaration} {old : List CommentSpan} {pos : Nat} {region : List Char}

/-- The trivia that is added starts with a line. -/
theorem lined_insertedTrivia {comment : Comment} (hlines : comment.renderLines ≠ [])
    (hunbroken : ∀ line ∈ comment.renderLines, ∀ c ∈ line.toList, isBreak c = false)
    (hbreak : IsLineBreak (lineBreakOf d.leadingTrivia))
    (halignment : ∀ c ∈ d.alignment.toList, isSpacing c = true)
    (hindent : ∀ c ∈ d.indent.toList, isSpacing c = true) :
    Lined (d.insertedTrivia comment) ∧
      ∃ content pieces, d.insertedTrivia comment = .docComment (docLine content) :: pieces := by
  have hdoc : ∀ line ∈ comment.renderLines, ∃ content, line = docLine content := by
    intro line hmem
    obtain ⟨content, -, rfl⟩ := List.mem_map.1 hmem
    exact ⟨content, rfl⟩
  rw [Declaration.insertedTrivia]
  obtain ⟨first, rest, heq⟩ := List.exists_cons_of_ne_nil hlines
  rw [heq] at hdoc hunbroken ⊢
  have hdoc' : ∀ line ∈ rest, ∃ content, line = docLine content := fun line hmem =>
    hdoc line (List.mem_cons_of_mem _ hmem)
  obtain ⟨content, rfl⟩ := hdoc first List.mem_cons_self
  have hrest := lined_commentLines hbreak halignment hindent hdoc' fun line hmem =>
    hunbroken line (List.mem_cons_of_mem _ hmem)
  have hhead := head?_commentLines (lineBreakOf d.leadingTrivia) halignment hindent hdoc'
  rw [commentTrivia, List.append_assoc]
  exact ⟨.line (hunbroken _ List.mem_cons_self) (.lineBreak hbreak hhead hrest), content, _, rfl⟩

theorem mem_linePrefix (a : List Char) {b : List Char} (h : '\n' ∉ b) {c : Char} (hc : c ∈ b) :
    c ∈ linePrefix (a ++ b) := by
  have hline : ∀ c ∈ b.reverse, (c != '\n') = true := fun c hc => by
    rw [bne_iff_ne]
    rintro rfl
    exact h (List.mem_reverse.1 hc)
  rw [linePrefix, List.reverse_append, List.takeWhile_append_of_pos hline, List.mem_reverse]
  exact List.mem_append_left _ (List.mem_reverse.2 hc)

theorem splitAlignment_cases (trivia : List Trivia) :
    (∃ before blanks, trivia = before ++ [.whitespace blanks] ∧
      splitAlignment trivia = (before, some blanks)) ∨
    (∀ blanks, trivia.getLast? ≠ some (.whitespace blanks)) ∧
      splitAlignment trivia = (trivia, none) := by
  unfold splitAlignment
  split
  · rename_i blanks hlast
    obtain ⟨before, rfl⟩ := List.getLast?_eq_some_iff.1 hlast
    exact .inl ⟨before, blanks, rfl, by rw [List.dropLast_concat]⟩
  · rename_i hnone
    exact .inr ⟨hnone, rfl⟩

theorem spacing_of_isBlanks {blanks : String} (h : IsBlanks blanks) :
    spacing blanks = [.whitespace blanks] :=
  if_neg (by simpa using h.1)

/-- The trivia in front of the first line of a comment are pieces of the text there. Where no
blanks stand in front of the declaration, its indent is a piece of its own: the trivia end
with a line break or a comment then, for other text on the line would leave no indent. -/
theorem splits_aligned (h : Splits old pos region d.leadingTrivia)
    (hold : ∀ s ∈ old, s.start < pos + byteLength region)
    (hindent : ∀ c ∈ d.indent.toList, c = ' ' ∨ c = '\t')
    (hother : d.indent ≠ "" → ∀ before text, region = before ++ text →
      (∀ c ∈ text, isBreak c = false) → ∀ c ∈ text, isSpacing c = true) :
    Splits old pos d.aligned ((splitAlignment d.leadingTrivia).1 ++ spacing d.alignment) := by
  rw [Declaration.aligned, Declaration.alignment]
  rcases splitAlignment_cases d.leadingTrivia with
    ⟨before, blanks, htrivia, hsplit⟩ | ⟨hlast, hsplit⟩
  · have hmem : .whitespace blanks ∈ d.leadingTrivia := by simp [htrivia]
    obtain ⟨_, _, _, _, htakes⟩ := h.takes_of_mem hmem
    have hblanks : IsBlanks blanks := htakes.isBlanks rfl
    rw [hsplit]
    dsimp only
    rw [Option.getD_some, ← renderTrivia_spacing blanks, ← renderTrivia_append,
      renderTrivia_spacing, spacing_of_isBlanks hblanks, ← htrivia, h.render_eq]
    exact h
  · rw [hsplit]
    dsimp only
    rw [Option.getD_none, String.toList_append, h.render_eq]
    by_cases hnone : d.indent = ""
    · rw [hnone, show spacing "" = [] from rfl, List.append_nil]
      exact (List.append_nil region).symm ▸ h
    have hblanks : IsBlanks d.indent :=
      ⟨by simpa using hnone, fun c hc => isSpacing_of_indent (hindent c hc)⟩
    have hpiece : Splits [] (pos + byteLength region) d.indent.toList [.whitespace d.indent] := by
      have hlined : Lined [.whitespace d.indent] := .blanks hblanks (fun c hc => by cases hc) .nil
      have hpieces := splits_of_lined hlined (pos + byteLength region)
      rw [toList_renderTrivia_cons] at hpieces
      exact (List.append_nil d.indent.toList).symm ▸ hpieces
    have hmore : Splits (old ++ []) (pos + byteLength region) d.indent.toList
        [.whitespace d.indent] :=
      hpiece.congr fun later hle => by
        rw [nextComment_append, nextComment_eq_none fun s hs => Nat.lt_of_lt_of_le (hold s hs) hle,
          Option.none_or]
    have hall := h.append (fun s hs => absurd hs List.not_mem_nil)
      (fun before text piece hregion hpiece htakes => ?_) hmore
    · rw [List.append_nil] at hall
      rwa [spacing_of_isBlanks hblanks]
    · rw [List.append_nil]
      refine htakes.before_indent (fun c hc => hindent c (List.mem_of_head? hc)) ?_ ?_
      · rintro blanks rfl
        exact hlast blanks hpiece
      · intro hline c hc
        exact hother hnone before text hregion hline c (List.mem_of_head? hc)

/-- Lines behind pieces are pieces, too. -/
theorem Source.Splits.append_lined {trivia pieces : List Trivia} {content : String}
    (h : Splits old pos region trivia) (hold : ∀ s ∈ old, s.start < pos + byteLength region)
    (hlined : Lined (.docComment (docLine content) :: pieces)) :
    Splits (old ++ docSpans (pos + byteLength region) (.docComment (docLine content) :: pieces)) pos
      (region ++ (renderTrivia (.docComment (docLine content) :: pieces)).toList)
      (trivia ++ .docComment (docLine content) :: pieces) := by
  have hmore := splits_of_lined hlined (pos + byteLength region)
  refine h.append (fun s hs => (bounds_of_mem_docSpans hs).1) ?_ (hmore.congr fun later hle => ?_)
  · intro before text piece hregion _ htakes
    have hend : pos + byteLength before + byteLength text = pos + byteLength region := by
      rw [hregion, byteLength_append, Nat.add_assoc]
    rw [nextComment_append]
    refine htakes.before_comment ?_ (fun s hs => ⟨by rw [hs, Option.some_or], ?_⟩) fun hnone => ?_
    · rw [toList_renderTrivia_cons, List.head?_append, Trivia.text, head?_docLine, Option.some_or]
    · rw [hend]
      exact hold s (nextComment_eq_some hs).1
    · rw [hnone, Option.none_or, hend]
      exact ⟨_, nextComment_of_head (by dsimp only; omega), rfl⟩
  · rw [nextComment_append, nextComment_eq_none fun s hs => Nat.lt_of_lt_of_le (hold s hs) hle,
      Option.none_or]

end

theorem toList_insertComment (d : Declaration) {comment : Comment}
    (hlines : comment.renderLines ≠ []) :
    (renderTrivia (insertComment d comment)).toList =
      d.aligned ++ (renderTrivia (d.insertedTrivia comment)).toList := by
  rw [insertComment_eq d hlines, renderTrivia_append, renderTrivia_append, renderTrivia_spacing,
    String.toList_append, Declaration.aligned]

theorem byteLength_le_aligned (d : Declaration) :
    byteLength (renderTrivia d.leadingTrivia).toList ≤ byteLength d.aligned := by
  rw [Declaration.aligned, Declaration.alignment, renderTrivia_splitAlignment d.leadingTrivia]
  cases (splitAlignment d.leadingTrivia).2 with
  | none => simp [byteLength_append]
  | some blanks => exact Nat.le_refl _

/-- The indent of a declaration behind a text: what stands in front of it on its line, if that
is blanks only. -/
def Declaration.IndentsAs (d : Declaration) (text : List Char) : Prop :=
  d.indent = if (linePrefix text).all fun c => c == ' ' || c == '\t' then
    String.ofList (linePrefix text) else ""

section

variable {d : Declaration} {old : List CommentSpan} {before region : List Char}

theorem Declaration.IndentsAs.blank (h : d.IndentsAs before) :
    ∀ c ∈ d.indent.toList, c = ' ' ∨ c = '\t' := by
  rw [Declaration.IndentsAs] at h
  intro c hc
  split at h
  · rename_i hall
    rw [h, String.toList_ofList] at hc
    simpa using List.all_eq_true.1 hall c hc
  · rw [h] at hc
    cases hc

theorem Declaration.IndentsAs.blank_line (h : d.IndentsAs before) (hne : d.indent ≠ "") :
    ∀ c ∈ linePrefix before, c = ' ' ∨ c = '\t' := by
  rw [Declaration.IndentsAs] at h
  intro c hc
  split at h
  · rename_i hall
    simpa using List.all_eq_true.1 hall c hc
  · exact absurd h hne

/-- The trivia of a patched declaration are the pieces of its text. -/
theorem splits_insertComment {comment : Comment}
    (h : Splits old d.span.leadingStart region d.leadingTrivia)
    (hold : ∀ s ∈ old, s.start < d.span.leadingStart + byteLength region)
    (hindent : d.IndentsAs (before ++ region)) (hlines : comment.renderLines ≠ [])
    (hunbroken : ∀ line ∈ comment.renderLines, ∀ c ∈ line.toList, isBreak c = false) :
    Splits (old ++ d.insertedSpans comment) d.span.leadingStart
      (renderTrivia (insertComment d comment)).toList (insertComment d comment) := by
  have hblanks : ∀ c ∈ d.indent.toList, isSpacing c = true := fun c hc =>
    isSpacing_of_indent (hindent.blank c hc)
  have halignment : ∀ c ∈ d.alignment.toList, isSpacing c = true := by
    rcases alignment_cases d with hmem | heq
    · obtain ⟨_, _, _, _, htakes⟩ := h.takes_of_mem hmem
      exact (htakes.isBlanks rfl).2
    · rwa [heq]
  have hbreak : IsLineBreak (lineBreakOf d.leadingTrivia) := by
    rcases lineBreakOf_cases d.leadingTrivia with hmem | ⟨-, heq⟩
    · obtain ⟨_, _, _, _, htakes⟩ := h.takes_of_mem hmem
      exact htakes.isLineBreak rfl
    · exact .inr ⟨'\n', rfl, heq⟩
  have haligned : Splits old d.span.leadingStart d.aligned
      ((splitAlignment d.leadingTrivia).1 ++ spacing d.alignment) := by
    refine splits_aligned h hold hindent.blank fun hne a text hregion hline c hc => ?_
    have hfeed : '\n' ∉ text := fun hmem => by
      cases hline _ hmem
    rw [hregion, ← List.append_assoc] at hindent
    exact isSpacing_of_indent (hindent.blank_line hne c (mem_linePrefix _ hfeed hc))
  have hold' : ∀ s ∈ old, s.start < d.span.leadingStart + byteLength d.aligned := by
    intro s hs
    have hlt := hold s hs
    have hle := byteLength_le_aligned d
    rw [h.render_eq] at hle
    omega
  obtain ⟨hlined, content, pieces, heq⟩ := lined_insertedTrivia hlines hunbroken hbreak halignment
    hblanks
  rw [toList_insertComment d hlines, insertComment_eq d hlines, Declaration.insertedSpans]
  rw [heq] at hlined ⊢
  exact haligned.append_lined hold' hlined

end

/-! ## Cutting a text, and cutting it again -/

section

variable {source before region after : List Char} {comments : List CommentSpan}

theorem Source.CommentSpan.In.of_inside {s : CommentSpan}
    (h : s.In 0 (before ++ (region ++ after))) (hstart : byteLength before ≤ s.start)
    (hstop : s.stop ≤ byteLength (before ++ region)) : s.In (byteLength before) region := by
  obtain ⟨a, text, b, heq, ha, htext, hhead⟩ := h
  rw [Nat.zero_add] at ha
  obtain ⟨gap, rfl, hgap⟩ := append_split heq (by omega)
  have hle : byteLength (gap ++ text) ≤ byteLength region := by
    rw [byteLength_append] at ha hstop ⊢
    omega
  obtain ⟨rest, rfl, -⟩ := append_split (by rw [hgap, List.append_assoc]) hle
  exact ⟨gap, text, rest, by rw [List.append_assoc], by rw [ha, byteLength_append], htext, hhead⟩

theorem Source.CommentSpan.In.start_lt {s : CommentSpan} {pos : Nat} (h : s.In pos region) :
    s.start < s.stop := by
  obtain ⟨a, text, b, -, -, hstop, hhead⟩ := h
  have hpos : 0 < byteLength text := byteLength_pos fun hnil => by simp [hnil] at hhead
  omega

/-- The comments of a text between two offsets. -/
def inside (start stop : Nat) (comments : List CommentSpan) : List CommentSpan :=
  comments.filter fun s => decide (start ≤ s.start) && decide (s.stop ≤ stop)

theorem splits_leadingTrivia (hcomments : ∀ s ∈ comments, s.In 0 (before ++ (region ++ after))) :
    Splits (inside (byteLength before) (byteLength (before ++ region)) comments) (byteLength before)
      region (leadingTrivia (before ++ (region ++ after)) (byteLength before)
        (byteLength (before ++ region)) comments) := by
  rw [leadingTrivia, slice_append]
  refine splits_splitTrivia fun s hs => .inr ?_
  obtain ⟨hmem, hin⟩ := List.mem_filter.1 hs
  simp only [Bool.and_eq_true, decide_eq_true_eq] at hin
  exact (hcomments s hmem).of_inside hin.1 hin.2

theorem indentsAs_declarationAt (container : Option Container) (header : Header) (last : Nat) :
    (declarationAt (before ++ (region ++ after)) container comments
      ⟨byteLength before, byteLength (before ++ region), last⟩ header).IndentsAs
        (before ++ region) := by
  have hcut : cut (byteLength (before ++ region)) (before ++ (region ++ after)) =
      some (before ++ region, after) := by
    rw [← List.append_assoc, cut_byteLength_append]
  simp only [Declaration.IndentsAs, declarationAt, hcut, Option.map_some, Option.getD_some]

end

/-- The place of a comment behind a text that ended at `old` and now ends at `new`. -/
def Source.CommentSpan.moved (old new : Nat) (s : CommentSpan) : CommentSpan :=
  ⟨new + (s.start - old), new + (s.stop - old)⟩

/-- The comments of a text after a comment has been put in front of a declaration: those in
front of the declaration, the new lines, and those behind. -/
def Declaration.commentsAfter (d : Declaration) (comment : Comment)
    (comments : List CommentSpan) : List CommentSpan :=
  let stop := d.span.leadingStart + byteLength (renderTrivia (insertComment d comment)).toList
  comments.filter (fun s => decide (s.stop ≤ d.span.start)) ++ d.insertedSpans comment ++
    (comments.filter fun s => decide (d.span.start ≤ s.start)).map (.moved d.span.start stop)

theorem inside_commentsAfter {d : Declaration} {comment : Comment} {comments : List CommentSpan}
    (hspan : d.span.start = d.span.leadingStart + byteLength (renderTrivia d.leadingTrivia).toList)
    (hcomments : ∀ s ∈ comments, s.start < s.stop) (hlines : comment.renderLines ≠ []) :
    inside d.span.leadingStart
        (d.span.leadingStart + byteLength (renderTrivia (insertComment d comment)).toList)
        (d.commentsAfter comment comments) =
      inside d.span.leadingStart d.span.start comments ++ d.insertedSpans comment := by
  have hlength := congrArg byteLength (toList_insertComment d hlines)
  rw [byteLength_append] at hlength
  have hle := byteLength_le_aligned d
  rw [Declaration.commentsAfter]
  generalize byteLength (renderTrivia (insertComment d comment)).toList = length at hlength ⊢
  have hbefore : inside d.span.leadingStart (d.span.leadingStart + length)
      (comments.filter fun s => decide (s.stop ≤ d.span.start)) =
      inside d.span.leadingStart d.span.start comments := by
    rw [inside, List.filter_filter]
    refine List.filter_congr fun s _ => ?_
    rw [Bool.eq_iff_iff]
    simp only [Bool.and_eq_true, decide_eq_true_eq]
    omega
  have hnew : inside d.span.leadingStart (d.span.leadingStart + length) (d.insertedSpans comment) =
      d.insertedSpans comment := by
    refine List.filter_eq_self.2 fun s hs => ?_
    have hbounds := bounds_of_mem_docSpans hs
    simp only [Bool.and_eq_true, decide_eq_true_eq]
    omega
  have hbehind : inside d.span.leadingStart (d.span.leadingStart + length)
      ((comments.filter fun s => decide (d.span.start ≤ s.start)).map
        (.moved d.span.start (d.span.leadingStart + length))) = [] := by
    refine List.filter_eq_nil_iff.2 fun t ht => ?_
    obtain ⟨s, hs, rfl⟩ := List.mem_map.1 ht
    obtain ⟨hmem, hafter⟩ := List.mem_filter.1 hs
    have hlt := hcomments s hmem
    simp only [decide_eq_true_eq] at hafter
    have hpast : ¬ (CommentSpan.moved d.span.start (d.span.leadingStart + length) s).stop ≤
        d.span.leadingStart + length := by
      rw [CommentSpan.moved]
      dsimp only
      omega
    rw [decide_eq_false hpast, Bool.and_false]
    exact Bool.false_ne_true
  rw [inside, List.filter_append, List.filter_append, ← inside, ← inside, ← inside, hbefore, hnew,
    hbehind, List.append_nil]

/-- Cutting the text in front of a declaration into trivia keeps every character of it. Cutting
it again after a comment has been put in gives the trivia that the patch made. -/
theorem leadingTrivia_stable {source region : List Char} {start stop : Nat}
    {comments : List CommentSpan} (hslice : slice start stop source = some region)
    (hcomments : ∀ s ∈ comments, s.In 0 source) :
    (renderTrivia (leadingTrivia source start stop comments)).toList = region ∧
    ∀ (container : Option Container) (header : Header) (last : Nat) (comment : Comment),
      comment.validateInsertable = .ok () →
      (∀ line ∈ comment.renderLines, ∀ c ∈ line.toList, isBreak c = false) →
      let d := declarationAt source container comments ⟨start, stop, last⟩ header
      ∃ p, d.patch comment = .ok p ∧
        let text := SourceUnit.replaceRange start stop p.leadingText.toList source
        (d.insertedSpans comment).map (fun s => slice s.start s.stop text) =
          comment.renderLines.map (fun line => some line.toList) ∧
        leadingTrivia text start (start + byteLength p.leadingText.toList)
          (d.commentsAfter comment comments) = p.declaration.leadingTrivia := by
  obtain ⟨before, region', after, rfl, rfl, rfl⟩ := exists_of_slice_isSome (by rw [hslice]; rfl)
  obtain rfl : region' = region := Option.some.inj ((slice_append _ _ _).symm.trans hslice)
  have hsplits := splits_leadingTrivia hcomments
  refine ⟨hsplits.render_eq, fun container header last comment hinsertable hunbroken => ?_⟩
  intro d
  have hlines := comment.renderLines_ne_nil hinsertable
  refine ⟨_, patch_of_insertable hinsertable d, ?_⟩
  dsimp only [Patched.leadingText]
  have hspan : d.span.start =
      d.span.leadingStart + byteLength (renderTrivia d.leadingTrivia).toList := by
    rw [show d.leadingTrivia = leadingTrivia _ _ _ _ from rfl, hsplits.render_eq]
    exact byteLength_append _ _
  have hold : ∀ s ∈ inside (byteLength before) (byteLength (before ++ region')) comments,
      s.start < byteLength before + byteLength region' := by
    intro s hs
    obtain ⟨hmem, hin⟩ := List.mem_filter.1 hs
    have hlt := (hcomments s hmem).start_lt
    simp only [Bool.and_eq_true, decide_eq_true_eq, byteLength_append] at hin
    omega
  have hagain : Splits (inside (byteLength before) (byteLength (before ++ region')) comments ++
      d.insertedSpans comment) (byteLength before) _ (insertComment d comment) :=
    splits_insertComment hsplits hold (indentsAs_declarationAt container header last) hlines
      hunbroken
  have hinside := inside_commentsAfter hspan (fun s hs => (hcomments s hs).start_lt) hlines
  rw [replaceRange_append, List.append_assoc]
  constructor
  · have hslices := slice_docSpans (before ++ d.aligned) after (d.insertedTrivia comment)
    rw [docLines_insertedTrivia, byteLength_append] at hslices
    rw [toList_insertComment d hlines, List.append_assoc, ← List.append_assoc before]
    exact hslices
  · rw [leadingTrivia, ← byteLength_append, slice_append, byteLength_append]
    exact splitTrivia_of_splits hagain fun later _ =>
      congrArg (nextComment · later) hinside

theorem leadingTrivia_stable_directive :
    let source := "a;\r\n#if X // c\r\n\tint b; // d".toList
    let comments : List CommentSpan := [⟨10, 14⟩, ⟨24, 28⟩]
    let comment := Comment.ofSummary "B."
    let d := declarationAt source none comments ⟨2, 17, 23⟩ { kind := .field, name := "b" }
    (renderTrivia d.leadingTrivia).toList = "\r\n#if X // c\r\n\t".toList ∧
    ∃ p, d.patch comment = .ok p ∧
      leadingTrivia (SourceUnit.replaceRange 2 17 p.leadingText.toList source) 2
        (2 + byteLength p.leadingText.toList) (d.commentsAfter comment comments) =
      [.endOfLine "\r\n", .comment "#if X ", .comment "// c", .endOfLine "\r\n", .whitespace "\t",
        .docComment "/// <summary>", .endOfLine "\r\n", .whitespace "\t",
        .docComment "/// B.", .endOfLine "\r\n", .whitespace "\t",
        .docComment "/// </summary>", .endOfLine "\r\n", .whitespace "\t"] := by
  intro source comments comment d
  have hcomments : ∀ s ∈ comments, s.In 0 source := by
    intro s hs
    simp only [comments, List.mem_cons, List.not_mem_nil, or_false] at hs
    rcases hs with rfl | rfl
    · exact ⟨source.take 10, "// c".toList, source.drop 14, rfl, by decide, by decide, rfl⟩
    · exact ⟨source.take 24, "// d".toList, [], rfl, by decide, by decide, rfl⟩
  have hslice : slice 2 17 source = some "\r\n#if X // c\r\n\t".toList := by decide +kernel
  obtain ⟨hrender, hpatched⟩ := leadingTrivia_stable hslice hcomments
  obtain ⟨p, hp, -, hagain⟩ := hpatched none _ 23 comment rfl (unbroken_of_all (by decide))
  refine ⟨hrender, p, hp, hagain.trans ?_⟩
  obtain rfl := Except.ok.inj ((patch_of_insertable rfl d).symm.trans hp)
  decide +kernel

end Gloss
