import Gloss.Patch
import Gloss.Proofs.Comment.DocLine

/-!
# Comments that were put in front of a declaration

A patch adds documentation lines and moves none: the lines of the declaration
are followed by those of the new comment (`docLines_insertComment`). So the
patched declaration reads as what it had, followed by what the new lines read as
(`existingComment_patch`).
-/

namespace Gloss

open Gloss.Text Comment

/-- The documentation line in a piece of trivia. -/
def Trivia.docLine? : Trivia → Option String
  | .docComment line => some line
  | _ => none

theorem Declaration.docLines_eq (d : Declaration) :
    d.docLines = d.leadingTrivia.filterMap Trivia.docLine? :=
  rfl

/-! ## The lines of a patched declaration -/

theorem docLines_spacing (blanks : String) : (spacing blanks).filterMap Trivia.docLine? = [] := by
  unfold spacing
  split <;> rfl

theorem docLines_commentLine (lineBreak blanks line : String) :
    (commentLine lineBreak blanks line).filterMap Trivia.docLine? = [line] := by
  rw [commentLine, List.filterMap_append, docLines_spacing]
  rfl

theorem docLines_commentTrivia (lineBreak lead indent : String) (lines : List String) :
    (commentTrivia lineBreak lead indent lines).filterMap Trivia.docLine? = lines := by
  cases lines with
  | nil => rfl
  | cons first rest =>
    rw [commentTrivia, List.filterMap_append, docLines_commentLine, List.singleton_append]
    congr 1
    induction rest with
    | nil => rfl
    | cons line rest ih =>
      rw [List.flatMap_cons, List.filterMap_append, docLines_commentLine, ih]
      rfl

theorem docLines_splitAlignment (trivia : List Trivia) :
    (splitAlignment trivia).1.filterMap Trivia.docLine? = trivia.filterMap Trivia.docLine? := by
  unfold splitAlignment
  split
  · rename_i blanks hlast
    obtain ⟨init, rfl⟩ := List.getLast?_eq_some_iff.1 hlast
    rw [List.dropLast_concat, List.filterMap_append]
    simp [Trivia.docLine?]
  · rfl

/-- A patch puts the lines of the comment behind those that are there. -/
theorem docLines_insertComment (d : Declaration) (comment : Comment) :
    (insertComment d comment).filterMap Trivia.docLine? = d.docLines ++ comment.renderLines := by
  rw [insertComment, List.filterMap_append, List.filterMap_append, docLines_splitAlignment,
    docLines_commentTrivia, docLines_spacing, List.append_nil, d.docLines_eq]

theorem patch_of_insertable {comment : Comment} (h : comment.validateInsertable = .ok ())
    (d : Declaration) :
    d.patch comment = .ok ⟨{ d with leadingTrivia := insertComment d comment }, comment⟩ := by
  rw [Declaration.patch, h]

/-- A patch changes the leading trivia and nothing else. -/
theorem Patched.eq_of_patch {d : Declaration} {comment : Comment} {p : Patched}
    (h : d.patch comment = .ok p) :
    p = ⟨{ d with leadingTrivia := insertComment d comment }, comment⟩ := by
  unfold Declaration.patch at h
  split at h
  · cases h
  · exact (Except.ok.inj h).symm

theorem Patched.docLines_of_patch {d : Declaration} {comment : Comment} {p : Patched}
    (h : d.patch comment = .ok p) : p.declaration.docLines = d.docLines ++ comment.renderLines := by
  rw [eq_of_patch h, Declaration.docLines_eq, docLines_insertComment]

/-! ## Reading a patched declaration -/

theorem readLines_of_existingComment {d : Declaration} {e : Option Comment}
    (h : d.existingComment = .ok e) : readLines d.docLines = .ok (e.getD {}) := by
  unfold Declaration.existingComment at h
  split at h
  · rename_i hnil
    cases h
    rw [List.isEmpty_iff.1 hnil]
    exact readLines_eq_ok_iff.2 ⟨[], rfl, .blank rfl⟩
  · obtain ⟨comment, hread, rfl⟩ := ok_of_map h
    exact hread

/-- A comment whose first line opens with an element is read behind the comment
that the declaration had, segment by segment; if its lines do not read, the
patched declaration has the same fault. -/
theorem existingComment_patch {d : Declaration} {e : Option Comment} {comment : Comment}
    (he : d.existingComment = .ok e) (hok : comment.validateInsertable = .ok ()) {first : String}
    {more : List Char} (hfirst : comment.renderLines.head? = some first)
    (hbody : lineContent first = .ok ('<' :: more)) :
    ∃ p, d.patch comment = .ok p ∧
      p.declaration.existingComment =
        (readLines comment.renderLines).map fun new =>
          some ⟨(e.getD {}).segments ++ new.segments⟩ := by
  have hp := patch_of_insertable hok d
  refine ⟨_, hp, ?_⟩
  obtain ⟨rest, hrest⟩ := List.head?_eq_some_iff.1 hfirst
  obtain ⟨c, cs, hc, hcs, heq⟩ := lineContents_cons.1 (hrest ▸ lineContents_renderLines comment)
  obtain rfl := Except.ok.inj (hc.symm.trans hbody)
  have hcontents := lineContents_renderLines comment
  rw [heq] at hcontents
  rw [Declaration.existingComment, Patched.docLines_of_patch hp, if_neg (by simp [hrest]),
    readLines_append (readLines_of_existingComment he) hcontents (opens_joinLines more cs)]
  cases readLines comment.renderLines <;> rfl

theorem existingComment_patch_remarks :
    ∃ p, Declaration.patch
        { kind := .classType, name := "Stack"
          leadingTrivia := [.docComment "/// <remarks>Old <b>", .endOfLine "\n", .whitespace "  ",
            .docComment "/// </b></remarks> text", .endOfLine "\n", .whitespace "  "] }
        (.ofSummary "A <summary/> of it.") = .ok p ∧
      p.declaration.existingComment =
        .ok (some ⟨[.verbatim ["<remarks>Old <b>", "</b></remarks>"], .verbatim ["text"],
          .summary "A <summary/> of it."]⟩) := by
  have he : Declaration.existingComment
      { kind := .classType, name := "Stack"
        leadingTrivia := [.docComment "/// <remarks>Old <b>", .endOfLine "\n", .whitespace "  ",
          .docComment "/// </b></remarks> text", .endOfLine "\n", .whitespace "  "] } =
      .ok (some ⟨[.verbatim ["<remarks>Old <b>", "</b></remarks>"], .verbatim ["text"]]⟩) :=
    ok_of_toOption (by decide +kernel)
  have hok : (Comment.ofSummary "A <summary/> of it.").validateInsertable = .ok () := rfl
  have hfirst : (Comment.ofSummary "A <summary/> of it.").renderLines.head? =
      some "/// <summary>" := by decide +kernel
  have hbody : lineContent "/// <summary>" = .ok ('<' :: "summary>".toList) :=
    ok_of_toOption (by decide +kernel)
  have hnew : readLines (Comment.ofSummary "A <summary/> of it.").renderLines =
      .ok ⟨[.summary "A <summary/> of it."]⟩ := ok_of_toOption (by decide +kernel)
  obtain ⟨p, hp, hread⟩ := existingComment_patch he hok hfirst hbody
  rw [hnew] at hread
  exact ⟨p, hp, hread⟩

end Gloss
