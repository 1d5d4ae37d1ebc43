import Gloss.Documentor
import Gloss.Proofs.Cache.Schedule
import Gloss.Proofs.Comment.Recover
import Gloss.Proofs.Patch

/-!
# Declarations that were documented

A declaration that got a comment is looked at again. Its old lines are then read
together with the new ones:

* if they do not read, the new summary is recovered from them;
* if they read, the new summary is one of their segments, unless an element that
  the old lines leave open ends in the new ones and swallows it (`Swallows`).

So a declaration is documented a second time exactly if its new comment is
swallowed (`document_again_iff`). It can be (`document_twice_unclosedParam`): an
inner element counts only at the leftmost place where the name follows a `<`, so
behind a tag with a longer name the tags of the new lines close the old element.
-/

namespace Gloss

open Gloss.Text Comment

/-- A comment put behind some lines is swallowed by them: an element lies across
the border, and with it no segment documents anything. -/
def Swallows (old : List String) (comment : Comment) : Prop :=
  ∃ contents segments, lineContents old = .ok contents ∧
    Across (joinLines contents) (bodyOf comment.segments) segments ∧
    (⟨segments⟩ : Comment).hasSummary = false ∧ (⟨segments⟩ : Comment).hasInheritDoc = false

/-! ## Reading old and new lines -/

theorem bodyOf_summary (text : String) (rest : List Segment) :
    ∃ more, bodyOf (.summary text :: rest) = (Segment.summary text).body ++ more := by
  have hne : (Segment.summary text).contents ≠ [] := by simp [Segment.contents]
  rcases bodyOf_cons hne rest with ⟨hbody, -⟩ | hbody
  · exact ⟨_, hbody⟩
  · exact ⟨_, hbody⟩

/-- A body that starts with a written summary spells a summary first. -/
theorem summary_of_spells {text : String} (h : Unmarked text) {rest segments : List Segment}
    (pre : List Char) (hpre : isBlankText pre = true)
    (hs : Spells (pre ++ bodyOf (.summary text :: rest)) segments) :
    ∃ read more, segments = .summary read :: more := by
  obtain ⟨read, hchunk⟩ := chunk_summary h
  obtain ⟨more, hbody⟩ := bodyOf_summary text rest
  have hread := hs.readSegments_eq
  rw [readSegments_append_of_blank hpre, hbody,
    hchunk.readSegments_append (.inl (head?_summary_body text))] at hread
  obtain ⟨ss, -, rfl⟩ := ok_of_map hread
  exact ⟨read, ss, rfl⟩

theorem hasSummary_of_segments {comment : Comment} {as more : List Segment} {text : String}
    (h : comment.segments = as ++ .summary text :: more) : comment.hasSummary = true := by
  simp [Comment.hasSummary, h, Segment.isSummary]

/-- If old lines and the lines of a comment with a summary read, and document
nothing, the comment is swallowed. -/
theorem swallows_of_readLines {text : String} (h : Unmarked text) {rest : List Segment}
    {old : List String} {comment : Comment}
    (hread : readLines (old ++ (Comment.mk (.summary text :: rest)).renderLines) = .ok comment)
    (hsummary : comment.hasSummary = false) (hinherit : comment.hasInheritDoc = false) :
    Swallows old ⟨.summary text :: rest⟩ := by
  obtain ⟨contents, hcontents, hspells⟩ := readLines_eq_ok_iff.1 hread
  obtain ⟨xs, ys, hxs, hys, rfl⟩ := lineContents_append.1 hcontents
  obtain rfl := Except.ok.inj ((lineContents_renderLines _).symm.trans hys)
  have hnone : ¬ comment.hasSummary = true := by simp [hsummary]
  by_cases hx : xs = []
  · subst hx
    obtain ⟨read, more, hsegments⟩ := summary_of_spells h [] rfl hspells
    exact absurd (@hasSummary_of_segments comment [] more read hsegments) hnone
  · rw [joinLines_append hx (by simp [Segment.contents])] at hspells
    change Spells (joinLines xs ++ '\n' :: bodyOf (.summary text :: rest)) _ at hspells
    obtain ⟨body, hbody⟩ := List.head?_eq_some_iff.1 (head?_summary_body text)
    obtain ⟨more, hmore⟩ := bodyOf_summary text rest
    rw [hbody, List.cons_append] at hmore
    rw [hmore] at hspells
    rcases hspells.split with ⟨as, bs, hsegments, -, hbs⟩ | hacross
    · rw [← hmore] at hbs
      obtain ⟨read, more', rfl⟩ := summary_of_spells h ['\n'] rfl hbs
      exact absurd (hasSummary_of_segments hsegments) hnone
    · exact ⟨xs, comment.segments, hxs, hmore ▸ hacross, hsummary, hinherit⟩

/-- A swallowed comment reads together with what swallows it, as the segments that
document nothing. -/
theorem Swallows.readLines {old : List String} {text : String} {rest : List Segment}
    (h : Swallows old ⟨.summary text :: rest⟩) :
    ∃ comment, Comment.readLines (old ++ (Comment.mk (.summary text :: rest)).renderLines) =
      .ok comment ∧ comment.hasSummary = false ∧ comment.hasInheritDoc = false := by
  obtain ⟨contents, segments, hcontents, hacross, hsummary, hinherit⟩ := h
  have hlines := lineContents_append.2
    ⟨contents, _, hcontents, lineContents_renderLines ⟨.summary text :: rest⟩, rfl⟩
  refine ⟨⟨segments⟩, readLines_eq_ok_iff.2 ⟨_, hlines, ?_⟩, hsummary, hinherit⟩
  have hne : contents ≠ [] := by
    rintro rfl
    obtain ⟨hold, -⟩ := hacross
    simp at hold
  rw [joinLines_append hne (by simp [Segment.contents])]
  exact hacross.spells

/-- Old lines that read do not swallow a comment. -/
theorem not_swallows_of_existingComment {d : Declaration} {e : Option Comment}
    (he : d.existingComment = .ok e) {text : String} (h : Unmarked text) (rest : List Segment) :
    ¬ Swallows d.docLines ⟨.summary text :: rest⟩ := by
  intro hs
  obtain ⟨comment, hread, hsummary, -⟩ := hs.readLines
  have hopens : Opens (bodyOf (.summary text :: rest)) :=
    opens_bodyOf (by simp [Segment.contents]) (head?_summary_body text) rest
  rw [readLines_append (readLines_of_existingComment he) (lineContents_renderLines _) hopens]
    at hread
  obtain ⟨new, hnew, rfl⟩ := ok_of_map hread
  obtain ⟨contents, hcontents, hspells⟩ := readLines_eq_ok_iff.1 hnew
  obtain rfl := Except.ok.inj ((lineContents_renderLines _).symm.trans hcontents)
  obtain ⟨read, more, hsegments⟩ := summary_of_spells h [] rfl hspells
  rw [hasSummary_of_segments (congrArg (_ ++ ·) hsegments)] at hsummary
  cases hsummary

/-! ## Looking at a patched declaration again -/

/-- Behind any lines, a comment with a summary documents unless it is swallowed:
if the lines do not read, the summary is recovered. -/
theorem isMissing_iff_swallows {d : Declaration} {old : List String} {text : String}
    (h : Unmarked text) {rest : List Segment}
    (hlines : d.docLines = old ++ (Comment.mk (.summary text :: rest)).renderLines) :
    d.documentation.isMissing = true ↔ Swallows old ⟨.summary text :: rest⟩ := by
  have hnew : (Comment.mk (.summary text :: rest)).renderLines =
      (Segment.summary text).contents.map docLine ++ (Comment.mk rest).renderLines := by
    simp [Comment.renderLines]
  have hexisting : d.existingComment = (readLines d.docLines).map some := by
    rw [Declaration.existingComment, if_neg]
    simp [hlines, hnew, Segment.contents]
  cases hread : readLines d.docLines with
  | error fault =>
    have hrecovered : (recoverLines d.docLines).isSome = true := by
      rw [hlines, hnew]
      exact recoverLines_summary h old _
    have hdoc : d.documentation = .recovered := by
      simp [Declaration.documentation, hexisting, hread, Except.map, hrecovered]
    rw [hdoc]
    constructor
    · intro hmissing
      cases hmissing
    · intro hs
      obtain ⟨comment, hok, -⟩ := hs.readLines
      rw [hlines, hok] at hread
      cases hread
  | ok comment =>
    have hdoc : d.documentation = .readable (comment.hasSummary || comment.hasInheritDoc) := by
      simp [Declaration.documentation, hexisting, hread, Except.map]
    rw [hlines] at hread
    rw [hdoc, Declaration.Documentation.isMissing, Bool.not_eq_true', Bool.or_eq_false_iff]
    constructor
    · rintro ⟨hsummary, hinherit⟩
      exact swallows_of_readLines h hread hsummary hinherit
    · intro hs
      obtain ⟨comment', hok, hnone⟩ := hs.readLines
      obtain rfl := Except.ok.inj (hok.symm.trans hread)
      exact hnone

theorem isVisible_of_patch {d : Declaration} {comment : Comment} {p : Patched}
    (h : d.patch comment = .ok p) (options : ScanOptions) :
    p.declaration.isVisible options = d.isVisible options := by
  rw [Patched.eq_of_patch h]
  rfl

/-! ## Documenting -/

namespace Documentor

/-- Without a model nothing is asked. -/
theorem value_documentOne_of_no_model {doc : Documentor} (h : doc.model = none)
    (clock : Cache.Clock) (d : Declaration) :
    (doc.documentOne clock d).value = doc.document d none := by
  have hrequest : doc.request d = none := by simp [request, route, h]
  have hnone : ∀ i : Nat, ([d].map doc.request)[i]?.join = none := by
    intro i
    cases i <;> simp [hrequest]
  have hresult := Cache.Schedule.result?_run_of_no_request hnone clock.cache clock.now
    doc.options.concurrency 0
  rw [documentOne, schedule, hresult]

theorem document_eq_none_iff {doc : Documentor} {d : Declaration} {answer : Option Cache.Result} :
    doc.document d answer = .ok none ↔ d.shouldDocument doc.options.scan = false := by
  unfold document
  split
  · rename_i hshould
    rw [hshould]
    split
    · simp
    · cases d.patch _ <;> simp [Except.map]
  · rename_i hshould
    simpa using hshould

/-- A comment that did not come from a model is the one of the template. -/
theorem build_of_document {doc : Documentor} {d : Declaration} {x : Documented}
    (h : doc.document d none = .ok (some x)) :
    d.isVisible doc.options.scan = true ∧
      ∃ comment, doc.templates.template d.kind d = .ok comment ∧
        d.patch comment = .ok x.patched := by
  unfold document at h
  split at h
  · rename_i hshould
    refine ⟨(Bool.and_eq_true_iff.1 hshould).1, ?_⟩
    split at h
    · cases h
    · rename_i comment origin hsynth
      obtain ⟨patched, hpatched, hx⟩ := ok_of_map h
      obtain ⟨built, hbuilt, hpair⟩ := ok_of_map hsynth
      cases hx
      cases hpair
      refine ⟨comment, ?_, hpatched⟩
      unfold Registry.build at hbuilt
      split at hbuilt
      · cases hbuilt
      · split at hbuilt
        · cases hbuilt
        · cases hbuilt
          assumption
  · cases h

end Documentor

theorem exists_of_documented {v : Outcome} {f : Declaration → Bool} {b : Bool}
    (h : (v.toOption.join.map fun x => f x.patched.declaration) = some b) :
    ∃ x, v = .ok (some x) ∧ f x.patched.declaration = b := by
  obtain ⟨x, hx, hb⟩ := Option.map_eq_some_iff.1 h
  refine ⟨x, ok_of_toOption ?_, hb⟩
  cases hv : v.toOption with
  | none =>
    rw [hv] at hx
    cases hx
  | some found =>
    rw [hv] at hx
    exact congrArg some hx

/-- A declaration that was documented from its template, by a documentor without a
model, is documented again exactly if its old lines swallow the new comment. Lines
that read swallow none. -/
theorem document_again_iff (options : DocumentorOptions) (clock clock' : Cache.Clock)
    {d : Declaration} {x : Documented} (hname : Bare d.name) (howner : Bare d.ownerName)
    (h : (Documentor.documentOne { options := options } clock d).value = .ok (some x)) :
    (x.patched.declaration.shouldDocument options.scan = false ↔
      ¬ Swallows d.docLines x.patched.comment) ∧
    ((Documentor.documentOne { options := options } clock' x.patched.declaration).value =
      .ok none ↔ ¬ Swallows d.docLines x.patched.comment) ∧
    (∀ e, d.existingComment = .ok e → ¬ Swallows d.docLines x.patched.comment) := by
  rw [Documentor.value_documentOne_of_no_model rfl] at h
  obtain ⟨hvisible, comment, htemplate, hpatch⟩ := Documentor.build_of_document h
  obtain ⟨text, rest, hsegments, hunmarked⟩ := summary_of_builtIn hname howner htemplate
  obtain rfl : comment = ⟨.summary text :: rest⟩ := congrArg Comment.mk hsegments
  have hcomment : x.patched.comment = ⟨.summary text :: rest⟩ := by
    rw [Patched.eq_of_patch hpatch]
  have hagain : x.patched.declaration.shouldDocument options.scan = false ↔
      ¬ Swallows d.docLines x.patched.comment := by
    rw [Declaration.shouldDocument, isVisible_of_patch hpatch, hvisible, Bool.true_and, hcomment,
      ← Bool.not_eq_true]
    exact not_congr (isMissing_iff_swallows hunmarked (Patched.docLines_of_patch hpatch))
  refine ⟨hagain, ?_, fun e he => ?_⟩
  · rw [Documentor.value_documentOne_of_no_model rfl, Documentor.document_eq_none_iff]
    exact hagain
  · rw [hcomment]
    exact not_swallows_of_existingComment he hunmarked rest

/-- A method behind an element that is never closed. -/
def unclosedRemarks : Declaration where
  kind := .method
  name := "Show"
  leadingTrivia := [.docComment "/// <remarks>Not <summary> closed", .endOfLine "\n"]

theorem document_once_unclosedRemarks :
    ∃ x, (Documentor.documentOne {} ⟨0, {}⟩ unclosedRemarks).value = .ok (some x) ∧
      x.patched.declaration.shouldDocument {} = false ∧
      (Documentor.documentOne {} ⟨0, {}⟩ x.patched.declaration).value = .ok none := by
  have hname : Bare unclosedRemarks.name := by decide
  have howner : Bare unclosedRemarks.ownerName := by decide
  obtain ⟨x, hx, hdone⟩ := exists_of_documented
    (v := (Documentor.documentOne {} ⟨0, {}⟩ unclosedRemarks).value)
    (f := (·.shouldDocument {})) (b := false) (by decide +kernel)
  have hiff := document_again_iff {} ⟨0, {}⟩ ⟨0, {}⟩ hname howner hx
  exact ⟨x, hx, hdone, hiff.2.1.2 (hiff.1.1 hdone)⟩

/-- A method behind a parameter that is never closed. The next tag that starts
with the name of the element is that of a reference. -/
def unclosedParam : Declaration where
  kind := .method
  name := "Show"
  parameters := [⟨"y", .primitive "int"⟩]
  leadingTrivia := [.docComment "/// <param name=\"x\">see <paramref name=\"y\"/>", .endOfLine "\n"]

/-- It is documented, and then again. -/
theorem document_twice_unclosedParam :
    ∃ x, (Documentor.documentOne {} ⟨0, {}⟩ unclosedParam).value = .ok (some x) ∧
      x.patched.declaration.shouldDocument {} = true ∧
      (Documentor.documentOne {} ⟨0, {}⟩ x.patched.declaration).value ≠ .ok none := by
  obtain ⟨x, hx, hmissing⟩ := exists_of_documented
    (v := (Documentor.documentOne {} ⟨0, {}⟩ unclosedParam).value)
    (f := (·.shouldDocument {})) (b := true) (by decide +kernel)
  refine ⟨x, hx, hmissing, ?_⟩
  rw [Documentor.value_documentOne_of_no_model rfl, ne_eq, Documentor.document_eq_none_iff]
  simp [hmissing]

end Gloss
