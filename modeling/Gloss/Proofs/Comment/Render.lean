import Gloss.Proofs.Comment.Normalize

/-!
# Reading what was written

A segment `Rereads` if the lines it is written in are one chunk that reads as it.
`rereads_summary`, `rereads_param`, `rereads_returns` and `rereads_inheritDoc` say
when. A comment whose segments reread is read back from its text, whatever the
indentation: `read_render`.
-/

namespace Gloss

open Gloss.Text Comment

/-- The body of the lines that segments are written in. -/
def bodyOf (segments : List Segment) : List Char :=
  joinLines ((segments.flatMap Segment.contents).map fun c => trimEnd c.toList)

/-- The body of the lines that one segment is written in. -/
def Segment.body (s : Segment) : List Char :=
  joinLines (s.contents.map fun c => trimEnd c.toList)

/-- What a segment is written as reads as the segment. -/
structure Segment.Rereads (s : Segment) : Prop where
  ne_nil : s.contents ≠ []
  feed : ∀ c ∈ s.contents, '\n' ∉ c.toList
  trimmed : ∀ c ∈ s.contents, trimEnd c.toList = c.toList
  chunk : Chunk s.body s

/-! ## Rows of segments -/

theorem bodyOf_cons {s : Segment} (hs : s.contents ≠ []) (segments : List Segment) :
    bodyOf (s :: segments) = s.body ++ bodyOf segments ∧ bodyOf segments = [] ∨
      bodyOf (s :: segments) = s.body ++ ('\n' :: bodyOf segments) := by
  rw [bodyOf, List.flatMap_cons, List.map_append]
  by_cases h : segments.flatMap Segment.contents = []
  · refine .inl ?_
    rw [bodyOf, h]
    simp [Segment.body]
  · refine .inr ?_
    rw [joinLines_append (by simpa using hs) (by simpa using h)]
    rfl

theorem Segment.Rereads.spells_cons {s : Segment} (hs : s.Rereads) {segments : List Segment}
    (hnext : s.body.head? = some '<' ∨ Opens (bodyOf segments))
    (hrest : Spells (bodyOf segments) segments) :
    Spells (bodyOf (s :: segments)) (s :: segments) := by
  have hnil : isBlankText [] = true := rfl
  have hfeed : isBlankText ['\n'] = true := rfl
  rcases bodyOf_cons hs.ne_nil segments with ⟨hbody, -⟩ | hbody
  · rw [hbody]
    exact .chunk hnil hs.chunk hnext hrest
  · rw [hbody]
    exact .chunk hnil hs.chunk (hnext.imp_right fun h => h.append_blank hfeed)
      (hrest.append_blank hfeed)

/-- Written segments open with an element if the first of them does. -/
theorem opens_bodyOf {s : Segment} (hs : s.contents ≠ []) (h : s.body.head? = some '<')
    (segments : List Segment) : Opens (bodyOf (s :: segments)) := by
  obtain ⟨more, hmore⟩ := List.head?_eq_some_iff.1 h
  rcases bodyOf_cons hs segments with ⟨hbody, -⟩ | hbody
  · rw [hbody, hmore]
    exact opens_cons _
  · rw [hbody, hmore]
    exact opens_cons _

/-! ## The text of a comment -/

theorem intercalate_indent (indent l : List Char) (ls : List (List Char)) :
    List.intercalate ('\n' :: indent) (l :: ls) = joinLines (l :: ls.map (indent ++ ·)) := by
  induction ls generalizing l with
  | nil => simp
  | cons l' ls ih =>
    rw [List.intercalate_cons_cons, ih l', List.map_cons, joinLines_cons_of_ne_nil l (by simp)]
    cases ls with
    | nil => simp
    | cons l'' ls => simp [joinLines_cons_of_ne_nil]

theorem isLine_docLine {indent : List Char} (hindent : '\n' ∉ indent) {content : String}
    (hfeed : '\n' ∉ content.toList) (htrim : trimEnd content.toList = content.toList) :
    IsLine (indent ++ (docLine content).toList) := by
  rw [toList_docLine]
  by_cases he : content.isEmpty
  · rw [if_pos he]
    exact ⟨by simp [hindent], by simp⟩
  · rw [if_neg he]
    refine ⟨by simp [hindent, hfeed], fun hlast => ?_⟩
    have hne : content.toList ≠ [] := by simpa using he
    rw [List.getLast?_append] at hlast
    have hc : content.toList.getLast? = some '\r' := by
      cases hg : content.toList.getLast? with
      | none => exact absurd (List.getLast?_eq_none_iff.1 hg) hne
      | some c => simpa [List.getLast?_cons, hg] using hlast
    exact absurd (trimEnd_eq_self_iff.1 htrim _ hc) (by decide)

theorem isBlankText_docLine (indent : List Char) (content : String) :
    isBlankText (indent ++ (docLine content).toList) = false := by
  rw [toList_docLine, isBlankText_append]
  have : isBlank '/' = false := by decide
  simp [isBlankText, this]

theorem lineContents_indented {indent : List Char} (hindent : isBlankText indent = true)
    (contents : List String) :
    lineContents (contents.map fun c => String.ofList (indent ++ (docLine c).toList)) =
      .ok (contents.map fun c => trimEnd c.toList) := by
  induction contents with
  | nil => rfl
  | cons c cs ih => exact lineContents_cons.2 ⟨_, _, lineContent_docLine hindent c, ih, rfl⟩

/-- The lines of a comment are found again in its text. -/
theorem linesOf_render {comment : Comment} {indent : String} (hindent : '\n' ∉ indent.toList)
    {first : String} {rest : List String}
    (hcontents : comment.segments.flatMap Segment.contents = first :: rest)
    (hfeed : ∀ c ∈ first :: rest, '\n' ∉ c.toList)
    (htrim : ∀ c ∈ first :: rest, trimEnd c.toList = c.toList) :
    linesOf (comment.render indent) =
      docLine first :: rest.map fun c => String.ofList (indent.toList ++ (docLine c).toList) := by
  have htext : (comment.render indent).toList = joinLines ((docLine first).toList ::
      rest.map fun c => indent.toList ++ (docLine c).toList) := by
    rw [Comment.render, Comment.renderLines, hcontents, String.toList_intercalate]
    have hbreak : ("\n" ++ indent).toList = '\n' :: indent.toList := by simp
    rw [hbreak, List.map_cons, List.map_cons, intercalate_indent]
    simp [Function.comp_def]
  have hlines : ∀ l ∈ (docLine first).toList ::
      rest.map fun c => indent.toList ++ (docLine c).toList, IsLine l := by
    intro l hl
    rcases List.mem_cons.1 hl with rfl | hl
    · exact @isLine_docLine [] (by simp) first (hfeed first (by simp)) (htrim first (by simp))
    · obtain ⟨c, hc, rfl⟩ := List.mem_map.1 hl
      exact isLine_docLine hindent (hfeed c (by simp [hc])) (htrim c (by simp [hc]))
  have hlast : ((docLine first).toList ::
      rest.map fun c => indent.toList ++ (docLine c).toList).getLast? ≠ some [] := by
    intro hnil
    have hblank : isBlankText [] = false := by
      rcases List.mem_cons.1 (List.mem_of_getLast? hnil) with h | h
      · exact h ▸ isBlankText_docLine [] first
      · obtain ⟨c, -, hc⟩ := List.mem_map.1 h
        exact hc ▸ isBlankText_docLine indent.toList c
    cases hblank
  rw [linesOf, htext, lines_joinLines hlines hlast]
  simp

/-- A comment is read back from its text, whatever blanks its lines are indented
with. -/
theorem read_render {comment : Comment} (hs : ∀ s ∈ comment.segments, s.Rereads)
    (hbody : Spells (bodyOf comment.segments) comment.segments) {indent : String}
    (hblank : isBlankText indent.toList = true) (hindent : '\n' ∉ indent.toList) :
    read (comment.render indent) = .ok comment := by
  have hfeed : ∀ c ∈ comment.segments.flatMap Segment.contents, '\n' ∉ c.toList := by
    intro c hc
    obtain ⟨s, hmem, hc⟩ := List.mem_flatMap.1 hc
    exact (hs s hmem).feed c hc
  have htrim : ∀ c ∈ comment.segments.flatMap Segment.contents, trimEnd c.toList = c.toList := by
    intro c hc
    obtain ⟨s, hmem, hc⟩ := List.mem_flatMap.1 hc
    exact (hs s hmem).trimmed c hc
  cases hcontents : comment.segments.flatMap Segment.contents with
  | nil =>
    have hempty : comment.render indent = "" := by
      rw [Comment.render, Comment.renderLines, hcontents]
      rfl
    rw [bodyOf, hcontents] at hbody
    rw [hempty]
    exact readLines_eq_ok_iff.2 ⟨[], rfl, hbody⟩
  | cons first rest =>
    rw [hcontents] at hfeed htrim
    have hkeep : ∀ l ∈ docLine first ::
        rest.map (fun c => String.ofList (indent.toList ++ (docLine c).toList)),
        (!isBlankText l.toList) = true := by
      intro l hl
      rcases List.mem_cons.1 hl with rfl | hl
      · have := isBlankText_docLine [] first
        simpa using this
      · obtain ⟨c, -, rfl⟩ := List.mem_map.1 hl
        simpa using isBlankText_docLine indent.toList c
    rw [Comment.read, linesOf_render hindent hcontents hfeed htrim, List.filter_eq_self.2 hkeep]
    have hfirst := @lineContent_docLine [] rfl first
    rw [List.nil_append, String.ofList_toList] at hfirst
    refine readLines_eq_ok_iff.2 ⟨(first :: rest).map fun c => trimEnd c.toList, ?_, ?_⟩
    · exact lineContents_cons.2 ⟨_, _, hfirst, lineContents_indented hblank rest, rfl⟩
    · rw [bodyOf, hcontents] at hbody
      exact hbody

/-! ## Elements with a text -/

theorem tidy_of_normal {ls : List (List Char)} (h : Normal ls) : Tidy (joinLines ls) :=
  tidy_joinLines fun l hl => ⟨tidy_of_not_mem (h.line l hl), h.trimEnd l hl⟩

/-- An element with a passable content is one chunk. -/
theorem chunk_of_passable {tag name content : List Char} {segment : Segment} (hgt : '>' ∉ tag)
    (hslash : tag.head? ≠ some '/') (hbang : tag.head? ≠ some '!') (hopen : tag.getLast? ≠ some '/')
    (htag : tagName tag = name) (hname : name ≠ []) (hlt : '<' ∉ name)
    (hp : Passable name content) (hclose : ¬ closingTag name <:+: content)
    (hs : elementSegment tag name content = .ok segment) :
    Chunk ('<' :: tag ++ '>' :: content ++ closingTag name) segment := by
  subst htag
  have hread : ∀ tail,
      readElement (tag ++ '>' :: content ++ closingTag (tagName tag) ++ tail) =
        .ok (segment, tail) := by
    intro tail
    have := readElement_of_closing hgt hslash hname hopen
      (findClosing_of_passable hlt hp hclose tail) hs
    simpa using this
  have hmark : ∀ tail, ¬ ['!', '-', '-'] <+:
      tag ++ '>' :: content ++ closingTag (tagName tag) ++ tail := by
    intro tail hpre
    cases tag with
    | nil => exact absurd rfl hname
    | cons c tag =>
      obtain ⟨rfl, -⟩ := List.cons_prefix_cons.1 hpre
      exact hbang rfl
  exact .element hmark hread

theorem text_of_normal {text : String} (h : normalizeText text.toList = text) :
    text.toList = joinLines (normalLines text.toList) := by
  have := congrArg String.toList h
  rw [normalizeText_eq, String.toList_ofList] at this
  exact this.symm

theorem rereads_inheritDoc : Segment.inheritDoc.Rereads := by
  have hread : ∀ tail,
      readElement ("inheritdoc/".toList ++ '>' :: tail) = .ok (.inheritDoc, tail) :=
    readElement_of_selfClosed (by decide) (by decide) (by decide) (by decide)
  have hmark : ∀ tail, ¬ ['!', '-', '-'] <+: "inheritdoc/>".toList ++ tail := by
    intro tail hpre
    exact absurd (List.cons_prefix_cons.1 hpre).1 (by decide)
  refine ⟨by decide, by decide, by decide, ?_⟩
  exact @Chunk.element "inheritdoc/>".toList _ hmark hread

/-! ## Summaries -/

/-- What stands between the tags of a summary: its text with blanks around it. -/
theorem summary_content (ls : List (List Char)) :
    ∃ post, isBlankText post = true ∧
      '\n' :: ls.flatMap (· ++ ['\n']) = ['\n'] ++ joinLines ls ++ post := by
  cases ls with
  | nil => exact ⟨[], rfl, rfl⟩
  | cons l ls => exact ⟨['\n'], rfl, by rw [flatMap_lines (by simp)]; rfl⟩

theorem summary_body (text : String) :
    (Segment.summary text).body =
      '<' :: "summary".toList ++
        '>' :: ('\n' :: ((lines text.toList).map trimEnd).flatMap (· ++ ['\n'])) ++
        closingTag "summary".toList := by
  have hlines : (linesOf text).map (fun c => trimEnd c.toList) =
      (lines text.toList).map trimEnd := by
    simp [linesOf, Function.comp_def]
  have hopen : trimEnd "<summary>".toList = "<summary>".toList := by decide
  have hclose : trimEnd "</summary>".toList = "</summary>".toList := by decide
  rw [Segment.body, Segment.contents, List.map_append, List.map_append, List.map_singleton,
    List.map_singleton, hlines, hopen, hclose, List.append_assoc, List.singleton_append,
    joinLines_between]
  simp [closingTag]

/-- The lines that a summary with a text in normal form is written in. -/
theorem summary_lines {text : String} (hn : normalizeText text.toList = text) :
    ∀ c ∈ (Segment.summary text).contents, '\n' ∉ c.toList ∧ trimEnd c.toList = c.toList := by
  have hnormal := normal_normalLines text.toList
  have hlines : lines text.toList = normalLines text.toList := by
    conv => lhs; rw [text_of_normal hn]
    exact hnormal.lines_joinLines
  intro c hc
  simp only [Segment.contents, linesOf, hlines, List.mem_append, List.mem_map,
    List.mem_singleton] at hc
  rcases hc with (rfl | ⟨l, hl, rfl⟩) | rfl
  · decide
  · rw [String.toList_ofList]
    exact ⟨hnormal.line l hl, hnormal.trimEnd l hl⟩
  · decide

/-- A summary is read back if its text is in normal form, may stand between the
tags, and does not end where a tag would be opened. -/
theorem rereads_summary {text : String} (hn : normalizeText text.toList = text)
    (hp : Passable "summary".toList text.toList)
    (hclose : ¬ closingTag "summary".toList <:+: text.toList)
    (hend : ¬ '<' :: "summary".toList <:+ text.toList) : (Segment.summary text).Rereads := by
  have htext := text_of_normal hn
  have hnormal := normal_normalLines text.toList
  generalize normalLines text.toList = ls at htext hnormal
  have hlinesOf : lines text.toList = ls := by rw [htext, hnormal.lines_joinLines]
  have hbody := summary_body text
  rw [hlinesOf, List.map_congr_left hnormal.trimEnd, List.map_id'] at hbody
  obtain ⟨post, hpost, hcontent⟩ := summary_content ls
  have hfeed : isBlankText ['\n'] = true := rfl
  have hname : ∀ c ∈ '<' :: "summary".toList, isBlank c = false :=
    not_blank_of_any (by decide)
  rw [htext] at hp hclose hend
  have hp' : Passable "summary".toList ('\n' :: ls.flatMap (· ++ ['\n'])) := by
    rw [hcontent, List.append_assoc]
    exact (hp.append_blank hname hpost hend).blank_append hname hfeed
  have hclose' : ¬ closingTag "summary".toList <:+: '\n' :: ls.flatMap (· ++ ['\n']) := by
    rw [hcontent]
    exact fun h => hclose (infix_of_blanks (not_blank_of_any (by decide)) (by decide) hfeed hpost h)
  have hsegment : elementSegment "summary".toList "summary".toList
      ('\n' :: ls.flatMap (· ++ ['\n'])) = .ok (.summary text) := by
    have hl : lines ('\n' :: ls.flatMap (· ++ ['\n'])) = List.replicate 1 [] ++ ls := by
      rw [lines, lines_flatMap hnormal.isLine]
      rfl
    rw [elementSegment, if_pos rfl, normalizeText_eq, normalLines_of_lines hnormal hl, ← htext,
      String.ofList_toList]
  have hlines := summary_lines hn
  refine ⟨by simp [Segment.contents], fun c hc => (hlines c hc).1, fun c hc => (hlines c hc).2, ?_⟩
  rw [hbody]
  exact chunk_of_passable (by decide) (by decide) (by decide) (by decide) (by decide) (by decide)
    (by decide) hp' hclose' hsegment

/-! ## Segments on the lines of a text -/

theorem body_of_tidy {s : Segment} {text : List Char}
    (hcontents : s.contents = (lines text).map String.ofList) (htidy : Tidy text)
    (hend : trimEnd text = text) : s.body = text := by
  obtain ⟨hjoin, htrim⟩ := htidy.joinLines_lines hend
  have hmap : (lines text).map (fun l => trimEnd (String.ofList l).toList) = lines text := by
    refine (List.map_congr_left fun l hl => ?_).trans (List.map_id _)
    rw [String.toList_ofList]
    exact htrim l hl
  rw [Segment.body, hcontents, List.map_map, Function.comp_def, hmap, hjoin]

/-- A segment that is written as a tidy text is read back if the text is a chunk
that reads as it. -/
theorem rereads_of_tidy {s : Segment} {text : List Char}
    (hcontents : s.contents = (lines text).map String.ofList) (htidy : Tidy text)
    (hend : trimEnd text = text) (hne : text ≠ []) (hchunk : Chunk text s) : s.Rereads := by
  have htrim := (htidy.joinLines_lines hend).2
  refine ⟨by simpa [hcontents] using lines_ne_nil hne, ?_, ?_,
    (body_of_tidy hcontents htidy hend).symm ▸ hchunk⟩
  · intro c hc
    rw [hcontents] at hc
    obtain ⟨l, hl, rfl⟩ := List.mem_map.1 hc
    rw [String.toList_ofList]
    exact not_mem_of_mem_lines hl
  · intro c hc
    rw [hcontents] at hc
    obtain ⟨l, hl, rfl⟩ := List.mem_map.1 hc
    rw [String.toList_ofList]
    exact htrim l hl

/-- The text of an element is tidy if its tag and its content are. -/
theorem tidy_element {tag content name : List Char} (htag : Tidy tag) (hcontent : Tidy content)
    (hname : '\n' ∉ name) :
    Tidy ('<' :: tag ++ '>' :: content ++ closingTag name) := by
  have hlt : Tidy ['<'] := tidy_of_not_mem (by decide)
  have hgt : Tidy ['>'] := tidy_of_not_mem (by decide)
  have hclosing : Tidy (closingTag name) := tidy_of_not_mem (by simp [closingTag, hname])
  have hopening : Tidy ('<' :: tag ++ ['>']) :=
    (hlt.append_of_trimEnd htag (by decide)).append hgt (by simp)
  have hend : trimEnd ('<' :: tag ++ ['>']) = '<' :: tag ++ ['>'] :=
    trimEnd_concat_of_not_blank _ (by decide)
  have hboth := hopening.append_of_trimEnd hcontent hend
  have := hboth.append hclosing (by simp [closingTag])
  simpa using this

theorem trimEnd_closingTag (cs name : List Char) :
    trimEnd (cs ++ closingTag name) = cs ++ closingTag name := by
  have hblank : isBlank '>' = false := by decide
  have := trimEnd_concat_of_not_blank (cs ++ '<' :: '/' :: name) hblank
  simpa [closingTag] using this

/-- An element on the lines of its text. -/
theorem rereads_inline {s : Segment} {tag name : List Char} {text : String}
    (hcontents : s.contents =
      (lines ('<' :: tag ++ '>' :: text.toList ++ closingTag name)).map String.ofList)
    (htidy : Tidy tag) (hfeed : '\n' ∉ name) (hn : normalizeText text.toList = text)
    (hchunk : Chunk ('<' :: tag ++ '>' :: text.toList ++ closingTag name) s) : s.Rereads := by
  have htext : Tidy text.toList := by
    rw [text_of_normal hn]
    exact tidy_of_normal (normal_normalLines _)
  exact rereads_of_tidy hcontents (tidy_element htidy htext hfeed) (trimEnd_closingTag _ name)
    (by simp) hchunk

theorem rereads_returns {text : String} (hn : normalizeText text.toList = text)
    (hp : Passable "returns".toList text.toList)
    (hclose : ¬ closingTag "returns".toList <:+: text.toList) : (Segment.returns text).Rereads := by
  have hcontents : (Segment.returns text).contents =
      (lines ('<' :: "returns".toList ++ '>' :: text.toList ++ closingTag "returns".toList)).map
        String.ofList := by
    rw [Segment.contents, linesOf]
    congr 2
    simp [closingTag]
  have hsegment : elementSegment "returns".toList "returns".toList text.toList =
      .ok (.returns text) := by
    rw [elementSegment, if_neg (by decide), if_pos rfl, hn]
  refine rereads_inline hcontents (tidy_of_not_mem (by decide)) (by decide) hn ?_
  exact chunk_of_passable (by decide) (by decide) (by decide) (by decide) (by decide) (by decide)
    (by decide) hp hclose hsegment

/-! ## Parameters -/

/-- The tag that opens the description of a parameter. -/
def paramTag (name : List Char) : List Char :=
  ['p', 'a', 'r', 'a', 'm', ' ', 'n', 'a', 'm', 'e', '=', '"'] ++ name ++ ['"']

theorem tagName_paramTag (name : List Char) : tagName (paramTag name) = "param".toList :=
  rfl

theorem nameAttribute_paramTag {name : List Char} (h : '"' ∉ name) :
    nameAttribute (paramTag name) = some name := by
  have hb : breakOn ['n', 'a', 'm', 'e'] (paramTag name) =
      some ("param ".toList, '=' :: '"' :: (name ++ ['"'])) := rfl
  have hq : quotedValue ('"' :: (name ++ ['"'])) = some name := by
    rw [quotedValue, if_pos (.inl rfl), breakOn_singleton h []]
    rfl
  rw [nameAttribute]
  split
  · rename_i hn
    rw [hb] at hn
    cases hn
  · rename_i before after hs
    rw [hb] at hs
    cases hs
    rw [if_pos (by decide)]
    exact hq

theorem tidy_paramTag {name : List Char} (h : Tidy name) : Tidy (paramTag name) := by
  have hopen : Tidy ['p', 'a', 'r', 'a', 'm', ' ', 'n', 'a', 'm', 'e', '=', '"'] :=
    tidy_of_not_mem (by decide)
  have hquote : Tidy ['"'] := tidy_of_not_mem (by decide)
  exact (hopen.append_of_trimEnd h (by decide)).append hquote (by simp)

/-- The description of a parameter is read back if its text is in normal form and
may stand between the tags, and its name can be quoted. -/
theorem rereads_param {name text : String} (hquote : '"' ∉ name.toList) (hgt : '>' ∉ name.toList)
    (htidy : Tidy name.toList) (hn : normalizeText text.toList = text)
    (hp : Passable "param".toList text.toList)
    (hclose : ¬ closingTag "param".toList <:+: text.toList) :
    (Segment.param name text).Rereads := by
  have hcontents : (Segment.param name text).contents =
      (lines ('<' :: paramTag name.toList ++ '>' :: text.toList ++ closingTag "param".toList)).map
        String.ofList := by
    rw [Segment.contents, linesOf]
    congr 2
    simp [closingTag, paramTag]
  have hsegment : elementSegment (paramTag name.toList) "param".toList text.toList =
      .ok (.param name text) := by
    rw [elementSegment, if_neg (by decide), if_neg (by decide), if_pos rfl,
      nameAttribute_paramTag hquote, hn]
    simp only [String.ofList_toList]
  refine rereads_inline hcontents (tidy_paramTag htidy) (by decide) hn ?_
  refine chunk_of_passable ?_ (by simp [paramTag]) (by simp [paramTag]) ?_
    (tagName_paramTag name.toList) (by decide) (by decide) hp hclose hsegment
  · simp [paramTag, hgt]
  · rw [paramTag, List.getLast?_concat]
    decide

end Gloss
