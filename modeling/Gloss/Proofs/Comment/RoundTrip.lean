import Gloss.Proofs.Comment.Render

/-!
# Round trips

Reading undoes writing for comments whose texts fit into their elements
(`read_render_of_plain`), and a comment that was read is the same after it was
written and read once more (`read_toString_of_read`). The second result covers
what is kept verbatim: such a segment is written as the text it was read from.
-/

namespace Gloss

open Gloss.Text Comment

theorem toString_eq_render (comment : Comment) : toString comment = comment.render "" := rfl

/-! ## Comments that fit into their elements -/

/-- A text can stand in an element: it is in normal form, and neither closes the
element nor opens another one of its name. -/
structure FitsIn (tag text : String) : Prop where
  normal : normalizeText text.toList = text
  closing : ¬ closingTag tag.toList <:+: text.toList
  opening : ∀ c, isBlank c = true ∨ c = '>' ∨ c = '/' → ¬ '<' :: tag.toList ++ [c] <:+: text.toList
  ending : ¬ '<' :: tag.toList <:+ text.toList

/-- Segments that are nothing but elements with texts that fit. -/
def Segment.Plain : Segment → Prop
  | summary text => FitsIn "summary" text
  | param name text =>
    FitsIn "param" text ∧ '"' ∉ name.toList ∧ '>' ∉ name.toList ∧ '\n' ∉ name.toList
  | returns text => FitsIn "returns" text
  | inheritDoc => True
  | verbatim _ => False

theorem FitsIn.passable {tag text : String} (h : FitsIn tag text) :
    Passable tag.toList text.toList := by
  cases hb : breakOn ('<' :: tag.toList) text.toList with
  | none => exact .absent (breakOn_eq_none_iff.1 hb)
  | some pair =>
    obtain ⟨before, after⟩ := pair
    refine .other hb ?_
    cases after with
    | nil => rfl
    | cons c after =>
      have hin : '<' :: tag.toList ++ [c] <:+: text.toList :=
        ⟨before, after, by simp [breakOn_eq hb]⟩
      cases he : endsName (c :: after) with
      | false => rfl
      | true => exact absurd hin (h.opening c (by simpa [endsName, or_assoc] using he))

theorem Segment.Plain.rereads {s : Segment} (h : s.Plain) : s.Rereads := by
  cases s with
  | summary text => exact rereads_summary h.normal h.passable h.closing h.ending
  | param name text =>
    obtain ⟨hfits, hquote, hgt, hfeed⟩ := h
    exact rereads_param hquote hgt (tidy_of_not_mem hfeed) hfits.normal hfits.passable hfits.closing
  | returns text => exact rereads_returns h.normal h.passable h.closing
  | inheritDoc => exact rereads_inheritDoc
  | verbatim lines => exact absurd h id

/-- Only loose text does not start with a `<`. -/
theorem Segment.Rereads.head? {s : Segment} (h : s.Rereads) (hs : ∀ lines, s ≠ .verbatim lines) :
    s.body.head? = some '<' := by
  have hchunk := h.chunk
  generalize s.body = body at hchunk
  cases hchunk with
  | loose => exact absurd rfl (hs _)
  | xmlComment => rfl
  | element => rfl

theorem spells_bodyOf_of_plain {segments : List Segment} (h : ∀ s ∈ segments, s.Plain) :
    Spells (bodyOf segments) segments := by
  induction segments with
  | nil => exact .blank rfl
  | cons s segments ih =>
    have hs := h s (by simp)
    have hhead : s.body.head? = some '<' := by
      refine hs.rereads.head? ?_
      rintro lines rfl
      exact hs
    exact hs.rereads.spells_cons (.inl hhead) (ih fun t ht => h t (by simp [ht]))

/-- Reading undoes writing: a comment of elements whose texts fit is read back
from its text, with any indentation and without. -/
theorem read_render_of_plain {comment : Comment} (h : ∀ s ∈ comment.segments, s.Plain) :
    (∀ indent : String, isBlankText indent.toList = true → '\n' ∉ indent.toList →
      Comment.read (comment.render indent) = .ok comment) ∧
    Comment.read (toString comment) = .ok comment := by
  have hrereads : ∀ s ∈ comment.segments, s.Rereads := fun s hs => (h s hs).rereads
  have hbody := spells_bodyOf_of_plain h
  have hrender := fun indent hblank hfeed => @read_render comment hrereads hbody indent hblank hfeed
  exact ⟨hrender, hrender "" rfl (by decide)⟩

theorem FitsIn.of_checks {tag text : String} (hnormal : normalizeText text.toList = text)
    (hclosing : ¬ closingTag tag.toList <:+: text.toList)
    (hopening : (text.toList.filter fun c => isBlank c || c == '>' || c == '/').all
      (fun c => !occursIn ('<' :: tag.toList ++ [c]) text.toList) = true)
    (hending : ¬ '<' :: tag.toList <:+ text.toList) : FitsIn tag text := by
  refine ⟨hnormal, hclosing, fun c hc hin => ?_, hending⟩
  have hmem : c ∈ text.toList.filter fun c => isBlank c || c == '>' || c == '/' := by
    refine List.mem_filter.2 ⟨hin.subset (by simp), ?_⟩
    simpa [or_assoc] using hc
  have habsent := List.all_eq_true.1 hopening c hmem
  rw [Bool.not_eq_true', occursIn_eq_false_iff] at habsent
  exact habsent hin

theorem read_render_markup :
    Comment.read (Comment.render
      ⟨[.summary "Sums <see cref=\"T\"/> up,\n\n<summaryOf> all.", .inheritDoc,
        .param "a b" "See </returns> and\n<paramref name=\"c\"/>.", .returns ""]⟩ "\t  ") =
      .ok ⟨[.summary "Sums <see cref=\"T\"/> up,\n\n<summaryOf> all.", .inheritDoc,
        .param "a b" "See </returns> and\n<paramref name=\"c\"/>.", .returns ""]⟩ := by
  refine (read_render_of_plain ?_).1 "\t  " (by decide) (by decide)
  intro s hs
  simp only [List.mem_cons, List.not_mem_nil, or_false] at hs
  rcases hs with rfl | rfl | rfl | rfl
  · exact FitsIn.of_checks (by decide +kernel) (by decide +kernel) (by decide +kernel)
      (by decide +kernel)
  · trivial
  · exact ⟨FitsIn.of_checks (by decide +kernel) (by decide +kernel) (by decide +kernel)
      (by decide +kernel), by decide, by decide, by decide⟩
  · exact FitsIn.of_checks (by decide +kernel) (by decide +kernel) (by decide +kernel)
      (by decide +kernel)

/-! ## Comments that were read -/

/-- What the checks of a comment say of one segment. -/
def Segment.Checked : Segment → Prop
  | summary text => ¬ closingTag "summary".toList <:+: text.toList
  | param name text => '"' ∉ name.toList ∧ ¬ closingTag "param".toList <:+: text.toList
  | returns text => ¬ closingTag "returns".toList <:+: text.toList
  | inheritDoc => True
  | verbatim _ => True

theorem not_infix_of_checkText {tag text : String} (h : checkText tag text = .ok ()) :
    ¬ closingTag tag.toList <:+: text.toList := by
  unfold checkText at h
  split at h
  · cases h
  · rename_i hoccurs
    rwa [occursIn_iff] at hoccurs

theorem checkSegments_cons {seen : List String} {s : Segment} {segments : List Segment}
    (h : checkSegments seen (s :: segments) = .ok ()) :
    s.Checked ∧ ∃ seen', checkSegments seen' segments = .ok () := by
  cases s with
  | summary text =>
    obtain ⟨⟨⟩, htext, hrest⟩ := ok_of_bind h
    exact ⟨not_infix_of_checkText htext, seen, hrest⟩
  | param name text =>
    rw [checkSegments] at h
    split at h
    · cases h
    split at h
    · cases h
    rename_i hquote
    split at h
    · cases h
    obtain ⟨⟨⟩, htext, hrest⟩ := ok_of_bind h
    exact ⟨⟨by simpa using hquote, not_infix_of_checkText htext⟩, _, hrest⟩
  | returns text =>
    obtain ⟨⟨⟩, htext, hrest⟩ := ok_of_bind h
    exact ⟨not_infix_of_checkText htext, seen, hrest⟩
  | inheritDoc => exact ⟨trivial, seen, h⟩
  | verbatim lines => exact ⟨trivial, seen, h⟩

theorem checked_of_checkSegments {seen : List String} {segments : List Segment}
    (h : checkSegments seen segments = .ok ()) : ∀ s ∈ segments, s.Checked := by
  induction segments generalizing seen with
  | nil => simp
  | cons s segments ih =>
    obtain ⟨hs, seen', hrest⟩ := checkSegments_cons h
    intro t ht
    rcases List.mem_cons.1 ht with rfl | ht
    · exact hs
    · exact ih hrest t ht

theorem checked_of_validate {comment : Comment} (h : comment.validate = .ok ()) :
    ∀ s ∈ comment.segments, s.Checked := by
  unfold Comment.validate at h
  split at h
  · cases h
  · obtain ⟨⟨⟩, hsegments, -⟩ := ok_of_bind h
    exact checked_of_checkSegments hsegments

/-! ### Verbatim segments -/

theorem contents_keepVerbatim {raw : List Char} (htidy : Tidy raw) (htrim : trim raw = raw)
    (hend : trimEnd raw = raw) : (keepVerbatim raw).contents = (lines raw).map String.ofList := by
  rw [keepVerbatim, htrim]
  refine List.map_congr_left fun l hl => ?_
  rw [(htidy.joinLines_lines hend).2 l hl]

/-- A chunk that is kept verbatim is written as it was read. -/
theorem rereads_keepVerbatim {c : Char} {more : List Char} (htidy : Tidy (c :: more))
    (hc : isBlank c = false) (hend : trimEnd (c :: more) = c :: more)
    (hchunk : Chunk (c :: more) (keepVerbatim (c :: more))) :
    (keepVerbatim (c :: more)).Rereads ∧ (keepVerbatim (c :: more)).body = c :: more := by
  have hcontents := contents_keepVerbatim htidy (trim_eq_self hc hend) hend
  exact ⟨rereads_of_tidy hcontents htidy hend (by simp) hchunk, body_of_tidy hcontents htidy hend⟩

/-- Markup that ends in a `>` and is kept verbatim is read back. -/
theorem rereads_markup {more : List Char} (cs : List Char) (htidy : Tidy ('<' :: more))
    (hcs : '<' :: more = cs ++ ['>']) (hchunk : Chunk ('<' :: more) (keepVerbatim ('<' :: more))) :
    (keepVerbatim ('<' :: more)).Rereads ∧
      (keepVerbatim ('<' :: more)).body.head? = some '<' := by
  have htrim : trimEnd ('<' :: more) = '<' :: more := by
    rw [hcs]
    exact trimEnd_concat_of_not_blank cs (by decide)
  obtain ⟨hrereads, hbody⟩ := rereads_keepVerbatim htidy (by decide) htrim hchunk
  exact ⟨hrereads, by rw [hbody]; rfl⟩

/-! ### Elements -/

theorem normalizeText_normalizeText (content : List Char) :
    normalizeText (normalizeText content).toList = normalizeText content := by
  have hnormal := normal_normalLines content
  have hl : lines (joinLines (normalLines content)) =
      List.replicate 0 [] ++ normalLines content := hnormal.lines_joinLines
  rw [normalizeText_eq content, String.toList_ofList, normalizeText_eq,
    normalLines_of_lines hnormal hl]

/-- The text of an element that was read may stand between its tags again. -/
theorem passable_of_read {name content after : List Char} (hlt : '<' ∉ name)
    (hname : ∀ c ∈ closingTag name, isBlank c = false)
    (hf : findClosing name 0 after = some (content, []))
    (hclose : ¬ closingTag name <:+: (normalizeText content).toList) :
    Passable name (normalizeText content).toList := by
  have hname' : ∀ c ∈ '<' :: name, isBlank c = false := by
    intro c hc
    refine hname c ?_
    rcases List.mem_cons.1 hc with rfl | hc <;> simp [closingTag, *]
  rw [normalizeText_eq, String.toList_ofList] at hclose ⊢
  have hcontent : ¬ closingTag name <:+: content :=
    fun h => hclose (isInfix_normalLines hname (by simp [closingTag]) h)
  have hafter := findClosing_eq hf
  rw [hafter] at hf
  exact (passable_of_findClosing hlt hcontent hf).normalLines hname'

theorem quotedValue_isInfix {cs value : List Char} (h : quotedValue cs = some value) :
    value <:+: cs := by
  cases cs with
  | nil => cases h
  | cons quote inner =>
    rw [quotedValue] at h
    split at h
    · obtain ⟨⟨before, after⟩, hb, rfl⟩ := Option.map_eq_some_iff.1 h
      exact ⟨[quote], quote :: after, by simp [breakOn_eq hb]⟩
    · cases h

theorem trimStart_isInfix (cs : List Char) : trimStart cs <:+: cs :=
  (List.dropWhile_suffix isBlank).isInfix

/-- The name of a parameter stands in its tag. -/
theorem nameAttribute_isInfix {tag value : List Char} (h : nameAttribute tag = some value) :
    value <:+: tag := by
  have hafter : ∀ {tag before after : List Char},
      breakOn ['n', 'a', 'm', 'e'] tag = some (before, after) → after <:+: tag :=
    fun hb => ⟨_, [], by rw [List.append_nil]; exact (breakOn_eq hb).symm⟩
  fun_induction nameAttribute tag with
  | case1 => cases h
  | case2 tag before after hb hlt hblank rest hrest =>
    have hin : rest <:+: after := by
      have hcons : rest <:+: trimStart after := ⟨['='], [], by simp [hrest]⟩
      exact hcons.trans (trimStart_isInfix after)
    exact (((quotedValue_isInfix h).trans (trimStart_isInfix rest)).trans hin).trans (hafter hb)
  | case3 tag before after hb hlt hblank hrest ih => exact (ih h).trans (hafter hb)
  | case4 tag before after hb hlt hblank ih => exact (ih h).trans (hafter hb)

/-- A parameter that was read is read back; its name may stretch over lines. -/
theorem rereads_of_read_param {tag value content after : List Char} (hgt : '>' ∉ tag)
    (htidy : Tidy tag) (hvalue : nameAttribute tag = some value)
    (hf : findClosing "param".toList 0 after = some (content, []))
    (hchecked : (Segment.param (String.ofList value) (normalizeText content)).Checked) :
    (Segment.param (String.ofList value) (normalizeText content)).Rereads := by
  obtain ⟨hquote, hclose⟩ := hchecked
  have hin := nameAttribute_isInfix hvalue
  refine rereads_param hquote ?_ ?_ (normalizeText_normalizeText content)
    (passable_of_read (by decide) (not_blank_of_any (by decide)) hf hclose) hclose
  · rw [String.toList_ofList]
    exact fun hm => hgt (hin.subset hm)
  · rw [String.toList_ofList]
    exact htidy.of_part hin

/-- An element that was read is read back. -/
theorem rereads_of_element {more : List Char} {s : Segment}
    (hread : readElement more = .ok (s, [])) (hchunk : Chunk ('<' :: more) s)
    (htidy : Tidy ('<' :: more)) (hchecked : s.Checked)
    (hend : ∀ text, s = .summary text → ¬ '<' :: "summary".toList <:+ text.toList) :
    s.Rereads ∧ s.body.head? = some '<' := by
  obtain ⟨tag, after, rfl, hgt, -, -, h⟩ := readElement_cases hread
  rcases h with ⟨-, rfl, hs⟩ | ⟨-, content, hf, hs⟩
  · split at hs
    · subst hs
      exact ⟨rereads_inheritDoc, by decide⟩
    · have hmarkup : '<' :: (tag ++ ['>']) = ('<' :: tag) ++ ['>'] := rfl
      subst hs
      exact rereads_markup ('<' :: tag) htidy hmarkup hchunk
  · have hnormal := normalizeText_normalizeText content
    rcases elementSegment_cases hs with
      ⟨hname, rfl⟩ | ⟨hname, rfl⟩ | ⟨hname, value, hvalue, rfl⟩ | rfl | rfl
    · rw [hname] at hf
      have hp := passable_of_read (by decide) (not_blank_of_any (by decide)) hf hchecked
      have hr := rereads_summary hnormal hp hchecked (hend _ rfl)
      exact ⟨hr, hr.head? (by simp)⟩
    · rw [hname] at hf
      have hp := passable_of_read (by decide) (not_blank_of_any (by decide)) hf hchecked
      have hr := rereads_returns hnormal hp hchecked
      exact ⟨hr, hr.head? (by simp)⟩
    · rw [hname] at hf
      have htag : Tidy tag := htidy.of_part ⟨['<'], '>' :: after, by simp⟩
      have hr := rereads_of_read_param hgt htag hvalue hf hchecked
      exact ⟨hr, hr.head? (by simp)⟩
    · exact ⟨rereads_inheritDoc, by decide⟩
    · have hmarkup : '<' :: (tag ++ '>' :: after) =
          '<' :: tag ++ ['>'] ++ content ++ closingTag (tagName tag) := by
        simp [findClosing_eq hf]
      rw [← hmarkup] at hchunk ⊢
      refine rereads_markup ('<' :: (tag ++ '>' :: content ++ '<' :: '/' :: tagName tag)) htidy ?_
        hchunk
      simp [findClosing_eq hf, closingTag]

/-! ### Bodies -/

theorem Comment.Chunk.rereads {used : List Char} {s : Segment} (h : Chunk used s)
    (htidy : Tidy used) (hchecked : s.Checked)
    (hend : ∀ text, s = .summary text → ¬ '<' :: "summary".toList <:+ text.toList) :
    s.Rereads ∧ (used.head? = some '<' → s.body.head? = some '<') := by
  cases h with
  | loose hc htrim hlt =>
    obtain ⟨hrereads, hbody⟩ := rereads_keepVerbatim htidy hc htrim (.loose hc htrim hlt)
    exact ⟨hrereads, fun hhead => by rw [hbody, hhead]⟩
  | @xmlComment more inside hopen hx =>
    have hmarkup : '<' :: more = inside ++ ['-', '-'] ++ ['>'] := by simpa using breakOn_eq hx
    obtain ⟨hrereads, hbody⟩ := rereads_markup (inside ++ ['-', '-']) htidy hmarkup
      (.xmlComment hopen hx)
    exact ⟨hrereads, fun _ => hbody⟩
  | @element more s hopen hread =>
    have hnil : readElement more = .ok (s, []) := by simpa using hread []
    obtain ⟨hrereads, hbody⟩ :=
      rereads_of_element hnil (.element hopen hread) htidy hchecked hend
    exact ⟨hrereads, fun _ => hbody⟩

theorem Comment.Chunk.head?_of_opens {pre used rest : List Char} {s : Segment} (h : Chunk used s)
    (hpre : isBlankText pre = true) (hopens : Opens (pre ++ used ++ rest)) :
    used.head? = some '<' := by
  cases h with
  | @loose c more hc htrim hlt =>
    have hstart : trimStart (pre ++ (c :: more) ++ rest) = c :: (more ++ rest) := by
      rw [List.append_assoc, trimStart_append_of_blank hpre]
      exact trimStart_cons_of_not_blank hc _
    exact congrArg some (hopens c (by rw [hstart]; rfl))
  | xmlComment => rfl
  | element => rfl

/-- Segments that a tidy body spells are spelled by what they are written as. -/
theorem Comment.Spells.rereads {body : List Char} {segments : List Segment}
    (h : Spells body segments) (htidy : Tidy body) (hchecked : ∀ s ∈ segments, s.Checked)
    (hend : ∀ text, .summary text ∈ segments → ¬ '<' :: "summary".toList <:+ text.toList) :
    (∀ s ∈ segments, s.Rereads) ∧ Spells (bodyOf segments) segments ∧
      (Opens body → Opens (bodyOf segments)) := by
  induction h with
  | blank => exact ⟨by simp, .blank rfl, fun _ => by simp [bodyOf, Opens, trimStart]⟩
  | @chunk pre used rest s segments hpre hchunk hnext hrest ih =>
    have hused : Tidy used := htidy.of_part ⟨pre, rest, rfl⟩
    have htail : Tidy rest := htidy.of_part ⟨pre ++ used, [], by simp⟩
    obtain ⟨hs, hhead⟩ := hchunk.rereads hused (hchecked s (by simp))
      fun text htext => hend text (by simp [htext])
    obtain ⟨hall, hspells, hopens⟩ := ih htail (fun t ht => hchecked t (by simp [ht]))
      fun text ht => hend text (by simp [ht])
    refine ⟨?_, hs.spells_cons (hnext.imp hhead hopens) hspells, fun hbody => ?_⟩
    · intro t ht
      rcases List.mem_cons.1 ht with rfl | ht
      · exact hs
      · exact hall t ht
    · exact opens_bodyOf hs.ne_nil (hhead (hchunk.head?_of_opens hpre hbody)) segments

theorem lineContent_subset {line : String} {content : List Char}
    (h : lineContent line = .ok content) : content ⊆ line.toList := by
  have htrim : ∀ {rest : List Char}, trimEnd rest ⊆ rest := by
    intro rest
    obtain ⟨post, hrest, -⟩ := trimEnd_split rest
    intro c hc
    rw [hrest]
    exact List.mem_append_left post hc
  have hdrop : ∀ {rest : List Char},
      dropPrefix? docMarker.toList (trimStart line.toList) = some rest →
      rest ⊆ line.toList := by
    intro rest hd
    refine List.Subset.trans ?_ (trimStart_isInfix line.toList).subset
    rw [dropPrefix?_eq hd]
    exact List.subset_append_right _ _
  unfold lineContent at h
  dsimp only at h
  split at h
  · cases h
  · rename_i rest hd
    cases h
    exact List.Subset.trans (List.Subset.trans htrim (List.subset_cons_self ' ' rest)) (hdrop hd)
  · rename_i rest hd
    cases h
    exact List.Subset.trans htrim (hdrop hd)

theorem tidy_of_lineContents {lines : List String} {contents : List (List Char)}
    (h : lineContents lines = .ok contents) (hfeed : ∀ line ∈ lines, '\n' ∉ line.toList) :
    Tidy (joinLines contents) := by
  have hcontents : ∀ c ∈ contents, '\n' ∉ c := by
    induction lines generalizing contents with
    | nil =>
      cases h
      simp
    | cons line lines ih =>
      obtain ⟨c, cs, hc, hcs, rfl⟩ := lineContents_cons.1 h
      intro c' hc'
      rcases List.mem_cons.1 hc' with rfl | hc'
      · exact fun hm => hfeed line (by simp) (lineContent_subset hc hm)
      · exact ih hcs (fun l hl => hfeed l (by simp [hl])) c' hc'
  exact tidy_joinLines fun c hc =>
    ⟨tidy_of_not_mem (hcontents c hc), trimEnd_of_lineContents h c hc⟩

/-- A comment that was read from a text, and passes the checks, is read back from
its own text. -/
theorem read_toString_of_read {block : String} {comment : Comment}
    (h : Comment.read block = .ok comment) (hvalid : comment.validate = .ok ())
    (hend : ∀ text, .summary text ∈ comment.segments →
      ¬ "<summary".toList <:+ text.toList) :
    Comment.read (toString comment) = .ok comment := by
  obtain ⟨contents, hcontents, hspells⟩ := readLines_eq_ok_iff.1 h
  have htidy : Tidy (joinLines contents) := by
    refine tidy_of_lineContents hcontents fun line hline => ?_
    obtain ⟨l, hl, rfl⟩ := List.mem_map.1 (List.mem_filter.1 hline).1
    rw [String.toList_ofList]
    exact not_mem_of_mem_lines hl
  have hopening : "<summary".toList = '<' :: "summary".toList := by decide
  rw [hopening] at hend
  obtain ⟨hrereads, hbody, -⟩ := hspells.rereads htidy (checked_of_validate hvalid) hend
  rw [toString_eq_render]
  exact read_render hrereads hbody rfl (by decide)

theorem read_toString_layout :
    Comment.read (toString (⟨[.summary "Sums <summary/>\nup.", .verbatim ["<!-- a", "   b -->"],
        .verbatim ["loose"], .param "x\ny" "The <parameter."]⟩ : Comment)) =
      .ok ⟨[.summary "Sums <summary/>\nup.", .verbatim ["<!-- a", "   b -->"],
        .verbatim ["loose"], .param "x\ny" "The <parameter."]⟩ := by
  have hread : Comment.read ("/// <summary> Sums <summary/>\n///   up.</summary><!-- a\n\n" ++
      "///    b --> loose\n  /// <param  name='x\n///y'> The <parameter. </param>") =
      .ok ⟨[.summary "Sums <summary/>\nup.", .verbatim ["<!-- a", "   b -->"],
        .verbatim ["loose"], .param "x\ny" "The <parameter."]⟩ :=
    ok_of_toOption (by decide +kernel)
  refine read_toString_of_read hread rfl ?_
  intro text htext
  simp only [List.mem_cons, List.not_mem_nil, or_false, Segment.summary.injEq, reduceCtorEq]
    at htext
  rw [htext]
  decide +kernel

/-! ### Lines of a comment that was read -/

theorem Comment.Chunk.normal_of_summary {used : List Char} {text : String}
    (h : Chunk used (.summary text)) : normalizeText text.toList = text := by
  have hverbatim : ∀ {raw : List Char}, Segment.summary text ≠ keepVerbatim raw := by
    intro raw heq
    rw [keepVerbatim] at heq
    cases heq
  generalize hs : Segment.summary text = s at h
  cases h with
  | loose => exact absurd hs hverbatim
  | xmlComment => exact absurd hs hverbatim
  | element hopen hread =>
    subst hs
    obtain ⟨tag, after, -, -, -, -, h⟩ := readElement_cases (hread [])
    rcases h with ⟨-, -, hs⟩ | ⟨-, content, -, hs⟩
    · split at hs
      · cases hs
      · exact absurd hs hverbatim
    · rcases elementSegment_cases hs with
        ⟨-, hs⟩ | ⟨-, hs⟩ | ⟨-, value, -, hs⟩ | hs | hs
      · cases hs
        exact normalizeText_normalizeText content
      · cases hs
      · cases hs
      · cases hs
      · exact absurd hs hverbatim

/-- The lines that a segment is written in, if it was read. -/
theorem Comment.Chunk.contents_trimmed {used : List Char} {s : Segment} (h : Chunk used s)
    (htidy : Tidy used) (hchecked : s.Checked) :
    ∀ c ∈ s.contents, '\n' ∉ c.toList ∧ trimEnd c.toList = c.toList := by
  by_cases hs : s.isSummary = true
  · cases s with
    | summary text => exact summary_lines h.normal_of_summary
    | param | returns | inheritDoc | verbatim => cases hs
  · have hr := (h.rereads htidy hchecked fun text htext => absurd (by rw [htext]; rfl) hs).1
    exact fun c hc => ⟨hr.feed c hc, hr.trimmed c hc⟩

theorem Comment.Spells.contents_trimmed {body : List Char} {segments : List Segment}
    (h : Spells body segments) (htidy : Tidy body) (hchecked : ∀ s ∈ segments, s.Checked) :
    ∀ s ∈ segments, ∀ c ∈ s.contents, '\n' ∉ c.toList ∧ trimEnd c.toList = c.toList := by
  induction h with
  | blank => simp
  | @chunk pre used rest s segments hpre hchunk hnext hrest ih =>
    have hused : Tidy used := htidy.of_part ⟨pre, rest, rfl⟩
    have htail : Tidy rest := htidy.of_part ⟨pre ++ used, [], by simp⟩
    refine List.forall_mem_cons.2 ⟨hchunk.contents_trimmed hused (hchecked s (by simp)), ?_⟩
    exact ih htail fun t ht => hchecked t (by simp [ht])

/-- The lines that a comment is written in, if it was read and passes the checks. -/
theorem contents_trimmed_of_read {block : String} {comment : Comment}
    (h : Comment.read block = .ok comment) (hvalid : comment.validate = .ok ()) :
    ∀ c ∈ comment.segments.flatMap Segment.contents,
      '\n' ∉ c.toList ∧ trimEnd c.toList = c.toList := by
  obtain ⟨contents, hcontents, hspells⟩ := readLines_eq_ok_iff.1 h
  have htidy : Tidy (joinLines contents) := by
    refine tidy_of_lineContents hcontents fun line hline => ?_
    obtain ⟨l, hl, rfl⟩ := List.mem_map.1 (List.mem_filter.1 hline).1
    rw [String.toList_ofList]
    exact not_mem_of_mem_lines hl
  intro c hc
  obtain ⟨s, hs, hc⟩ := List.mem_flatMap.1 hc
  exact hspells.contents_trimmed htidy (checked_of_validate hvalid) s hs c hc

end Gloss
