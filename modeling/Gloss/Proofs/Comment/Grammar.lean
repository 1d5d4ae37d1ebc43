import Gloss.Proofs.Comment.Element
import Gloss.Proofs.Outcome
import Gloss.Proofs.Text.Blank

/-!
# What the body of a comment spells

A body is a row of chunks with blanks between them: loose text, XML comments and
elements (`Chunk`). `Spells` relates a body to the segments of its chunks and
`readSegments` computes that relation (`readSegments_eq_ok_iff`).

Only loose text looks at what follows it, since it reaches to the next `<`. So a
body may be continued by a text that opens with an element:
`Spells.readSegments_append` reads both parts one after the other, and gives the
fault of the second part where it has one.
-/

namespace Gloss.Comment

open Gloss.Text

/-! ## Chunks and bodies -/

/-- The first character of a text that is not blank is a `<`, if there is one. -/
def Opens (cs : List Char) : Prop :=
  ∀ c ∈ (trimStart cs).head?, c = '<'

/-- A text that reads as one segment, without blanks at its ends. -/
inductive Chunk : List Char → Segment → Prop where
  | loose {c : Char} {more : List Char} (hc : isBlank c = false)
      (hend : trimEnd (c :: more) = c :: more) (hlt : '<' ∉ c :: more) :
      Chunk (c :: more) (keepVerbatim (c :: more))
  | xmlComment {more inside : List Char} (hopen : ['!', '-', '-'] <+: more)
      (hx : breakOn ['-', '-', '>'] ('<' :: more) = some (inside, [])) :
      Chunk ('<' :: more) (keepVerbatim ('<' :: more))
  | element {more : List Char} {segment : Segment}
      (hopen : ∀ tail, ¬ ['!', '-', '-'] <+: more ++ tail)
      (hread : ∀ tail, readElement (more ++ tail) = .ok (segment, tail)) :
      Chunk ('<' :: more) segment

/-- A body and its segments: chunks with blanks between them, where loose text
reaches to the next `<`. -/
inductive Spells : List Char → List Segment → Prop where
  | blank {body : List Char} (h : isBlankText body = true) : Spells body []
  | chunk {pre used rest : List Char} {segment : Segment} {segments : List Segment}
      (hpre : isBlankText pre = true) (hchunk : Chunk used segment)
      (hnext : used.head? = some '<' ∨ Opens rest) (hrest : Spells rest segments) :
      Spells (pre ++ used ++ rest) (segment :: segments)

theorem Opens.append_blank {pre : List Char} (hpre : isBlankText pre = true) {cs : List Char}
    (h : Opens cs) : Opens (pre ++ cs) := by
  rwa [Opens, trimStart_append_of_blank hpre]

theorem Opens.append {a b : List Char} (ha : Opens a) (hb : Opens b) : Opens (a ++ b) := by
  cases ht : trimStart a with
  | nil => exact Opens.append_blank (trimStart_eq_nil_iff.1 ht) hb
  | cons c more =>
    obtain ⟨pre, hpre, hblank⟩ := trimStart_split a
    rw [hpre, List.append_assoc]
    refine Opens.append_blank hblank ?_
    have hc : c = '<' := ha c (by simp [ht])
    rw [ht, hc]
    simp [Opens, trimStart, isBlank]

theorem opens_cons (more : List Char) : Opens ('<' :: more) := by
  simp [Opens, trimStart, isBlank]

theorem opens_dropWhile (cs : List Char) : Opens (cs.dropWhile (· != '<')) := by
  cases h : cs.dropWhile (· != '<') with
  | nil => simp [Opens, trimStart]
  | cons c more =>
    have hne : cs.dropWhile (· != '<') ≠ [] := by simp [h]
    have := List.head_dropWhile_not (· != '<') hne
    simp only [h, List.head_cons, bne_eq_false_iff_eq] at this
    rw [this]
    exact opens_cons more

/-- Opening texts, taken apart. -/
theorem Opens.cases {cs : List Char} (h : Opens cs) :
    ∃ pre, isBlankText pre = true ∧ (cs = pre ∨ ∃ more, cs = pre ++ '<' :: more) := by
  obtain ⟨pre, hpre, hblank⟩ := trimStart_split cs
  refine ⟨pre, hblank, ?_⟩
  cases ht : trimStart cs with
  | nil => exact .inl (by rw [hpre, ht, List.append_nil])
  | cons c more =>
    have hc : c = '<' := h c (by simp [ht])
    exact .inr ⟨more, by rw [hpre, ht, hc]⟩

theorem keepVerbatim_append_of_blank {post : List Char} (raw : List Char)
    (hpost : isBlankText post = true) : keepVerbatim (raw ++ post) = keepVerbatim raw := by
  have hnil : isBlankText [] = true := rfl
  rw [keepVerbatim, ← List.nil_append raw, trim_append_of_blank hnil raw hpost]
  rfl

/-! ## The reader by cases -/

theorem readSegments_of_blank {body : List Char} (h : isBlankText body = true) :
    readSegments body = .ok [] := by
  rw [readSegments]
  split
  · rfl
  · rename_i hb
    rw [trimStart_eq_nil_iff.2 h] at hb
    cases hb

/-- The reader on a body whose blanks are skipped. -/
theorem readSegments_of_cons {body more : List Char} {c : Char} (hb : trimStart body = c :: more) :
    readSegments body =
      if c ≠ '<' then
        (readSegments (more.dropWhile (· != '<'))).map
          (keepVerbatim ((c :: more).takeWhile (· != '<')) :: ·)
      else if ['!', '-', '-'].isPrefixOf more then
        match breakOn ['-', '-', '>'] (c :: more) with
        | none => .error .openXmlComment
        | some (inside, after) =>
          (readSegments after).map (keepVerbatim (inside ++ ['-', '-', '>']) :: ·)
      else
        match readElement more with
        | .error fault => .error fault
        | .ok (segment, after) => (readSegments after).map (segment :: ·) := by
  rw [readSegments]
  split
  · rename_i hnil
    rw [hb] at hnil
    cases hnil
  · rename_i hcons
    rw [hb] at hcons
    cases hcons
    dsimp only
    split
    · rfl
    · split
      · split <;> rename_i hx <;> rw [hx]
      · split <;> rename_i he <;> rw [he]

theorem readSegments_of_loose {body more : List Char} {c : Char} (hb : trimStart body = c :: more)
    (hc : c ≠ '<') :
    readSegments body = (readSegments (more.dropWhile (· != '<'))).map
      (keepVerbatim ((c :: more).takeWhile (· != '<')) :: ·) := by
  rw [readSegments_of_cons hb, if_pos hc]

theorem readSegments_of_xmlComment {body more inside after : List Char}
    (hb : trimStart body = '<' :: more) (hopen : ['!', '-', '-'] <+: more)
    (hx : breakOn ['-', '-', '>'] ('<' :: more) = some (inside, after)) :
    readSegments body =
      (readSegments after).map (keepVerbatim (inside ++ ['-', '-', '>']) :: ·) := by
  rw [readSegments_of_cons hb, if_neg (by simp), if_pos (List.isPrefixOf_iff_prefix.2 hopen), hx]

theorem readSegments_of_element {body more after : List Char} {segment : Segment}
    (hb : trimStart body = '<' :: more) (hopen : ¬ ['!', '-', '-'] <+: more)
    (he : readElement more = .ok (segment, after)) :
    readSegments body = (readSegments after).map (segment :: ·) := by
  rw [readSegments_of_cons hb, if_neg (by simp), if_neg (by rwa [List.isPrefixOf_iff_prefix]), he]

/-- Blanks in front of a body do not count. -/
theorem readSegments_append_of_blank {pre : List Char} (hpre : isBlankText pre = true)
    (body : List Char) : readSegments (pre ++ body) = readSegments body := by
  have ht := trimStart_append_of_blank hpre body
  cases hb : trimStart body with
  | nil =>
    have hblank := trimStart_eq_nil_iff.1 hb
    rw [readSegments_of_blank hblank, readSegments_of_blank]
    rw [isBlankText_append, hpre, hblank]
    rfl
  | cons c more => rw [readSegments_of_cons hb, readSegments_of_cons (ht.trans hb)]

/-! ## Reading one chunk -/

theorem takeWhile_of_not_mem {cs : List Char} (h : '<' ∉ cs) (rest : List Char) :
    (cs ++ rest).takeWhile (· != '<') = cs ++ rest.takeWhile (· != '<') := by
  refine List.takeWhile_append_of_pos fun c hc => ?_
  simpa using fun heq : c = '<' => h (heq ▸ hc)

theorem dropWhile_of_not_mem {cs : List Char} (h : '<' ∉ cs) (rest : List Char) :
    (cs ++ rest).dropWhile (· != '<') = rest.dropWhile (· != '<') := by
  refine List.dropWhile_append_of_pos fun c hc => ?_
  simpa using fun heq : c = '<' => h (heq ▸ hc)

theorem not_mem_of_blank {pre : List Char} (h : isBlankText pre = true) : '<' ∉ pre :=
  fun hm => absurd (isBlankText_iff.1 h _ hm) (by decide)

theorem readSegments_loose_append {c : Char} {more rest : List Char} (hc : isBlank c = false)
    (hlt : '<' ∉ c :: more) (hrest : Opens rest) :
    readSegments (c :: more ++ rest) = (readSegments rest).map (keepVerbatim (c :: more) :: ·) := by
  have hlt' : '<' ∉ more := fun h => hlt (List.mem_cons_of_mem c h)
  have hne : c ≠ '<' := fun h => hlt (by simp [h])
  have ht : trimStart (c :: more ++ rest) = c :: (more ++ rest) := trimStart_cons_of_not_blank hc _
  rw [readSegments_of_loose ht hne, dropWhile_of_not_mem hlt', ← List.cons_append,
    takeWhile_of_not_mem hlt]
  obtain ⟨pre, hpre, rfl | ⟨body, rfl⟩⟩ := hrest.cases
  · have htake : rest.takeWhile (· != '<') = rest := by
      simpa using takeWhile_of_not_mem (not_mem_of_blank hpre) []
    have hdrop : rest.dropWhile (· != '<') = [] := by
      simpa using dropWhile_of_not_mem (not_mem_of_blank hpre) []
    rw [htake, hdrop, readSegments_of_blank hpre, readSegments_of_blank (by rfl),
      keepVerbatim_append_of_blank (c :: more) hpre]
  · rw [takeWhile_of_not_mem (not_mem_of_blank hpre), dropWhile_of_not_mem (not_mem_of_blank hpre),
      readSegments_append_of_blank hpre]
    simp only [List.takeWhile_cons, List.dropWhile_cons, bne_self_eq_false, Bool.false_eq_true,
      if_false, List.append_nil]
    rw [keepVerbatim_append_of_blank (c :: more) hpre]

/-- A chunk is read as its segment, and then the rest is read. -/
theorem Chunk.readSegments_append {used rest : List Char} {segment : Segment}
    (h : Chunk used segment) (hnext : used.head? = some '<' ∨ Opens rest) :
    readSegments (used ++ rest) = (readSegments rest).map (segment :: ·) := by
  cases h with
  | @loose c more hc hend hlt =>
    refine readSegments_loose_append hc hlt (hnext.resolve_left ?_)
    intro h
    simp only [List.head?_cons, Option.some.injEq] at h
    exact hlt (by simp [h])
  | @xmlComment more inside hopen hx =>
    have hsplit : '<' :: more = inside ++ ['-', '-', '>'] := by simpa using breakOn_eq hx
    have hx' : breakOn ['-', '-', '>'] ('<' :: (more ++ rest)) = some (inside, rest) := by
      simpa using breakOn_append hx rest
    rw [List.cons_append, readSegments_of_xmlComment (trimStart_cons_of_not_blank (by decide) _)
      (hopen.trans (List.prefix_append _ _)) hx', hsplit]
  | @element more segment hopen hread =>
    exact readSegments_of_element (trimStart_cons_of_not_blank (by decide) _) (hopen rest)
      (hread rest)

/-! ## Reading a body -/

theorem Spells.append_blank {pre body : List Char} {segments : List Segment}
    (hpre : isBlankText pre = true) (h : Spells body segments) : Spells (pre ++ body) segments := by
  cases h with
  | blank h => exact .blank (by rw [isBlankText_append, hpre, h]; rfl)
  | @chunk pre' used rest segment segments hpre' hchunk hnext hrest =>
    have hboth : isBlankText (pre ++ pre') = true := by
      rw [isBlankText_append, hpre, hpre']
      rfl
    have := Spells.chunk hboth hchunk hnext hrest
    simpa using this

/-- A body may be continued where an element opens: the parts are read one after
the other. -/
theorem Spells.readSegments_append {body : List Char} {segments : List Segment}
    (h : Spells body segments) {rest : List Char} (hrest : Opens rest) :
    readSegments (body ++ rest) = (readSegments rest).map (segments ++ ·) := by
  induction h with
  | blank h =>
    rw [readSegments_append_of_blank h]
    cases readSegments rest <;> rfl
  | @chunk pre used more segment segments hpre hchunk hnext hmore ih =>
    have hnext' := hnext.imp_right fun h => h.append hrest
    rw [List.append_assoc, List.append_assoc, readSegments_append_of_blank hpre,
      hchunk.readSegments_append hnext', ih]
    cases readSegments rest <;> rfl

theorem Spells.readSegments_eq {body : List Char} {segments : List Segment}
    (h : Spells body segments) : readSegments body = .ok segments := by
  have hnil : Opens [] := by simp [Opens, trimStart]
  have hread := h.readSegments_append hnil
  have hend : readSegments [] = .ok [] := readSegments_of_blank rfl
  rw [List.append_nil, hend] at hread
  simpa [Except.map] using hread

theorem chunk_of_xmlComment {more inside after : List Char} (hopen : ['!', '-', '-'] <+: more)
    (hx : breakOn ['-', '-', '>'] ('<' :: more) = some (inside, after)) :
    ∃ used, '<' :: more = '<' :: used ++ after ∧ inside ++ ['-', '-', '>'] = '<' :: used ∧
      Chunk ('<' :: used) (keepVerbatim ('<' :: used)) := by
  have hsplit := breakOn_eq hx
  cases inside with
  | nil => simp at hsplit
  | cons c inside =>
    simp only [List.cons_append, List.cons.injEq] at hsplit
    obtain ⟨rfl, hmore⟩ := hsplit
    have hx' : breakOn ['-', '-', '>'] ('<' :: (inside ++ ['-', '-', '>'])) =
        some ('<' :: inside, []) := by simpa using breakOn_retail hx []
    refine ⟨inside ++ ['-', '-', '>'], by simp [hmore], rfl, .xmlComment ?_ hx'⟩
    rw [hmore] at hopen
    refine List.prefix_of_prefix_length_le hopen (List.prefix_append _ _) ?_
    simp

theorem chunk_of_element {more after : List Char} {segment : Segment}
    (hopen : ¬ ['!', '-', '-'] <+: more) (he : readElement more = .ok (segment, after)) :
    ∃ used, '<' :: more = '<' :: used ++ after ∧ Chunk ('<' :: used) segment := by
  obtain ⟨used, rfl, hlast, hread⟩ := readElement_retail he
  refine ⟨used, rfl, .element (fun tail hpre => hopen ?_) hread⟩
  -- An element is no shorter than the mark of an XML comment, unless its `>` lies in it.
  have hlen : 3 ≤ used.length := by
    apply Nat.le_of_not_lt
    intro hlt
    have hshort : used <+: ['!', '-', '-'] :=
      List.prefix_of_prefix_length_le (List.prefix_append used tail) hpre (Nat.le_of_lt hlt)
    have := hshort.subset (List.mem_of_getLast? hlast)
    revert this
    decide
  exact (List.prefix_of_prefix_length_le hpre (List.prefix_append used tail) hlen).trans
    (List.prefix_append used after)

theorem chunk_of_loose {c : Char} {more : List Char} (hc : isBlank c = false) (hne : c ≠ '<') :
    ∃ used post, (c :: more).takeWhile (· != '<') = used ++ post ∧ isBlankText post = true ∧
      Chunk used (keepVerbatim ((c :: more).takeWhile (· != '<'))) := by
  obtain ⟨post, hsplit, hpost⟩ := trimEnd_split ((c :: more).takeWhile (· != '<'))
  refine ⟨_, post, hsplit, hpost, ?_⟩
  have hlt : '<' ∉ trimEnd ((c :: more).takeWhile (· != '<')) := by
    intro hm
    have hm' : '<' ∈ (c :: more).takeWhile (· != '<') := by
      rw [hsplit]
      exact List.mem_append_left post hm
    have := List.all_eq_true.1 List.all_takeWhile _ hm'
    simp at this
  cases ht : trimEnd ((c :: more).takeWhile (· != '<')) with
  | nil =>
    have := isBlankText_iff.1 (trimEnd_eq_nil_iff.1 ht) c (by simp [hne])
    rw [hc] at this
    cases this
  | cons d ds =>
    rw [ht] at hsplit hlt
    have hd : d = c := by
      have := congrArg List.head? hsplit
      simpa [hne] using this.symm
    rw [hsplit, keepVerbatim_append_of_blank _ hpost]
    refine .loose (hd ▸ hc) ?_ hlt
    have := trimEnd_append_of_blank (d :: ds) hpost
    rw [← hsplit, ht] at this
    exact this.symm

theorem spells_of_readSegments {body : List Char} {segments : List Segment}
    (h : readSegments body = .ok segments) : Spells body segments := by
  fun_induction readSegments body generalizing segments with
  | case1 body hb =>
    cases h
    exact .blank (trimStart_eq_nil_iff.1 hb)
  | case2 body c more hb hle hne text hlt =>
    rename_i ih
    obtain ⟨ss, hss, rfl⟩ := ok_of_map h
    obtain ⟨used, post, htext, hpost, hchunk⟩ := chunk_of_loose (isBlank_of_trimStart hb) hne
    obtain ⟨pre, hpre, hblank⟩ := trimStart_split body
    have hdrop : (c :: more).dropWhile (· != '<') = more.dropWhile (· != '<') := by simp [hne]
    have hsplit : body = pre ++ used ++ (post ++ more.dropWhile (· != '<')) := by
      have := @List.takeWhile_append_dropWhile _ (· != '<') (c :: more)
      rw [htext, hdrop] at this
      rw [hpre, hb, ← this]
      simp
    rw [hsplit]
    exact .chunk hblank hchunk (.inr (Opens.append_blank hpost (opens_dropWhile more)))
      ((ih hss).append_blank hpost)
  | case3 => cases h
  | case4 body c more hb hle hc hopen inside after hx hlt ih =>
    obtain ⟨ss, hss, rfl⟩ := ok_of_map h
    obtain rfl : c = '<' := by simpa using hc
    obtain ⟨pre, hpre, hblank⟩ := trimStart_split body
    obtain ⟨used, hmore, hinside, hchunk⟩ :=
      chunk_of_xmlComment (List.isPrefixOf_iff_prefix.1 hopen) hx
    rw [hpre, hb, hmore, hinside, ← List.append_assoc]
    exact .chunk hblank hchunk (.inl rfl) (ih hss)
  | case5 => cases h
  | case6 body c more hb hle hc hopen segment after he hlt ih =>
    obtain ⟨ss, hss, rfl⟩ := ok_of_map h
    obtain rfl : c = '<' := by simpa using hc
    obtain ⟨pre, hpre, hblank⟩ := trimStart_split body
    obtain ⟨used, hmore, hchunk⟩ :=
      chunk_of_element (by rwa [List.isPrefixOf_iff_prefix] at hopen) he
    rw [hpre, hb, hmore, ← List.append_assoc]
    exact .chunk hblank hchunk (.inl rfl) (ih hss)

/-- The reader computes what a body spells. -/
theorem readSegments_eq_ok_iff {body : List Char} {segments : List Segment} :
    readSegments body = .ok segments ↔ Spells body segments :=
  ⟨spells_of_readSegments, Spells.readSegments_eq⟩

theorem Spells.append {a b : List Char} {as bs : List Segment} (ha : Spells a as)
    (hb : Spells b bs) (hopens : Opens b) : Spells (a ++ b) (as ++ bs) := by
  refine readSegments_eq_ok_iff.1 ?_
  rw [ha.readSegments_append hopens, hb.readSegments_eq]
  rfl

/-! ## Across a line break -/

/-- Two bodies, one on the lines behind the other, that spell segments with a chunk
which starts in the first and ends in the second. -/
inductive Across (old new : List Char) : List Segment → Prop where
  | intro {front opened closed after : List Char} {segment : Segment} {as bs : List Segment}
      (hold : old = front ++ '<' :: opened) (hnew : new = closed ++ after)
      (hfront : Spells front as)
      (hchunk : Chunk ('<' :: opened ++ '\n' :: closed) segment) (hafter : Spells after bs) :
      Across old new (as ++ segment :: bs)

theorem Across.spells {old new : List Char} {segments : List Segment}
    (h : Across old new segments) : Spells (old ++ '\n' :: new) segments := by
  obtain ⟨rfl, rfl, hfront, hchunk, hafter⟩ := h
  rename_i front opened closed after segment as bs
  have hnil : isBlankText [] = true := rfl
  have hrest := Spells.chunk hnil hchunk (.inl rfl) hafter
  have := hfront.append hrest (opens_cons _)
  simpa using this

theorem Opens.of_append {a b : List Char} (h : Opens (a ++ b)) : Opens a := by
  cases ht : trimStart a with
  | nil => simp [Opens, ht]
  | cons c more =>
    have hab : trimStart (a ++ b) = c :: more ++ b := by
      rw [trimStart] at ht
      simp [trimStart, List.dropWhile_append, ht]
    have hc : c = '<' := h c (by rw [hab]; rfl)
    simp [Opens, ht, hc]

/-- A chunk before the first body is one of its chunks. -/
theorem Across.chunk {pre used old new : List Char} {segment : Segment} {segments : List Segment}
    (hpre : isBlankText pre = true) (hchunk : Chunk used segment)
    (hnext : used.head? = some '<' ∨ Opens old) (h : Across old new segments) :
    Across (pre ++ used ++ old) new (segment :: segments) := by
  obtain ⟨rfl, hnew, hfront, hchunk', hafter⟩ := h
  rename_i front opened closed after segment' as bs
  have hold : pre ++ used ++ (front ++ '<' :: opened) =
      pre ++ used ++ front ++ '<' :: opened := by simp
  have hfront' := Spells.chunk hpre hchunk (hnext.imp_right Opens.of_append) hfront
  exact .intro hold hnew hfront' hchunk' hafter

theorem Chunk.cases_head {used : List Char} {segment : Segment} (h : Chunk used segment) :
    ∃ c more, used = c :: more ∧ isBlank c = false := by
  cases h with
  | loose hc => exact ⟨_, _, rfl, hc⟩
  | xmlComment => exact ⟨_, _, rfl, by decide⟩
  | element => exact ⟨_, _, rfl, by decide⟩

/-- A chunk that goes on behind a line break, and further if an element opens
there, is not loose text. -/
theorem Chunk.head?_of_break {start rest new closed : List Char} {segment : Segment}
    (h : Chunk (start ++ '\n' :: closed) segment) (hne : start ≠ [])
    (hclosed : '<' :: new = closed ++ rest) : start.head? = some '<' := by
  generalize hused : start ++ '\n' :: closed = used at h
  have hhead : used.head? = some '<' → start.head? = some '<' := by
    cases start with
    | nil => exact absurd rfl hne
    | cons c start =>
      rw [← hused]
      exact id
  cases h with
  | loose hc hend hlt =>
    cases closed with
    | nil =>
      rw [← hused] at hend
      exact absurd (trimEnd_eq_self_iff.1 hend '\n' (by simp)) (by decide)
    | cons c closed =>
      obtain ⟨rfl, -⟩ := List.cons.inj hclosed
      exact absurd (by rw [← hused]; simp) hlt
  | xmlComment => exact hhead rfl
  | element => exact hhead rfl

/-- A body that goes on with an element on the next line is read in two parts, or
a chunk lies across the line break. -/
theorem Spells.split {old new : List Char} {segments : List Segment}
    (h : Spells (old ++ '\n' :: '<' :: new) segments) :
    (∃ as bs, segments = as ++ bs ∧ Spells old as ∧ Spells ('\n' :: '<' :: new) bs) ∨
      Across old ('<' :: new) segments := by
  generalize hbody : old ++ '\n' :: '<' :: new = body at h
  induction h generalizing old with
  | blank hblank =>
    rw [← hbody] at hblank
    exact absurd (by simp) (not_mem_of_blank hblank)
  | @chunk pre used rest segment segments hpre hchunk hnext hrest ih =>
    -- The chunk lies in the first body, and the rest is split.
    have hbefore : ∀ old', old = pre ++ used ++ old' → old' ++ '\n' :: '<' :: new = rest →
        (∃ as bs, segment :: segments = as ++ bs ∧ Spells old as ∧ Spells ('\n' :: '<' :: new) bs) ∨
          Across old ('<' :: new) (segment :: segments) := by
      rintro old' rfl hrest'
      have hnext' : used.head? = some '<' ∨ Opens old' :=
        hnext.imp_right fun h => (hrest' ▸ h).of_append
      rcases ih hrest' with ⟨as, bs, rfl, has, hbs⟩ | hacross
      · exact .inl ⟨segment :: as, bs, rfl, .chunk hpre hchunk hnext' has, hbs⟩
      · exact .inr (hacross.chunk hpre hchunk hnext')
    rcases List.append_eq_append_iff.1 hbody.symm with ⟨w, hw, hrest'⟩ | ⟨w, hw, hrest'⟩
    · exact hbefore w hw hrest'.symm
    · cases w with
      | nil => exact hbefore [] (by simpa using hw.symm) (by simpa using hrest')
      | cons c w =>
        obtain ⟨rfl, hnew⟩ := List.cons.inj hrest'
        obtain ⟨d, more, hd, hblank⟩ := hchunk.cases_head
        rcases List.append_eq_append_iff.1 hw with ⟨v, rfl, hused⟩ | ⟨v, rfl, hv⟩
        · -- The line break lies in the chunk.
          have hne : v ≠ [] := by
            rintro rfl
            obtain ⟨rfl, -⟩ := List.cons.inj (hd.symm.trans hused)
            exact absurd hblank (by decide)
          rw [hused] at hchunk
          obtain ⟨opened, rfl⟩ := List.head?_eq_some_iff.1 (hchunk.head?_of_break hne hnew)
          exact .inr (.intro rfl hnew (.blank hpre) hchunk hrest)
        · -- The line break lies among the blanks before the chunk.
          cases v with
          | nil =>
            obtain ⟨rfl, -⟩ := List.cons.inj (hd.symm.trans hv.symm)
            exact absurd hblank (by decide)
          | cons e v =>
            obtain ⟨rfl, rfl⟩ := List.cons.inj hv
            rw [isBlankText_append, Bool.and_eq_true] at hpre
            refine .inl ⟨[], segment :: segments, rfl, .blank hpre.1, ?_⟩
            have := Spells.chunk hpre.2 hchunk hnext hrest
            simpa [hnew] using this

end Gloss.Comment
