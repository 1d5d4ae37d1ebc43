import Gloss.Proofs.Source.Split
import Gloss.Source.Collect
import Mathlib.Data.List.Basic

/-!
# Trivia of a text

What the trivia of a declaration say of the text in front of it, whatever comments stand
there (`Pieces`, `pieces_leadingTrivia`). From it follow:

* no character is lost (`Pieces.render_eq`);
* blanks behind a line break at the end of the text are the last piece, unless a comment
  takes them in (`Pieces.eq_concat_of_indent`).
-/

namespace Gloss.Source

open Gloss.Text

/-! ## Lines -/

/-- The last line of a text has something on it, not only blanks. -/
def Inked (text : List Char) : Prop :=
  ∃ c ∈ linePrefix text, ¬ (c = ' ' ∨ c = '\t')

theorem linePrefix_split (cs : List Char) :
    ∃ lead, cs = lead ++ linePrefix cs ∧ (lead = [] ∨ lead.getLast? = some '\n') := by
  refine ⟨(cs.reverse.dropWhile (· != '\n')).reverse, ?_, ?_⟩
  · rw [linePrefix, ← List.reverse_append, List.takeWhile_append_dropWhile, List.reverse_reverse]
  · rw [List.getLast?_reverse, List.reverse_eq_nil_iff]
    cases h : cs.reverse.dropWhile (· != '\n') with
    | nil => exact .inl rfl
    | cons c rest =>
      have hc := head?_dropWhile_eq_false (p := (· != '\n')) (congrArg List.head? h)
      exact .inr (congrArg some (by simpa using hc))

theorem linePrefix_append {lead line : List Char} (hlead : lead = [] ∨ lead.getLast? = some '\n')
    (hline : '\n' ∉ line) : linePrefix (lead ++ line) = line := by
  have hkeep : ∀ c ∈ line.reverse, (c != '\n') = true := by
    intro c hc
    rw [bne_iff_ne]
    rintro rfl
    exact hline (List.mem_reverse.1 hc)
  have hstop : ∀ c, lead.reverse.head? = some c → (c != '\n') = false := by
    intro c hc
    rw [List.head?_reverse] at hc
    rcases hlead with rfl | hlead
    · cases hc
    · obtain rfl := Option.some.inj (hc.symm.trans hlead)
      rfl
  rw [linePrefix, List.reverse_append, takeWhile_append_of_head? hkeep hstop, List.reverse_reverse]

theorem not_mem_of_indent {cs : List Char} (h : ∀ c ∈ cs, c = ' ' ∨ c = '\t') : '\n' ∉ cs := by
  intro hmem
  rcases h _ hmem with hc | hc <;> cases hc

/-- A text whose last line is made of blanks only. -/
theorem not_inked {lead indent : List Char} (hlead : lead = [] ∨ lead.getLast? = some '\n')
    (hindent : ∀ c ∈ indent, c = ' ' ∨ c = '\t') : ¬ Inked (lead ++ indent) := by
  rintro ⟨c, hc, hblank⟩
  rw [linePrefix_append hlead (not_mem_of_indent hindent)] at hc
  exact hblank (hindent c hc)

/-- A text that does not end in blanks with nothing else on their line. -/
def Anchored (text : List Char) : Prop :=
  linePrefix text = [] ∨ Inked text

/-- The last line of a text is that of its end, unless the line starts further up. -/
theorem linePrefix_append_cases (before text : List Char) :
    linePrefix (before ++ text) = linePrefix text ∨
      linePrefix text = text ∧ linePrefix (before ++ text) = linePrefix before ++ text := by
  simp only [linePrefix, List.reverse_append, List.takeWhile_append]
  split
  · rename_i hlength
    have hline : text.reverse.takeWhile (· != '\n') <+: text.reverse := List.takeWhile_prefix _
    have hall := hline.eq_of_length hlength
    exact .inr ⟨by rw [hall, List.reverse_reverse], by simp⟩
  · exact .inl rfl

theorem Anchored.append {text : List Char} (h : Anchored text) (hne : text ≠ [])
    (before : List Char) : Anchored (before ++ text) := by
  rcases linePrefix_append_cases before text with heq | ⟨hall, heq⟩
  · rw [Anchored, Inked, heq]
    exact h
  · obtain ⟨c, hc, hblank⟩ := h.resolve_left (by rwa [hall])
    rw [hall] at hc
    exact .inr ⟨c, by rw [heq]; exact List.mem_append_right _ hc, hblank⟩

/-! ## Pieces -/

/-- A comment that satisfies `C`, without the line breaks at its end, stands where a span
says. -/
def CommentSpan.At (C : List Char → Prop) (source : List Char) (s : CommentSpan) : Prop :=
  ∃ before text after, source = before ++ (text ++ after) ∧ byteLength before = s.start ∧
    s.stop = s.start + byteLength text ∧ text.head? = some '/' ∧ C (dropEndWhile isBreak text)

/-- What a text is as a piece of trivia that is followed by `rest`; `C` is what is known of
comments. -/
inductive IsPiece (C : List Char → Prop) : (text rest : List Char) → Trivia → Prop where
  | comment {text rest : List Char} (h : C text) (hhead : text.head? = some '/')
      (hlast : ∀ c, text.getLast? = some c → isBreak c = false) :
      IsPiece C text rest (commentPiece text)
  | spacing {text rest : List Char} (hne : text ≠ []) (h : ∀ c ∈ text, isSpacing c = true)
      (hrest : ∀ c, rest.head? = some c → isSpacing c = false) :
      IsPiece C text rest (.whitespace (String.ofList text))
  | lineBreak {rest : List Char} : IsPiece C ['\r', '\n'] rest (.endOfLine "\r\n")
  | halfBreak {c : Char} {rest : List Char} (h : isBreak c = true)
      (hrest : c = '\r' → rest.head? ≠ some '\n') :
      IsPiece C [c] rest (.endOfLine (String.ofList [c]))
  | other {c : Char} {text rest : List Char} (hc : isSpacing c = false)
      (h : ∀ d ∈ c :: text, isBreak d = false) :
      IsPiece C (c :: text) rest (commentPiece (c :: text))

/-- The pieces of a text. -/
inductive Pieces (C : List Char → Prop) : List Char → List Trivia → Prop where
  | nil : Pieces C [] []
  | cons {text rest : List Char} {piece : Trivia} {pieces : List Trivia}
      (h : IsPiece C text rest piece) (hrest : Pieces C rest pieces) :
      Pieces C (text ++ rest) (piece :: pieces)

variable {C : List Char → Prop}

theorem IsPiece.text_eq {text rest : List Char} {piece : Trivia} (h : IsPiece C text rest piece) :
    piece.text.toList = text := by
  cases h with
  | comment | other => exact text_commentPiece _
  | spacing | halfBreak => simp [Trivia.text]
  | lineBreak => rfl

theorem IsPiece.ne_nil {text rest : List Char} {piece : Trivia} (h : IsPiece C text rest piece) :
    text ≠ [] := by
  cases h with
  | comment _ hhead =>
    rintro rfl
    cases hhead
  | spacing hne => exact hne
  | lineBreak | halfBreak | other => exact List.cons_ne_nil _ _

/-- What is taken off a text is a piece, if its comment stands where it is said to. -/
theorem Takes.isPiece {source before text rest after : List Char} {next : Option CommentSpan}
    {piece : Trivia} (h : Takes next (byteLength before) text rest piece)
    (hsource : source = before ++ (text ++ (rest ++ after)))
    (hnext : ∀ s, next = some s → s.At C source) : IsPiece C text rest piece := by
  cases h with
  | @comment s _ breaks behind _ hs hstart hstop hhead hlast hbreaks hrest =>
    obtain ⟨before', text', after', hsource', hbefore, hstop', -, hC⟩ := hnext s hs
    obtain ⟨rfl, hbehind⟩ := append_inj (hsource.symm.trans hsource') (hstart.symm.trans hbefore.symm)
    have hwhole : text ++ breaks = text' := by
      rw [hrest, List.append_assoc, ← List.append_assoc] at hbehind
      refine (append_inj hbehind ?_).1
      omega
    rw [← hwhole, dropEndWhile_append hlast hbreaks] at hC
    exact .comment hC hhead hlast
  | spacing _ hne h hrest => exact .spacing hne h hrest
  | lineBreak => exact .lineBreak
  | halfBreak _ h hrest => exact .halfBreak h hrest
  | other _ hc h => exact .other hc h

theorem Splits.pieces {source region : List Char} {comments : List CommentSpan} {pos : Nat}
    {trivia : List Trivia} (h : Splits comments pos region trivia) {before after : List Char}
    (hpos : pos = byteLength before) (hsource : source = before ++ (region ++ after))
    (hcomments : ∀ s ∈ comments, s.At C source) : Pieces C region trivia := by
  induction h generalizing before with
  | nil => exact .nil
  | @cons pos text rest piece pieces h _ ih =>
    subst hpos
    rw [List.append_assoc] at hsource
    refine .cons (h.isPiece hsource fun s hs => hcomments s (nextComment_eq_some hs).1) ?_
    have hbehind : source = (before ++ text) ++ (rest ++ after) := by rw [hsource, List.append_assoc]
    exact ih (byteLength_append _ _).symm hbehind

/-- The trivia between two offsets of a source text are the pieces of the text between
them. -/
theorem pieces_leadingTrivia {source before region after : List Char} {comments : List CommentSpan}
    (hsource : source = before ++ (region ++ after)) (hcomments : ∀ s ∈ comments, s.At C source) :
    Pieces C region
      (leadingTrivia source (byteLength before) (byteLength (before ++ region)) comments) := by
  have hslice : slice (byteLength before) (byteLength (before ++ region)) source = some region := by
    rw [hsource, slice_append]
  rw [leadingTrivia, hslice, Option.getD_some]
  refine (splits_splitTrivia fun s hs => .inr ?_).pieces rfl hsource fun s hs =>
    hcomments s (List.mem_filter.1 hs).1
  -- A comment between the offsets stands inside the region.
  obtain ⟨hmem, hinside⟩ := List.mem_filter.1 hs
  obtain ⟨before', text, after', hsource', hstart, hstop, hhead, -⟩ := hcomments s hmem
  simp only [Bool.and_eq_true, decide_eq_true_eq, byteLength_append] at hinside
  obtain ⟨lead, rfl, hlead⟩ := append_split (hsource.symm.trans hsource') (by omega)
  rw [byteLength_append] at hstart
  rw [← List.append_assoc] at hlead
  obtain ⟨rest, hrest, -⟩ := append_split hlead.symm (by rw [byteLength_append]; omega)
  exact ⟨lead, text, rest, by rw [hrest, List.append_assoc], hstart.symm, hstop, hhead⟩

/-! ## What pieces say of the text -/

variable {region : List Char} {trivia : List Trivia}

theorem Pieces.render_eq (h : Pieces C region trivia) : (renderTrivia trivia).toList = region := by
  induction h with
  | nil => rfl
  | cons h _ ih => rw [toList_renderTrivia_cons, h.text_eq, ih]

theorem Pieces.eq_nil (h : Pieces C [] trivia) : trivia = [] := by
  generalize hregion : ([] : List Char) = region at h
  cases h with
  | nil => rfl
  | cons h => exact absurd (List.append_eq_nil_iff.1 hregion.symm).1 h.ne_nil

theorem Pieces.exists_of_mem (h : Pieces C region trivia) {piece : Trivia} (hmem : piece ∈ trivia) :
    ∃ text rest, IsPiece C text rest piece := by
  induction h with
  | nil => cases hmem
  | cons h _ ih =>
    rcases List.mem_cons.1 hmem with rfl | hmem
    · exact ⟨_, _, h⟩
    · exact ih hmem

theorem isSpacing_of_indent {c : Char} (h : c = ' ' ∨ c = '\t') : isSpacing c = true := by
  rcases h with rfl | rfl <;> rfl

theorem isBreak_of_indent {c : Char} (h : c = ' ' ∨ c = '\t') : isBreak c = false := by
  rcases h with rfl | rfl <;> rfl

/-- A piece does not go on from one line into the blanks at the start of the next, unless a
comment does. -/
theorem IsPiece.eq_nil_of_indent {lead indent rest : List Char} {piece : Trivia}
    (h : IsPiece C (lead ++ indent) rest piece) (hC : ∀ text, C text → Inked text)
    (hlead : lead.getLast? = some '\n') (hindent : ∀ c ∈ indent, c = ' ' ∨ c = '\t') :
    indent = [] := by
  have hmem : '\n' ∈ lead ++ indent := List.mem_append_left _ (List.mem_of_getLast? hlead)
  have hbreak : isBreak '\n' = true := rfl
  generalize htext : lead ++ indent = text at h hmem
  cases h with
  | comment h =>
    rw [← htext] at h
    exact absurd (hC _ h) (not_inked (.inr hlead) hindent)
  | spacing _ h => simp [isBreak_of_spacing (h _ hmem)] at hbreak
  | lineBreak | halfBreak =>
    -- The line feed ends the piece.
    by_contra hne
    have hlast := congrArg List.getLast? htext
    rw [List.getLast?_append_of_ne_nil _ hne, List.getLast?_eq_some_getLast hne] at hlast
    have hblank := isBreak_of_indent (hindent _ (List.getLast_mem hne))
    rw [Option.some.inj hlast] at hblank
    simp_all
  | other _ h => simp [h _ hmem] at hbreak

/-- Blanks that are followed by blanks only make one piece with them. -/
theorem IsPiece.of_indent {text rest : List Char} {piece : Trivia} (h : IsPiece C text rest piece)
    (hindent : ∀ c ∈ text ++ rest, c = ' ' ∨ c = '\t') :
    rest = [] ∧ piece = .whitespace (String.ofList text) := by
  cases h with
  | comment _ hhead =>
    obtain ⟨more, rfl⟩ := List.head?_eq_some_iff.1 hhead
    have := hindent '/' (by simp)
    simp at this
  | spacing _ _ hrest =>
    refine ⟨?_, rfl⟩
    cases rest with
    | nil => rfl
    | cons c cs =>
      have := hrest c rfl
      rw [isSpacing_of_indent (hindent c (by simp))] at this
      cases this
  | lineBreak =>
    have := hindent '\n' (by simp)
    simp at this
  | @halfBreak c _ h =>
    rw [isBreak_of_indent (hindent c (by simp))] at h
    cases h
  | @other c _ _ hc =>
    rw [isSpacing_of_indent (hindent c (by simp))] at hc
    cases hc

/-- Where less text follows, a piece is still one. -/
theorem IsPiece.of_append {text rest more : List Char} {piece : Trivia}
    (h : IsPiece C text (rest ++ more) piece) : IsPiece C text rest piece := by
  have hhead : ∀ {c}, rest.head? = some c → (rest ++ more).head? = some c := fun hc => by
    rw [List.head?_append, hc, Option.some_or]
  cases h with
  | comment h hslash hlast => exact .comment h hslash hlast
  | spacing hne h hrest => exact .spacing hne h fun c hc => hrest c (hhead hc)
  | lineBreak => exact .lineBreak
  | halfBreak h hrest => exact .halfBreak h fun hc hnext => hrest hc (hhead hnext)
  | other hc h => exact .other hc h

/-- A line feed with only blanks behind it ends a piece. -/
theorem Pieces.split (h : Pieces C region trivia) (hC : ∀ text, C text → Inked text)
    {lead indent : List Char} (hregion : region = lead ++ indent)
    (hindent : ∀ c ∈ indent, c = ' ' ∨ c = '\t') (hlead : lead = [] ∨ lead.getLast? = some '\n') :
    ∃ pre post, trivia = pre ++ post ∧ Pieces C lead pre ∧ Pieces C indent post := by
  induction h generalizing lead with
  | nil =>
    obtain ⟨rfl, rfl⟩ := List.append_eq_nil_iff.1 hregion.symm
    exact ⟨[], [], rfl, .nil, .nil⟩
  | @cons text rest piece pieces h hrest ih =>
    rcases List.append_eq_append_iff.1 hregion with ⟨e, rfl, rfl⟩ | ⟨e, rfl, rfl⟩
    · -- The piece ends in front of the blanks.
      have he : e = [] ∨ e.getLast? = some '\n' := by
        refine Decidable.or_iff_not_imp_left.2 fun he => ?_
        rw [← List.getLast?_append_of_ne_nil text he]
        exact hlead.resolve_left (by simp [he])
      obtain ⟨pre, post, rfl, hpre, hpost⟩ := ih rfl he
      exact ⟨piece :: pre, post, rfl, .cons h.of_append hpre, hpost⟩
    · rcases hlead with rfl | hlead
      · exact ⟨[], piece :: pieces, rfl, .nil, .cons h hrest⟩
      · have he := h.eq_nil_of_indent hC hlead fun c hc => hindent c (List.mem_append_left _ hc)
        subst he
        rw [List.append_nil] at h
        have hone : Pieces C (lead ++ []) [piece] := .cons (IsPiece.of_append h) .nil
        exact ⟨[piece], pieces, rfl, by rwa [List.append_nil] at hone, hrest⟩

/-- Blanks that follow a line feed, or all of the text, make one piece. -/
theorem Pieces.eq_concat_of_indent (h : Pieces C region trivia) (hC : ∀ text, C text → Inked text)
    {lead indent : List Char} (hregion : region = lead ++ indent) (hne : indent ≠ [])
    (hindent : ∀ c ∈ indent, c = ' ' ∨ c = '\t')
    (hlead : lead = [] ∨ lead.getLast? = some '\n') :
    ∃ pre, trivia = pre ++ [.whitespace (String.ofList indent)] := by
  obtain ⟨pre, post, rfl, -, hpost⟩ := h.split hC hregion hindent hlead
  refine ⟨pre, ?_⟩
  cases hpost with
  | nil => exact absurd rfl hne
  | cons hpiece hrest =>
    obtain ⟨rfl, rfl⟩ := hpiece.of_indent hindent
    rw [hrest.eq_nil, List.append_nil]

/-- Blanks as the last piece stand at the end of the text. -/
theorem Pieces.getLast?_of_whitespace (h : Pieces C region trivia) {blanks : String}
    (hlast : trivia.getLast? = some (.whitespace blanks)) :
    ∃ c, region.getLast? = some c ∧ isSpacing c = true := by
  induction h with
  | nil => cases hlast
  | @cons text rest piece pieces h hrest ih =>
    cases hrest with
    | nil =>
      obtain rfl : piece = .whitespace blanks := by simpa using hlast
      generalize hpiece : Trivia.whitespace blanks = piece at h
      cases h with
      | spacing hne h =>
        rw [List.append_nil]
        exact ⟨_, List.getLast?_eq_some_getLast hne, h _ (List.getLast_mem hne)⟩
      | comment | other =>
        rcases commentPiece_cases _ with heq | heq <;> rw [heq] at hpiece <;> cases hpiece
      | lineBreak | halfBreak => cases hpiece
    | cons h' hrest' =>
      rw [List.getLast?_cons_cons] at hlast
      obtain ⟨c, hc, hspacing⟩ := ih hlast
      refine ⟨c, ?_, hspacing⟩
      rw [List.getLast?_append_of_ne_nil]
      · exact hc
      · simp [h'.ne_nil]

end Gloss.Source
