import Gloss.Proofs.Text.Blank
import Gloss.Proofs.Text.Insert
import Gloss.Source.Leading

/-!
# Cutting a text into trivia, step by step

`splitTrivia` as a relation, which says exactly what each piece takes off the text
(`Takes`, `Splits`). It holds of what `splitTrivia` gives (`splits_splitTrivia`) and of
nothing else (`splitTrivia_of_splits`), wherever comments start with a slash; no more is
asked of them. From it follow:

* no character is lost (`Splits.render_eq`);
* the pieces of two texts make those of one, if the last piece of the first would not go on
  into the second (`Splits.append`).
-/

namespace Gloss.Source

open Gloss.Text

/-! ## Comments -/

/-- A comment stands where its span says, in a text that starts at `pos`. -/
def CommentSpan.In (pos : Nat) (region : List Char) (s : CommentSpan) : Prop :=
  ∃ before text after, region = before ++ (text ++ after) ∧ s.start = pos + byteLength before ∧
    s.stop = s.start + byteLength text ∧ text.head? = some '/'

/-- The next comment at or behind an offset. -/
def nextComment (comments : List CommentSpan) (pos : Nat) : Option CommentSpan :=
  comments.find? fun s => decide (pos ≤ s.start)

theorem head?_dropWhile_comments (comments : List CommentSpan) (pos : Nat) :
    (comments.dropWhile fun s => decide (s.start < pos)).head? = nextComment comments pos := by
  induction comments with
  | nil => rfl
  | cons s comments ih =>
    rw [nextComment] at ih ⊢
    by_cases h : s.start < pos
    · rw [List.dropWhile_cons_of_pos (by simpa using h), ih,
        List.find?_cons_of_neg (by simpa using h)]
    · rw [List.dropWhile_cons_of_neg (by simpa using h), List.find?_cons_of_pos (by simpa using h)]
      rfl

/-- Comments that have been passed do not come again. -/
theorem nextComment_dropWhile (comments : List CommentSpan) {pos later : Nat} (hle : pos ≤ later) :
    nextComment (comments.dropWhile fun s => decide (s.start < pos)) later =
      nextComment comments later := by
  induction comments with
  | nil => rfl
  | cons s comments ih =>
    by_cases h : s.start < pos
    · have hlater : ¬ later ≤ s.start := by omega
      rw [List.dropWhile_cons_of_pos (by simpa using h), ih, nextComment, nextComment,
        List.find?_cons_of_neg (by simpa using hlater)]
    · rw [List.dropWhile_cons_of_neg (by simpa using h)]

theorem nextComment_eq_some {comments : List CommentSpan} {pos : Nat} {s : CommentSpan}
    (h : nextComment comments pos = some s) : s ∈ comments ∧ pos ≤ s.start :=
  ⟨List.mem_of_find?_eq_some h, by simpa using List.find?_some h⟩

theorem nextComment_append (a b : List CommentSpan) (pos : Nat) :
    nextComment (a ++ b) pos = (nextComment a pos).or (nextComment b pos) :=
  List.find?_append

theorem nextComment_of_head {s : CommentSpan} {comments : List CommentSpan} {pos : Nat}
    (h : pos ≤ s.start) : nextComment (s :: comments) pos = some s :=
  List.find?_cons_of_pos (by simpa using h)

theorem nextComment_eq_none {comments : List CommentSpan} {pos : Nat}
    (h : ∀ s ∈ comments, s.start < pos) : nextComment comments pos = none := by
  refine List.find?_eq_none.2 fun s hs => ?_
  have := h s hs
  simpa using this

/-! ## One piece -/

theorem isBreak_of_spacing {c : Char} (h : isSpacing c = true) : isBreak c = false := by
  simp only [isSpacing, Bool.or_eq_true, beq_iff_eq] at h
  rcases h with (rfl | rfl) | rfl <;> rfl

theorem commentPiece_cases (text : List Char) :
    commentPiece text = .comment (String.ofList text) ∨
      commentPiece text = .docComment (String.ofList text) := by
  rw [commentPiece]
  split
  · exact .inr rfl
  · exact .inl rfl

theorem text_commentPiece (text : List Char) : (commentPiece text).text.toList = text := by
  rw [commentPiece]
  split <;> simp [Trivia.text]

/-- What is taken off a text at `pos` as its first piece, and what is left: `next` is the next
comment at or behind `pos`. A comment leaves the line breaks at its end, and text that is none
ends with its line or in front of the next comment. -/
inductive Takes (next : Option CommentSpan) (pos : Nat) :
    (text rest : List Char) → Trivia → Prop where
  | comment {s : CommentSpan} {text breaks after rest : List Char} (hnext : next = some s)
      (hstart : s.start = pos) (hstop : s.stop = pos + byteLength (text ++ breaks))
      (hhead : text.head? = some '/') (hlast : ∀ c, text.getLast? = some c → isBreak c = false)
      (hbreaks : ∀ c ∈ breaks, isBreak c = true) (hrest : rest = breaks ++ after) :
      Takes next pos text rest (commentPiece text)
  | spacing {text rest : List Char} (hfree : ∀ s, next = some s → s.start ≠ pos) (hne : text ≠ [])
      (h : ∀ c ∈ text, isSpacing c = true)
      (hrest : ∀ c, rest.head? = some c → isSpacing c = false) :
      Takes next pos text rest (.whitespace (String.ofList text))
  | lineBreak {rest : List Char} (hfree : ∀ s, next = some s → s.start ≠ pos) :
      Takes next pos ['\r', '\n'] rest (.endOfLine "\r\n")
  | halfBreak {c : Char} {rest : List Char} (hfree : ∀ s, next = some s → s.start ≠ pos)
      (h : isBreak c = true) (hrest : c = '\r' → rest.head? ≠ some '\n') :
      Takes next pos [c] rest (.endOfLine (String.ofList [c]))
  | other {c : Char} {text rest : List Char} (hfree : ∀ s, next = some s → s.start ≠ pos)
      (hc : isSpacing c = false) (h : ∀ d ∈ c :: text, isBreak d = false)
      (hrest : (∃ s, next = some s ∧ s.start = pos + byteLength (c :: text)) ∨
        (∀ d, rest.head? = some d → isBreak d = true) ∧
          ∀ s, next = some s → pos + byteLength (c :: text) ≤ s.start) :
      Takes next pos (c :: text) rest (commentPiece (c :: text))

section

variable {next next' : Option CommentSpan} {pos : Nat} {text rest more : List Char} {piece : Trivia}

theorem Takes.ne_nil (h : Takes next pos text rest piece) : text ≠ [] := by
  cases h with
  | comment _ _ _ hhead =>
    rintro rfl
    cases hhead
  | spacing _ hne => exact hne
  | lineBreak | halfBreak | other => exact List.cons_ne_nil _ _

theorem Takes.text_eq (h : Takes next pos text rest piece) : piece.text.toList = text := by
  cases h with
  | comment | other => exact text_commentPiece _
  | spacing | halfBreak => simp [Trivia.text]
  | lineBreak => rfl

theorem takeWithin_append (text rest : List Char) :
    takeWithin (byteLength text) (text ++ rest) = text := by
  induction text with
  | nil =>
    cases rest with
    | nil => rfl
    | cons c cs =>
      have := c.utf8Size_pos
      simp only [byteLength_nil, List.nil_append, takeWithin]
      rw [if_neg (by omega)]
  | cons c cs ih =>
    simp only [byteLength_cons, List.cons_append, takeWithin]
    rw [if_pos (by omega), Nat.add_sub_cancel_left, ih]

theorem takeWithin_of_le {bytes : Nat} {cs : List Char} (h : byteLength cs ≤ bytes) :
    takeWithin bytes cs = cs := by
  induction cs generalizing bytes with
  | nil => rfl
  | cons c cs ih =>
    rw [byteLength_cons] at h
    rw [takeWithin, if_pos (by omega), ih (by omega)]

theorem head?_dropEndWhile_cons {p : Char → Bool} {c : Char} (h : p c = false) (cs : List Char) :
    (dropEndWhile p (c :: cs)).head? = some c := by
  rw [dropEndWhile]
  split <;> simp [h]

/-- The characters of a line in front of the next comment. -/
def lineText (next : Option CommentSpan) (pos : Nat) (line : List Char) : List Char :=
  next.elim line fun s => takeWithin (s.start - pos) line

theorem nextPiece_other {c : Char} (cs : List Char) (hfree : next.any (·.start == pos) = false)
    (hc : isSpacing c = false) (hbreak : isBreak c = false) :
    nextPiece next pos c cs =
      (commentPiece (c :: lineText next (pos + c.utf8Size) (cs.takeWhile fun d => !isBreak d)),
        (lineText next (pos + c.utf8Size) (cs.takeWhile fun d => !isBreak d)).length) := by
  have hcr : (c == '\r') = false := by
    rw [beq_eq_false_iff_ne]
    rintro rfl
    cases hbreak
  rw [nextPiece, hfree, if_neg (by simp), if_neg (by simp [hc]), if_neg (by simp [hcr]),
    if_neg (by simp [hbreak])]
  cases next <;> rfl

theorem lineText_eq {line : List Char} (htext : ∀ d ∈ text, isBreak d = false)
    (hline : line = (text ++ rest).takeWhile fun d => !isBreak d)
    (hrest : (∃ s, next = some s ∧ s.start = pos + byteLength text) ∨
      (∀ d, rest.head? = some d → isBreak d = true) ∧
        ∀ s, next = some s → pos + byteLength text ≤ s.start) :
    lineText next pos line = text := by
  have hkeep : ∀ d ∈ text, (!isBreak d) = true := fun d hd => by simp [htext d hd]
  rcases hrest with ⟨s, rfl, hs⟩ | ⟨hend, hle⟩
  · rw [lineText, Option.elim_some, hs, Nat.add_sub_cancel_left, hline,
      List.takeWhile_append_of_pos hkeep, takeWithin_append]
  · have hrun : line = text := by
      rw [hline]
      exact takeWhile_append_of_head? hkeep fun d hd => by simp [hend d hd]
    rw [hrun, lineText]
    cases next with
    | none => rfl
    | some s =>
      have hs := hle s rfl
      exact takeWithin_of_le (by omega)

/-- A piece is what `nextPiece` says. -/
theorem nextPiece_of_takes {c : Char} {cs : List Char} (h : Takes next pos text rest piece)
    (hcs : c :: cs = text ++ rest) : nextPiece next pos c cs = (piece, text.length - 1) := by
  have hany : (∀ s, next = some s → s.start ≠ pos) → next.any (·.start == pos) = false := by
    intro hfree
    cases next with
    | none => rfl
    | some s => simpa using hfree s rfl
  cases h with
  | @comment s _ breaks after _ hnext hstart hstop hhead hlast hbreaks hrest =>
    have hbody : dropEndWhile isBreak (takeWithin (s.stop - s.start) (c :: cs)) = text := by
      rw [hcs, hrest, ← List.append_assoc, hstop, hstart, Nat.add_sub_cancel_left,
        takeWithin_append, dropEndWhile_append hlast hbreaks]
    rw [nextPiece, hnext, if_pos (by simp [hstart])]
    simp only [Option.elim_some, hbody]
  | spacing hfree hne h hrest =>
    obtain ⟨d, text, rfl⟩ := List.exists_cons_of_ne_nil hne
    rw [List.cons_append] at hcs
    obtain ⟨rfl, rfl⟩ := List.cons.inj hcs
    have hrun : (text ++ rest).takeWhile isSpacing = text :=
      takeWhile_append_of_head? (fun d hd => h d (List.mem_cons_of_mem _ hd)) hrest
    rw [nextPiece, hany hfree, if_neg (by simp), if_pos (h c List.mem_cons_self), hrun]
    rfl
  | lineBreak hfree =>
    obtain ⟨rfl, rfl⟩ := List.cons.inj hcs
    rw [nextPiece, hany hfree]
    rfl
  | halfBreak hfree h hrest =>
    obtain ⟨rfl, rfl⟩ := List.cons.inj hcs
    have hspacing : isSpacing c = false := by
      cases hc : isSpacing c with
      | false => rfl
      | true => simp [isBreak_of_spacing hc] at h
    have hpair : ¬ (c == '\r' && cs.head? == some '\n') = true := by
      intro hpair
      simp only [Bool.and_eq_true, beq_iff_eq] at hpair
      exact hrest hpair.1 hpair.2
    rw [nextPiece, hany hfree, if_neg (by simp), if_neg (by simp [hspacing])]
    exact (if_neg hpair).trans (if_pos h)
  | @other d text _ hfree hc h hrest =>
    rw [List.cons_append] at hcs
    obtain ⟨rfl, rfl⟩ := List.cons.inj hcs
    rw [byteLength_cons, ← Nat.add_assoc] at hrest
    have hline : lineText next (pos + c.utf8Size) ((text ++ rest).takeWhile fun d => !isBreak d) =
        text := lineText_eq (fun d hd => h d (List.mem_cons_of_mem _ hd)) rfl hrest
    rw [nextPiece_other _ (hany hfree) hc (h c List.mem_cons_self), hline]
    rfl

/-- Every text has a first piece, if the next comment stands where it is said to be. -/
theorem exists_takes {c : Char} {cs : List Char} (hnext : ∀ s, next = some s → s.In pos (c :: cs)) :
    ∃ text rest piece, c :: cs = text ++ rest ∧ Takes next pos text rest piece := by
  by_cases hat : ∃ s, next = some s ∧ s.start = pos
  · obtain ⟨s, hs, hstart⟩ := hat
    obtain ⟨before, text, after, hregion, hbefore, hstop, hhead⟩ := hnext s hs
    have hnil : before = [] := Decidable.byContradiction fun hne => by
      have := byteLength_pos hne
      omega
    rw [hnil, List.nil_append] at hregion
    obtain ⟨breaks, hsplit, hbreaks⟩ := dropEndWhile_split isBreak text
    refine ⟨dropEndWhile isBreak text, breaks ++ after, _, ?_,
      .comment hs hstart ?_ ?_ (fun c => getLast?_dropEndWhile) (List.all_eq_true.1 hbreaks) rfl⟩
    · rw [hregion, ← List.append_assoc, ← hsplit]
    · rw [← hsplit, hstop, hstart]
    · -- A slash is no line break, so it is not trimmed off.
      obtain ⟨more, rfl⟩ := List.head?_eq_some_iff.1 hhead
      exact head?_dropEndWhile_cons rfl more
  have hfree : ∀ s, next = some s → s.start ≠ pos := fun s hs hstart => hat ⟨s, hs, hstart⟩
  by_cases hspacing : isSpacing c = true
  · refine ⟨c :: cs.takeWhile isSpacing, cs.dropWhile isSpacing, _, by simp,
      .spacing hfree (List.cons_ne_nil _ _) (fun d hd => ?_) fun d => head?_dropWhile_eq_false⟩
    rcases List.mem_cons.1 hd with rfl | hd
    · exact hspacing
    · exact List.all_eq_true.1 List.all_takeWhile d hd
  by_cases hpair : c = '\r' ∧ cs.head? = some '\n'
  · obtain ⟨rfl, hhead⟩ := hpair
    obtain ⟨rest, rfl⟩ := List.head?_eq_some_iff.1 hhead
    exact ⟨['\r', '\n'], rest, _, rfl, .lineBreak hfree⟩
  by_cases hbreak : isBreak c = true
  · exact ⟨[c], cs, _, rfl, .halfBreak hfree hbreak fun hc hhead => hpair ⟨hc, hhead⟩⟩
  have hother : ∀ text rest, cs = text ++ rest → (∀ d ∈ text, isBreak d = false) →
      ((∃ s, next = some s ∧ s.start = pos + byteLength (c :: text)) ∨
        (∀ d, rest.head? = some d → isBreak d = true) ∧
          ∀ s, next = some s → pos + byteLength (c :: text) ≤ s.start) →
      ∃ text rest piece, c :: cs = text ++ rest ∧ Takes next pos text rest piece := by
    intro text rest hcs htext hrest
    refine ⟨c :: text, rest, _, by rw [hcs, List.cons_append],
      .other hfree (by simpa using hspacing) ?_ hrest⟩
    intro d hd
    rcases List.mem_cons.1 hd with rfl | hd
    · simpa using hbreak
    · exact htext d hd
  by_cases hnear : ∃ s before after, next = some s ∧ cs = before ++ after ∧
      s.start = pos + byteLength (c :: before) ∧ ∀ d ∈ before, isBreak d = false
  · -- The next comment starts on the line.
    obtain ⟨s, before, after, hs, hcs, hstart, hline⟩ := hnear
    exact hother before after hcs hline (.inl ⟨s, hs, hstart⟩)
  · have hline : ∀ d ∈ cs.takeWhile (fun d => !isBreak d), isBreak d = false := fun d hd => by
      simpa using List.all_eq_true.1 List.all_takeWhile d hd
    refine hother _ (cs.dropWhile fun d => !isBreak d) List.takeWhile_append_dropWhile.symm hline
      (.inr ⟨fun d hd => ?_, fun s hs => ?_⟩)
    · simpa using head?_dropWhile_eq_false hd
    · obtain ⟨before, text, after, hregion, hstart, -, -⟩ := hnext s hs
      have hne : before ≠ [] := fun hnil => hfree s hs (by rw [hstart, hnil]; rfl)
      obtain ⟨d, before, rfl⟩ := List.exists_cons_of_ne_nil hne
      rw [List.cons_append] at hregion
      obtain ⟨rfl, hcs⟩ := List.cons.inj hregion
      -- A line break comes in front of the comment, so the line ends there.
      have hshort : cs.takeWhile (fun d => !isBreak d) <+: before := by
        have hrun : cs.takeWhile (fun d => !isBreak d) <+: cs := List.takeWhile_prefix _
        have hfirst := List.prefix_or_prefix_of_prefix hrun ⟨_, hcs.symm⟩
        refine hfirst.resolve_right fun hle =>
          hnear ⟨s, before, text ++ after, hs, hcs, hstart, fun d hd => ?_⟩
        exact hline d (hle.subset hd)
      obtain ⟨behind, hbehind⟩ := hshort
      rw [hstart, ← hbehind, byteLength_cons, byteLength_cons, byteLength_append]
      omega

end

/-! ## All pieces -/

/-- The pieces of a text that starts at an offset. -/
inductive Splits (comments : List CommentSpan) : Nat → List Char → List Trivia → Prop where
  | nil {pos : Nat} : Splits comments pos [] []
  | cons {pos : Nat} {text rest : List Char} {piece : Trivia} {pieces : List Trivia}
      (h : Takes (nextComment comments pos) pos text rest piece)
      (hrest : Splits comments (pos + byteLength text) rest pieces) :
      Splits comments pos (text ++ rest) (piece :: pieces)

section

variable {comments : List CommentSpan} {pos : Nat} {region : List Char} {trivia : List Trivia}

theorem toList_renderTrivia_cons (piece : Trivia) (pieces : List Trivia) :
    (renderTrivia (piece :: pieces)).toList =
      piece.text.toList ++ (renderTrivia pieces).toList := by
  rw [renderTrivia, List.map_cons, String.join_cons, String.toList_append]
  rfl

theorem Splits.render_eq (h : Splits comments pos region trivia) :
    (renderTrivia trivia).toList = region := by
  induction h with
  | nil => rfl
  | cons h _ ih =>
    rw [toList_renderTrivia_cons, h.text_eq, ih]

theorem Splits.eq_nil (h : Splits comments pos [] trivia) : trivia = [] := by
  generalize hregion : ([] : List Char) = region at h
  cases h with
  | nil => rfl
  | cons h => exact absurd (List.append_eq_nil_iff.1 hregion.symm).1 h.ne_nil

/-- Comments that have been passed do not matter. -/
theorem Splits.congr {comments' : List CommentSpan} (h : Splits comments pos region trivia)
    (hnext : ∀ later, pos ≤ later → nextComment comments' later = nextComment comments later) :
    Splits comments' pos region trivia := by
  induction h with
  | nil => exact .nil
  | @cons pos text rest piece pieces h _ ih =>
    refine .cons ?_ (ih fun later hle => hnext later (by omega))
    rwa [hnext pos (Nat.le_refl _)]

theorem splitTrivia_of_splits (h : Splits comments pos region trivia) {ahead : List CommentSpan}
    (hahead : ∀ later, pos ≤ later → nextComment ahead later = nextComment comments later) :
    splitTrivia ahead pos region = trivia := by
  induction h generalizing ahead with
  | nil => rw [splitTrivia]
  | @cons pos text rest piece pieces h hrest ih =>
    obtain ⟨c, text, rfl⟩ := List.exists_cons_of_ne_nil h.ne_nil
    have hnext : nextPiece ((ahead.dropWhile fun s => decide (s.start < pos)).head?) pos c
        (text ++ rest) = (piece, text.length) := by
      rw [head?_dropWhile_comments, hahead pos (Nat.le_refl _)]
      exact nextPiece_of_takes h rfl
    have hlater : ∀ later, pos + byteLength (c :: text) ≤ later →
        nextComment (ahead.dropWhile fun s => decide (s.start < pos)) later =
          nextComment comments later := by
      intro later hle
      rw [nextComment_dropWhile ahead (by omega), hahead later (by omega)]
    rw [List.cons_append, splitTrivia]
    simp only [hnext, List.take_left, List.drop_left, ih hlater]

/-- Cutting a text into trivia gives its pieces, if the comments ahead stand where they are
said to be. -/
theorem splits_splitTrivia (hcomments : ∀ s ∈ comments, s.start < pos ∨ s.In pos region) :
    Splits comments pos region (splitTrivia comments pos region) := by
  suffices h : ∃ trivia, Splits comments pos region trivia by
    obtain ⟨trivia, htrivia⟩ := h
    rwa [splitTrivia_of_splits htrivia fun _ _ => rfl]
  -- What a piece leaves of the text is shorter.
  induction hlen : region.length using Nat.strongRecOn generalizing pos region with
  | ind n ih =>
    cases region with
    | nil => exact ⟨[], .nil⟩
    | cons c cs =>
      have hnext : ∀ s, nextComment comments pos = some s → s.In pos (c :: cs) := by
        intro s hs
        obtain ⟨hmem, hle⟩ := nextComment_eq_some hs
        exact (hcomments s hmem).resolve_left (by omega)
      obtain ⟨text, rest, piece, hregion, htakes⟩ := exists_takes hnext
      have hshort : rest.length < n := by
        have hpos := List.length_pos_iff.2 htakes.ne_nil
        rw [← hlen, hregion, List.length_append]
        omega
      have hrest : ∀ s ∈ comments,
          s.start < pos + byteLength text ∨ s.In (pos + byteLength text) rest := by
        intro s hs
        rcases hcomments s hs with hlt | ⟨before, inside, after, hin, hstart, hstop, hhead⟩
        · exact .inl (by omega)
        · by_cases hle : byteLength text ≤ byteLength before
          · obtain ⟨gap, rfl, hgap⟩ := append_split (hregion.symm.trans hin) hle
            refine .inr ⟨gap, inside, after, hgap, ?_, hstop, hhead⟩
            rw [hstart, byteLength_append, Nat.add_assoc]
          · exact .inl (by omega)
      obtain ⟨pieces, hpieces⟩ := ih rest.length hshort hrest rfl
      rw [hregion]
      exact ⟨piece :: pieces, .cons htakes hpieces⟩

end

/-! ## Two texts in a row -/

section

variable {next next' : Option CommentSpan} {pos : Nat} {text rest more : List Char} {piece : Trivia}

theorem Takes.free_of_ahead (h : Takes next pos text rest piece)
    (hsome : ∀ s, next = some s → next' = some s)
    (hnone : next = none → ∀ s, next' = some s → pos + byteLength text ≤ s.start)
    (hfree : ∀ s, next = some s → s.start ≠ pos) : ∀ s, next' = some s → s.start ≠ pos := by
  intro s hs
  have hpos := byteLength_pos h.ne_nil
  cases hcase : next with
  | none =>
    have := hnone hcase s hs
    omega
  | some s' =>
    obtain rfl := Option.some.inj ((hsome s' hcase).symm.trans hs)
    exact hfree s' hcase

/-- More text behind a piece that does not end the text, and comments there, change nothing. -/
theorem Takes.append (h : Takes next pos text rest piece) (hne : rest ≠ [])
    (hsome : ∀ s, next = some s → next' = some s)
    (hnone : next = none → ∀ s, next' = some s → pos + byteLength text ≤ s.start) :
    Takes next' pos text (rest ++ more) piece := by
  have hhead : (rest ++ more).head? = rest.head? := by
    rw [List.head?_append, List.head?_eq_some_head hne, Option.some_or]
  have hfree' := h.free_of_ahead hsome hnone
  cases h with
  | comment hs hstart hstop hslash hlast hbreaks hrest =>
    exact .comment (hsome _ hs) hstart hstop hslash hlast hbreaks
      (by rw [hrest, List.append_assoc])
  | spacing hfree hne h hrest =>
    exact .spacing (hfree' hfree) hne h fun c hc => hrest c (hhead ▸ hc)
  | lineBreak hfree => exact .lineBreak (hfree' hfree)
  | halfBreak hfree h hrest => exact .halfBreak (hfree' hfree) h fun hc => hhead ▸ hrest hc
  | other hfree hc h hrest =>
    refine .other (hfree' hfree) hc h ?_
    rw [hhead]
    rcases hrest with ⟨s, hs, hstart⟩ | ⟨hend, hle⟩
    · exact .inl ⟨s, hsome s hs, hstart⟩
    · refine .inr ⟨hend, fun s hs => ?_⟩
      cases hcase : next with
      | none => exact hnone hcase s hs
      | some s' =>
        obtain rfl := Option.some.inj ((hsome s' hcase).symm.trans hs)
        exact hle s' hcase

/-- A piece at the end of a text ends there if a comment follows. -/
theorem Takes.before_comment (h : Takes next pos text [] piece) (hmore : more.head? = some '/')
    (hsome : ∀ s, next = some s → next' = some s ∧ s.start < pos + byteLength text)
    (hnone : next = none → ∃ s, next' = some s ∧ s.start = pos + byteLength text) :
    Takes next' pos text more piece := by
  have hfree' := h.free_of_ahead (fun s hs => (hsome s hs).1) fun hcase s hs => by
    obtain ⟨s', hs', hstart⟩ := hnone hcase
    obtain rfl := Option.some.inj (hs'.symm.trans hs)
    exact Nat.le_of_eq hstart.symm
  cases h with
  | comment hs hstart hstop hslash hlast hbreaks hrest =>
    obtain ⟨rfl, -⟩ := List.append_eq_nil_iff.1 hrest.symm
    exact .comment (hsome _ hs).1 hstart hstop hslash hlast hbreaks rfl
  | spacing hfree hne h =>
    refine .spacing (hfree' hfree) hne h fun c hc => ?_
    obtain rfl := Option.some.inj (hmore.symm.trans hc)
    rfl
  | lineBreak hfree => exact .lineBreak (hfree' hfree)
  | halfBreak hfree h => exact .halfBreak (hfree' hfree) h fun _ hc => by simp [hmore] at hc
  | other hfree hc h hrest =>
    refine .other (hfree' hfree) hc h (.inl ?_)
    cases hcase : next with
    | none => exact hnone hcase
    | some s =>
      have hlt := (hsome s hcase).2
      rcases hrest with ⟨s', hs', hstart⟩ | ⟨-, hle⟩
      · obtain rfl := Option.some.inj (hcase.symm.trans hs')
        omega
      · have := hle s hcase
        omega

/-- A piece at the end of a text ends there if blanks follow, unless it is made of blanks or
of text that is no comment. -/
theorem Takes.before_indent (h : Takes next pos text [] piece)
    (hmore : ∀ c, more.head? = some c → c = ' ' ∨ c = '\t')
    (hblanks : ∀ blanks, piece ≠ .whitespace blanks)
    (hother : (∀ d ∈ text, isBreak d = false) → ∀ c, text.head? = some c → isSpacing c = true) :
    Takes next pos text more piece := by
  cases h with
  | comment hs hstart hstop hslash hlast hbreaks hrest =>
    obtain ⟨rfl, -⟩ := List.append_eq_nil_iff.1 hrest.symm
    exact .comment hs hstart hstop hslash hlast hbreaks rfl
  | spacing => exact absurd rfl (hblanks _)
  | lineBreak hfree => exact .lineBreak hfree
  | halfBreak hfree h =>
    refine .halfBreak hfree h fun _ hc => ?_
    rcases hmore _ hc with heq | heq <;> cases heq
  | other hfree hc h =>
    rw [hother h _ rfl] at hc
    cases hc

end

section

variable {old new : List CommentSpan} {pos : Nat} {region more : List Char}
  {trivia trivia' : List Trivia}

/-- The pieces of two texts in a row. `hseam` says that the last piece of the first text ends
with it. -/
theorem Splits.append (h : Splits old pos region trivia)
    (hnew : ∀ s ∈ new, pos + byteLength region ≤ s.start)
    (hseam : ∀ before text piece, region = before ++ text → trivia.getLast? = some piece →
      Takes (nextComment old (pos + byteLength before)) (pos + byteLength before) text [] piece →
      Takes (nextComment (old ++ new) (pos + byteLength before)) (pos + byteLength before) text more
        piece)
    (hmore : Splits (old ++ new) (pos + byteLength region) more trivia') :
    Splits (old ++ new) pos (region ++ more) (trivia ++ trivia') := by
  induction h with
  | nil => exact hmore
  | @cons pos text rest piece pieces h hrest ih =>
    rw [byteLength_append, ← Nat.add_assoc] at hnew hmore
    have hpieces :
        Splits (old ++ new) (pos + byteLength text) (rest ++ more) (pieces ++ trivia') := by
      refine ih hnew (fun before last piece' hregion hlast htakes => ?_) hmore
      have hlast' : (piece :: pieces).getLast? = some piece' := by
        rw [List.getLast?_cons, hlast]
        rfl
      have := hseam (text ++ before) last piece' (by rw [hregion, List.append_assoc]) hlast'
      rw [byteLength_append, ← Nat.add_assoc] at this
      exact this htakes
    rw [List.append_assoc, List.cons_append]
    refine .cons ?_ hpieces
    by_cases hne : rest = []
    · subst hne
      have hlast : (piece :: pieces).getLast? = some piece := by rw [hrest.eq_nil]; rfl
      exact hseam [] text piece (by rw [List.append_nil]; rfl) hlast h
    · rw [nextComment_append]
      refine h.append hne (fun s hs => by rw [hs, Option.some_or]) fun hcase s hs => ?_
      rw [hcase, Option.none_or] at hs
      have := hnew s (nextComment_eq_some hs).1
      omega

end

end Gloss.Source
