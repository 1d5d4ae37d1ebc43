import Gloss.Proofs.Apply

/-!
# Line endings

In a text with Windows line endings every line feed comes behind a carriage return
(`Paired`). Comments take their line break from the trivia of their declaration. Where that
is a bare line feed, the text becomes mixed: `paired_apply_iff` says that this is the only
way. It happens where the trivia holds no line break at all and comments fall back on a line
feed, that is, to declarations that nothing but blanks and comments separates from the token
before them, or from the start of the text.
-/

namespace Gloss

open Gloss.Text Gloss.Source

/-! ## Line feeds of a text -/

/-- Every line feed of a text comes right behind a carriage return. -/
def Paired (cs : List Char) : Prop :=
  ∀ a b, cs = a ++ '\n' :: b → a.getLast? = some '\r'

/-- `Paired`, read from left to right: `cr` says whether a carriage return stands in
front of the text. -/
def pairedFrom (cr : Bool) : List Char → Bool
  | [] => true
  | c :: cs => (c != '\n' || cr) && pairedFrom (c == '\r') cs

theorem pairedFrom_iff (cr : Bool) (cs : List Char) :
    pairedFrom cr cs = true ↔
      ∀ a b, cs = a ++ '\n' :: b → a = [] ∧ cr = true ∨ a.getLast? = some '\r' := by
  induction cs generalizing cr with
  | nil => simp [pairedFrom]
  | cons c cs ih =>
    rw [pairedFrom, Bool.and_eq_true, ih]
    constructor
    · rintro ⟨hfirst, hrest⟩ a b heq
      cases a with
      | nil =>
        obtain ⟨rfl, -⟩ := List.cons.inj heq
        exact .inl ⟨rfl, by simpa using hfirst⟩
      | cons d a =>
        obtain ⟨rfl, hcs⟩ := List.cons.inj heq
        rcases hrest a b hcs with ⟨rfl, hc⟩ | hlast
        · exact .inr (by simpa using hc)
        · exact .inr (by rw [List.getLast?_cons, hlast]; rfl)
    · intro h
      refine ⟨?_, fun a b hcs => ?_⟩
      · by_cases hc : c = '\n'
        · rcases h [] cs (by rw [hc]; rfl) with ⟨-, hcr⟩ | hlast
          · simp [hcr]
          · cases hlast
        · simp [hc]
      · have hlast := (h (c :: a) b (by rw [hcs]; rfl)).resolve_left (by simp)
        cases a with
        | nil => exact .inl ⟨rfl, by simpa using hlast⟩
        | cons d a => exact .inr (by rwa [List.getLast?_cons_cons] at hlast)

theorem paired_iff {cs : List Char} : Paired cs ↔ pairedFrom false cs = true := by
  simp [Paired, pairedFrom_iff]

instance : DecidablePred Paired := fun _ => decidable_of_iff _ paired_iff.symm

section

variable {cr : Bool} {a b cs : List Char}

theorem pairedFrom_of_not_mem (h : '\n' ∉ cs) : pairedFrom cr cs = true := by
  rw [pairedFrom_iff]
  intro a b heq
  exact absurd (heq ▸ List.mem_append_right a List.mem_cons_self) h

theorem Paired.pairedFrom (h : Paired cs) (cr : Bool) : pairedFrom cr cs = true :=
  (pairedFrom_iff cr cs).2 fun a b heq => .inr (h a b heq)

theorem pairedFrom_append (ha : pairedFrom cr a = true) (hb : Paired b) :
    pairedFrom cr (a ++ b) = true := by
  induction a generalizing cr with
  | nil => exact hb.pairedFrom cr
  | cons c a ih =>
    rw [Gloss.pairedFrom, Bool.and_eq_true] at ha
    rw [List.cons_append, Gloss.pairedFrom, ha.1, ih ha.2]
    rfl

theorem Paired.append (ha : Paired a) (hb : Paired b) : Paired (a ++ b) :=
  paired_iff.2 (pairedFrom_append (paired_iff.1 ha) hb)

theorem paired_flatMap {α : Type} {f : α → List Char} {as : List α} (h : ∀ x ∈ as, Paired (f x)) :
    Paired (as.flatMap f) := by
  induction as with
  | nil => exact paired_iff.2 rfl
  | cons x as ih =>
    rw [List.flatMap_cons]
    exact (h x List.mem_cons_self).append (ih fun y hy => h y (List.mem_cons_of_mem _ hy))

theorem Paired.left (h : Paired (a ++ b)) : Paired a := fun x y heq =>
  h x (y ++ b) (by rw [heq, List.append_assoc]; rfl)

/-- A part of the text that does not start inside a line break. -/
theorem Paired.right (h : Paired (a ++ b)) (hcut : a.getLast? = some '\r' → b.head? ≠ some '\n') :
    Paired b := by
  intro x y heq
  have hlast := h (a ++ x) y (by rw [heq, List.append_assoc])
  cases x with
  | nil =>
    rw [List.append_nil] at hlast
    exact absurd (by rw [heq]; rfl) (hcut hlast)
  | cons c x => rwa [List.getLast?_append_of_ne_nil a (List.cons_ne_nil c x)] at hlast

end

/-! ## Insertions -/

section

variable {inserts : List (Nat × List Char)} {pos : Nat} {cs : List Char}

/-- Paired strings leave a text paired, unless one is put in between a carriage return
and its line feed. -/
theorem pairedFrom_insertAt {cr : Bool} (hstrings : ∀ i ∈ inserts, Paired i.2)
    (hcs : pairedFrom cr cs = true)
    (hbehind : ∀ a b, cs = a ++ b → (∃ i ∈ inserts, i.1 = pos + byteLength a) →
      b.head? ≠ some '\n') :
    pairedFrom cr (insertAt inserts pos cs) = true := by
  have hpaired : ∀ pos, Paired (stringsAt inserts pos) := fun pos =>
    paired_flatMap fun i hi => hstrings i (List.mem_filter.1 hi).1
  induction cs generalizing cr pos with
  | nil => exact (hpaired pos).pairedFrom cr
  | cons c cs ih =>
    rw [pairedFrom, Bool.and_eq_true] at hcs
    have hrest : pairedFrom (c == '\r') (insertAt inserts (pos + c.utf8Size) cs) = true :=
      ih hcs.2 fun a b heq hi => hbehind (c :: a) b (by rw [heq]; rfl)
        (by rwa [byteLength_cons, ← Nat.add_assoc])
    rw [insertAt]
    by_cases hi : ∃ i ∈ inserts, i.1 = pos
    · -- A string is put in here, so what follows it is no line feed.
      have hc : c ≠ '\n' := fun hc => hbehind [] (c :: cs) rfl (by simpa using hi) (by rw [hc]; rfl)
      refine pairedFrom_append ((hpaired pos).pairedFrom cr) (paired_iff.2 ?_)
      simp [pairedFrom, hc, hrest]
    · rw [stringsAt_of_ne fun i hmem heq => hi ⟨i, hmem, heq⟩, List.nil_append, pairedFrom, hcs.1,
        hrest]
      rfl

/-- What is put in at an offset inside the text is found there. -/
theorem insertAt_eq_append {i : Nat × List Char} (hi : i ∈ inserts) (a b : List Char)
    (hpos : i.1 = pos + byteLength a) :
    ∃ x y, insertAt inserts pos (a ++ b) = x ++ (i.2 ++ y) := by
  induction a generalizing pos with
  | nil =>
    obtain ⟨more, hmore⟩ : ∃ more, insertAt inserts pos b = stringsAt inserts pos ++ more := by
      cases b with
      | nil => exact ⟨[], (List.append_nil _).symm⟩
      | cons c b => exact ⟨_, rfl⟩
    have hmem : i ∈ inserts.filter (·.1 == pos) := List.mem_filter.2 ⟨hi, by simpa using hpos⟩
    obtain ⟨s, t, hsplit⟩ := List.append_of_mem hmem
    refine ⟨s.flatMap (·.2), t.flatMap (·.2) ++ more, ?_⟩
    rw [List.nil_append, hmore, stringsAt, hsplit]
    simp
  | cons c a ih =>
    have hpos' : i.1 = pos + c.utf8Size + byteLength a := by
      rw [hpos, byteLength_cons, Nat.add_assoc]
    obtain ⟨x, y, hxy⟩ := ih hpos'
    refine ⟨stringsAt inserts pos ++ c :: x, y, ?_⟩
    rw [List.cons_append, insertAt, hxy]
    simp

end

/-! ## Line breaks of the trivia -/

section

variable {C : List Char → Prop} {region : List Char} {trivia : List Trivia}

/-- A piece that ends with a line break is one, and takes in all of it. -/
theorem Source.IsPiece.of_isBreak {text rest : List Char} {piece : Trivia}
    (h : IsPiece C text rest piece) {c : Char} (hlast : text.getLast? = some c)
    (hc : isBreak c = true) :
    (∃ lineBreak, piece = .endOfLine lineBreak) ∧ (c = '\r' → rest.head? ≠ some '\n') := by
  have hmem := List.mem_of_getLast? hlast
  cases h with
  | comment _ _ hnone => simp [hnone c hlast] at hc
  | spacing _ h => simp [isBreak_of_spacing (h c hmem)] at hc
  | lineBreak =>
    refine ⟨⟨_, rfl⟩, ?_⟩
    rintro rfl
    cases hlast
  | halfBreak _ hrest =>
    obtain rfl := Option.some.inj hlast
    exact ⟨⟨_, rfl⟩, hrest⟩
  | other _ h => simp [h c hmem] at hc

theorem Source.Pieces.paired_of_mem (h : Pieces C region trivia) (hregion : Paired region)
    {piece : Trivia} (hmem : piece ∈ trivia) : Paired piece.text.toList := by
  induction h with
  | nil => cases hmem
  | cons h _ ih =>
    rcases List.mem_cons.1 hmem with rfl | hmem
    · rw [h.text_eq]
      exact hregion.left
    · exact ih (hregion.right fun hlast => (h.of_isBreak hlast rfl).2 rfl) hmem

theorem Source.Pieces.exists_endOfLine (h : Pieces C region trivia)
    (hlast : region.getLast? = some '\n') : ∃ lineBreak, .endOfLine lineBreak ∈ trivia := by
  induction h with
  | nil => cases hlast
  | @cons text rest piece pieces h hrest ih =>
    by_cases hnil : rest = []
    · rw [hnil, List.append_nil] at hlast
      obtain ⟨lineBreak, rfl⟩ := (h.of_isBreak hlast rfl).1
      exact ⟨lineBreak, List.mem_cons_self⟩
    · rw [List.getLast?_append_of_ne_nil text hnil] at hlast
      obtain ⟨lineBreak, hmem⟩ := ih hlast
      exact ⟨lineBreak, List.mem_cons_of_mem _ hmem⟩

/-- Blanks, and line breaks other than a line feed, are paired wherever they stand. -/
theorem Source.IsPiece.paired {text rest : List Char} {piece : Trivia}
    (h : IsPiece C text rest piece)
    (hpiece : (∃ blanks, piece = .whitespace blanks) ∨
      ∃ lineBreak, piece = .endOfLine lineBreak ∧ lineBreak ≠ "\n") : Paired piece.text.toList := by
  rw [h.text_eq]
  cases h with
  | comment | other =>
    rcases commentPiece_cases _ with heq | heq <;> rw [heq] at hpiece <;> simp at hpiece
  | spacing _ h =>
    refine paired_iff.2 (pairedFrom_of_not_mem fun hmem => ?_)
    cases isBreak_of_spacing (h _ hmem)
  | lineBreak => exact paired_iff.2 rfl
  | halfBreak =>
    refine paired_iff.2 (pairedFrom_of_not_mem fun hmem => ?_)
    obtain rfl := List.mem_singleton.1 hmem
    obtain ⟨blanks, heq⟩ | ⟨lineBreak, heq, hne⟩ := hpiece
    · cases heq
    · cases heq
      exact hne rfl

theorem lineBreakOf_cases (trivia : List Trivia) :
    .endOfLine (lineBreakOf trivia) ∈ trivia ∨
      (∀ lineBreak, .endOfLine lineBreak ∉ trivia) ∧ lineBreakOf trivia = "\n" := by
  unfold lineBreakOf
  cases hfind : trivia.findSome? _ with
  | none =>
    refine .inr ⟨fun lineBreak hmem => ?_, rfl⟩
    cases List.findSome?_eq_none_iff.1 hfind _ hmem
  | some lineBreak =>
    obtain ⟨piece, hmem, heq⟩ := List.exists_of_findSome?_eq_some hfind
    cases piece with
    | endOfLine text =>
      obtain rfl := Option.some.inj heq
      exact .inl hmem
    | whitespace | comment | docComment => cases heq

theorem alignment_cases (d : Declaration) :
    .whitespace d.alignment ∈ d.leadingTrivia ∨ d.alignment = d.indent := by
  unfold Declaration.alignment splitAlignment
  split
  · rename_i hlast
    exact .inl (List.mem_of_getLast? hlast)
  · exact .inr rfl

end

/-! ## Comments -/

theorem Comment.renderLines_ne_nil {comment : Comment} (h : comment.validateInsertable = .ok ()) :
    comment.renderLines ≠ [] := by
  obtain ⟨line, hline, -⟩ := Comment.exists_tag_line h
  exact List.ne_nil_of_mem hline

theorem Comment.ne_nil_of_mem_renderLines {comment : Comment} {line : String}
    (h : line ∈ comment.renderLines) : line.toList ≠ [] := by
  obtain ⟨content, -, rfl⟩ := List.mem_map.1 h
  rw [toList_docLine]
  exact List.cons_ne_nil _ _

theorem unbroken_of_all {lines : List String}
    (h : (lines.all fun line => line.toList.all fun c => !isBreak c) = true) :
    ∀ line ∈ lines, ∀ c ∈ line.toList, isBreak c = false := by
  intro line hline c hc
  simpa using List.all_eq_true.1 (List.all_eq_true.1 h line hline) c hc

section

variable {tree : SyntaxTree} {nodes : List Node} {source before region after : List Char}
  {d : Declaration}

theorem Source.Stands.paired_region (h : Stands nodes source before region after d)
    (hsource : Paired source) (hbefore : before.getLast? ≠ some '\r') : Paired region := by
  rw [h.source_eq] at hsource
  exact (hsource.right fun hlast => absurd hlast hbefore).left

theorem Source.Stands.paired_indent (h : Stands nodes source before region after d) :
    Paired d.indent.toList := by
  refine paired_iff.2 (pairedFrom_of_not_mem fun hmem => ?_)
  rw [h.indent_eq] at hmem
  split at hmem
  · rename_i hall
    rw [String.toList_ofList] at hmem
    cases List.all_eq_true.1 hall _ hmem
  · cases hmem

theorem Source.Stands.paired_of_mem (h : Stands nodes source before region after d) {piece : Trivia}
    (hmem : piece ∈ d.leadingTrivia)
    (hpiece : (∃ blanks, piece = .whitespace blanks) ∨
      ∃ lineBreak, piece = .endOfLine lineBreak ∧ lineBreak ≠ "\n") : Paired piece.text.toList := by
  obtain ⟨text, rest, hp⟩ := h.pieces.exists_of_mem hmem
  exact hp.paired hpiece

/-- A comment whose line break is no bare line feed is paired. -/
theorem Source.Stands.paired_insertion (h : Stands nodes source before region after d)
    {comment : Comment} (hlines : ∀ line ∈ comment.renderLines, '\n' ∉ line.toList)
    (hbreak : lineBreakOf d.leadingTrivia ≠ "\n") : Paired (d.insertion comment) := by
  have hindent := h.paired_indent
  have hlineBreak : Paired (lineBreakOf d.leadingTrivia).toList := by
    rcases lineBreakOf_cases d.leadingTrivia with hmem | ⟨-, heq⟩
    · exact h.paired_of_mem hmem (.inr ⟨_, rfl, hbreak⟩)
    · exact absurd heq hbreak
  have halignment : Paired d.alignment.toList := by
    rcases alignment_cases d with hmem | heq
    · exact h.paired_of_mem hmem (.inl ⟨_, rfl⟩)
    · rw [heq]
      exact hindent
  have hpadding : Paired d.padding.toList := by
    unfold Declaration.padding
    cases (splitAlignment d.leadingTrivia).2 with
    | none => exact hindent
    | some => exact paired_iff.2 rfl
  have hline : ∀ line ∈ comment.renderLines, Paired line.toList := fun line hmem =>
    paired_iff.2 (pairedFrom_of_not_mem (hlines line hmem))
  unfold Declaration.insertion
  refine hpadding.append ?_
  split
  · exact paired_iff.2 rfl
  · rename_i first rest heq
    rw [heq] at hline
    simp only [String.toList_append]
    refine (((hline first List.mem_cons_self).append hlineBreak).append
      (paired_flatMap fun line hmem => ?_)).append halignment
    exact (hindent.append (hline line (List.mem_cons_of_mem _ hmem))).append hlineBreak

/-- A comment whose line break is a bare line feed brings it into the text. -/
theorem not_paired_of_insertion {comment : Comment}
    (hinsertable : comment.validateInsertable = .ok ())
    (hlines : ∀ line ∈ comment.renderLines, '\r' ∉ line.toList)
    (hbreak : lineBreakOf d.leadingTrivia = "\n") (x y : List Char) :
    ¬ Paired (x ++ (d.insertion comment ++ y)) := by
  obtain ⟨first, rest, heq⟩ := List.exists_cons_of_ne_nil (Comment.renderLines_ne_nil hinsertable)
  obtain ⟨more, hinsertion⟩ :
      ∃ more, d.insertion comment = (d.padding.toList ++ first.toList) ++ '\n' :: more := by
    rw [Declaration.insertion, heq, hbreak]
    simp only [String.toList_append, List.append_assoc]
    exact ⟨_, rfl⟩
  intro hpaired
  have hlast : (x ++ d.padding.toList ++ first.toList).getLast? = some '\r' := by
    refine hpaired _ (more ++ y) ?_
    rw [hinsertion]
    simp
  have hfirst : first ∈ comment.renderLines := heq ▸ List.mem_cons_self
  rw [List.getLast?_append_of_ne_nil _ (Comment.ne_nil_of_mem_renderLines hfirst)] at hlast
  exact hlines first hfirst (List.mem_of_getLast? hlast)

/-- Where the trivia does not start inside a line break, a line break in it is no bare line
feed. -/
theorem Source.Stands.lineBreakOf_ne_iff (h : Stands nodes source before region after d)
    (hsource : Paired source) (hbefore : before.getLast? ≠ some '\r') :
    lineBreakOf d.leadingTrivia ≠ "\n" ↔ ∃ lineBreak, .endOfLine lineBreak ∈ d.leadingTrivia := by
  rcases lineBreakOf_cases d.leadingTrivia with hmem | ⟨hnone, heq⟩
  · refine iff_of_true (fun heq => ?_) ⟨_, hmem⟩
    have hpaired := h.pieces.paired_of_mem (h.paired_region hsource hbefore) hmem
    rw [Trivia.text, heq] at hpaired
    exact absurd hpaired (by decide)
  · refine iff_of_false (fun hne => hne heq) ?_
    rintro ⟨lineBreak, hmem⟩
    exact hnone lineBreak hmem

/-- A declaration below the first line that stands on a line of its own has a line break
in its trivia, unless the trivia starts right behind one. -/
theorem Source.Stands.exists_endOfLine (h : Stands tree.nodes source before region after d)
    (htidy : tree.Tidy) (hblanks : ∀ c ∈ linePrefix (before ++ region), c = ' ' ∨ c = '\t')
    (hmem : '\n' ∈ before ++ region) (hbefore : before.getLast? ≠ some '\n') :
    ∃ lineBreak, .endOfLine lineBreak ∈ d.leadingTrivia := by
  obtain ⟨lead, hregion, hlead⟩ := h.region_split htidy hblanks
  by_cases hnil : lead = []
  · -- The line starts with the trivia, so it is the first.
    rw [hnil, List.nil_append] at hregion
    obtain ⟨above, habove, hend⟩ := linePrefix_split (before ++ region)
    rw [← hregion, List.append_left_inj] at habove
    rw [← habove] at hend
    rw [hend.resolve_right hbefore, List.nil_append, hregion] at hmem
    exact absurd hmem (not_mem_of_indent hblanks)
  · have hlead' := hlead.resolve_left hnil
    obtain ⟨pre, post, htrivia, hpre, -⟩ := h.pieces.split (fun _ => htidy.inked) hregion hblanks hlead
    obtain ⟨lineBreak, hmem⟩ := hpre.exists_endOfLine hlead'
    exact ⟨lineBreak, htrivia ▸ List.mem_append_left post hmem⟩

end

/-! ## The patched text -/

section

variable {tree : SyntaxTree} {source : List Char} {chosen : List (Declaration × Comment)}

/-- Comments whose line breaks are no bare line feeds leave a text paired. -/
theorem paired_insertAt_places (hsound : tree.Sound source) (htidy : tree.Tidy)
    (hstands : ∀ p ∈ chosen, ∃ before region after, Stands tree.nodes source before region after p.1)
    (hlines : ∀ p ∈ chosen, ∀ line ∈ p.2.renderLines, ∀ c ∈ line.toList, isBreak c = false)
    (hsource : Paired source)
    (hbreaks : ∀ p ∈ chosen, lineBreakOf p.1.leadingTrivia ≠ "\n") :
    Paired (insertAt (chosen.map fun p => p.1.place p.2) 0 source) := by
  refine paired_iff.2 (pairedFrom_insertAt ?_ (paired_iff.1 hsource) ?_)
  · intro i hi
    obtain ⟨p, hp, rfl⟩ := List.mem_map.1 hi
    obtain ⟨before, region, after, h⟩ := hstands p hp
    refine h.paired_insertion (fun line hline hc => ?_) (hbreaks p hp)
    cases hlines p hp line hline _ hc
  · -- A comment stands in front of a declaration, which does not start with a line feed.
    rintro a b heq ⟨i, hi, hpos⟩
    obtain ⟨p, hp, rfl⟩ := List.mem_map.1 hi
    obtain ⟨before, region, after, h⟩ := hstands p hp
    rw [Nat.zero_add] at hpos
    have hsplit := h.source_eq.symm.trans heq
    rw [← List.append_assoc] at hsplit
    obtain ⟨-, rfl⟩ := append_inj hsplit (h.start_eq.symm.trans hpos)
    exact h.head?_ne hsound htidy

/-- The bare line feed of a comment stays in sight, whatever else is put in. -/
theorem Source.Stands.lineBreakOf_ne_of_paired {before region after : List Char}
    {p : Declaration × Comment} (h : Stands tree.nodes source before region after p.1)
    (hp : p ∈ chosen) (hinsertable : p.2.validateInsertable = .ok ())
    (hlines : ∀ line ∈ p.2.renderLines, ∀ c ∈ line.toList, isBreak c = false)
    (hpaired : Paired (insertAt (chosen.map fun p => p.1.place p.2) 0 source)) :
    lineBreakOf p.1.leadingTrivia ≠ "\n" := by
  intro hbreak
  have hplace : p.1.place p.2 ∈ chosen.map fun p => p.1.place p.2 :=
    List.mem_map_of_mem (f := fun p : Declaration × Comment => p.1.place p.2) hp
  have hpos : (p.1.place p.2).1 = 0 + byteLength (before ++ region) := by
    rw [Nat.zero_add, ← h.start_eq]
    rfl
  obtain ⟨x, y, hxy⟩ := insertAt_eq_append hplace (before ++ region) after hpos
  rw [List.append_assoc, ← h.source_eq] at hxy
  rw [hxy] at hpaired
  refine not_paired_of_insertion hinsertable (fun line hline hc => ?_) hbreak x y hpaired
  cases hlines line hline _ hc

end

/-- Patching a text with Windows line endings leaves these line endings exactly if no patched
declaration takes a bare line feed for its line break. Where the text in front of the trivia of
a declaration does not end in a line break, as no token does, that is to say that the trivia
holds a line break; a declaration below the first line that stands on a line of its own has one
there. -/
theorem paired_apply_iff (parser : Parser) (text : String)
    (hparser : parser.IsSoundOn text.toList) (htidy : parser.IsTidyOn text.toList)
    {chosen : List (Declaration × Comment)}
    (hchosen : ∀ p ∈ chosen, p.1 ∈ (SourceUnit.parse parser text).declarations)
    (hnodup : (chosen.map Prod.fst).Nodup)
    (hinsertable : ∀ p ∈ chosen, p.2.validateInsertable = .ok ())
    (hlines : ∀ p ∈ chosen, ∀ line ∈ p.2.renderLines, ∀ c ∈ line.toList, isBreak c = false)
    (htext : Paired text.toList) :
    ∃ patches, chosen.mapM (fun p => p.1.patch p.2) = .ok patches ∧
      (Paired ((SourceUnit.parse parser text).apply patches).toList ↔
        ∀ p ∈ chosen, lineBreakOf p.1.leadingTrivia ≠ "\n") ∧
      ∀ p ∈ chosen, ∀ lead rest, cut p.1.span.leadingStart text.toList = some (lead, rest) →
        (∀ c, lead.getLast? = some c → isBreak c = false) →
          (lineBreakOf p.1.leadingTrivia ≠ "\n" ↔
            ∃ lineBreak, .endOfLine lineBreak ∈ p.1.leadingTrivia) ∧
          ∀ before after, cut p.1.span.start text.toList = some (before, after) →
            '\n' ∈ before → (∀ c ∈ linePrefix before, c = ' ' ∨ c = '\t') →
              ∃ lineBreak, .endOfLine lineBreak ∈ p.1.leadingTrivia := by
  obtain ⟨tree, hsound, htree, hregions⟩ := regions_parse hparser
  have happly := toList_apply hregions hchosen hnodup
  rw [text_parse] at hregions happly
  have hstands : ∀ p ∈ chosen, ∃ before region after,
      Stands tree.nodes text.toList before region after p.1 := fun p hp =>
    hregions.stands p.1 (hchosen p hp)
  refine ⟨_, mapM_patch hinsertable, ?_, ?_⟩
  · rw [happly]
    constructor
    · intro hpaired p hp
      obtain ⟨before, region, after, h⟩ := hstands p hp
      exact h.lineBreakOf_ne_of_paired hp (hinsertable p hp) (hlines p hp) hpaired
    · exact paired_insertAt_places hsound (htree htidy) hstands hlines htext
  · intro p hp lead rest hlead hlast
    obtain ⟨before, region, after, h⟩ := hstands p hp
    obtain ⟨rfl, -⟩ := Prod.mk.inj (Option.some.inj (h.cut_leadingStart.symm.trans hlead))
    refine ⟨h.lineBreakOf_ne_iff htext fun hc => by (cases hlast _ hc), ?_⟩
    intro before' after' hcut hmem hblanks
    obtain ⟨rfl, -⟩ := Prod.mk.inj (Option.some.inj (h.cut_eq.symm.trans hcut))
    exact h.exists_endOfLine (htree htidy) hblanks hmem fun hc => by (cases hlast _ hc)

theorem paired_apply_windows :
    let text := "namespace N;\r\n\r\nclass A\r\n\x7b\r\n  int B;\r\n\x7d\r\n"
    let unit := SourceUnit.parse Parser.strict text
    let chosen := unit.declarations.zip [Comment.ofSummary "The a.", ⟨[.inheritDoc]⟩]
    ∃ patches, chosen.mapM (fun p => p.1.patch p.2) = .ok patches ∧ patches.length = 2 ∧
      Paired (unit.apply patches).toList := by
  intro text unit chosen
  have hlength : chosen.length = 2 := by decide +kernel
  have hnodup : (chosen.map Prod.fst).Nodup := nodup_of_starts (by decide +kernel)
  have hbreaks : (chosen.all fun p => lineBreakOf p.1.leadingTrivia != "\n") = true := by
    decide +kernel
  have hmem : ∀ p ∈ chosen, p.2 = .ofSummary "The a." ∨ p.2 = ⟨[.inheritDoc]⟩ := fun p hp => by
    simpa using (List.of_mem_zip hp).2
  have hinsertable : ∀ p ∈ chosen, p.2.validateInsertable = .ok () := fun p hp => by
    rcases hmem p hp with h | h <;> rw [h] <;> rfl
  have hlines : ∀ p ∈ chosen, ∀ line ∈ p.2.renderLines, ∀ c ∈ line.toList, isBreak c = false := by
    intro p hp
    rcases hmem p hp with h | h <;> rw [h] <;> exact unbroken_of_all (by decide +kernel)
  obtain ⟨patches, hpatches, hiff, -⟩ := paired_apply_iff Parser.strict text (isSoundOn_strict _)
    (isTidyOn_strict _) (fun p (hp : p ∈ chosen) => (List.of_mem_zip hp).1) hnodup hinsertable hlines
    (by decide +kernel)
  have hpatched := (mapM_patch hinsertable).symm.trans hpatches
  refine ⟨patches, hpatches, ?_, hiff.2 fun p hp => ?_⟩
  · rw [← Except.ok.inj hpatched, List.length_map, hlength]
  · exact bne_iff_ne.1 (List.all_eq_true.1 hbreaks p hp)

/-- The first token of a text has no line break in front of it. -/
theorem not_paired_apply_first :
    let text := "public class A\r\n\x7b\r\n\x7d\r\n"
    let comment := Comment.ofSummary "The a."
    Paired text.toList ∧ comment.validateInsertable = .ok () ∧
      (∀ line ∈ comment.renderLines, ∀ c ∈ line.toList, isBreak c = false) ∧
      (SourceUnit.read text).declarations.length = 1 ∧
      ∀ d ∈ (SourceUnit.read text).declarations, ∃ p, d.patch comment = .ok p ∧
        ¬ Paired ((SourceUnit.read text).apply [p]).toList := by
  intro text comment
  have hall : ((SourceUnit.read text).declarations.all fun d =>
      !decide (Paired ((SourceUnit.read text).apply [d.commented comment]).toList)) = true := by
    decide +kernel
  refine ⟨by decide +kernel, rfl, unbroken_of_all (by decide +kernel), by decide +kernel,
    fun d hd => ?_⟩
  refine ⟨d.commented comment, patch_of_insertable rfl d, ?_⟩
  simpa using List.all_eq_true.1 hall d hd

end Gloss
