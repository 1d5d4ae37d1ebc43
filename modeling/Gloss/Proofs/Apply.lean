import Gloss.Proofs.Patch
import Gloss.Proofs.Source.Regions
import Gloss.Proofs.Source.Scope
import Gloss.Source.Unit
import Mathlib.Data.List.Nodup
import Mathlib.Data.List.Pairwise

/-!
# Applying patches

A patch replaces all the trivia in front of a declaration, yet applying patches to the text
that their declarations come from only puts text in, directly in front of these declarations
(`apply_inserts`), whatever sound trees the parser gives. `Stands.renderTrivia_insertComment`
is about one declaration: the new trivia is the old one with an insertion behind it.
`patching_eq` takes the patches from the last to the first, so that each finds the text in
front of its declaration as it was.
-/

namespace Gloss

open Gloss.Text Gloss.Source

/-! ## One comment -/

/-- The blanks that a patch puts between a comment and the declaration. -/
def Declaration.alignment (d : Declaration) : String :=
  (splitAlignment d.leadingTrivia).2.getD d.indent

/-- The indent that a patch adds where the trivia does not end in blanks. -/
def Declaration.padding (d : Declaration) : String :=
  (splitAlignment d.leadingTrivia).2.elim d.indent fun _ => ""

/-- What a comment adds to the trivia of a declaration. Where the trivia ends in blanks, they
stand in front of the first line already. -/
def Declaration.insertion (d : Declaration) (comment : Comment) : List Char :=
  let lineBreak := lineBreakOf d.leadingTrivia
  d.padding.toList ++
    match comment.renderLines with
    | [] => []
    | first :: rest =>
      (first ++ lineBreak).toList ++
        rest.flatMap (fun line => (d.indent ++ line ++ lineBreak).toList) ++ d.alignment.toList

theorem renderTrivia_append (a b : List Trivia) :
    renderTrivia (a ++ b) = renderTrivia a ++ renderTrivia b := by
  simp [renderTrivia, String.join_append]

theorem renderTrivia_spacing (blanks : String) : renderTrivia (spacing blanks) = blanks := by
  unfold spacing
  split
  · rename_i h
    simpa [renderTrivia] using (String.isEmpty_iff.1 h).symm
  · simp [renderTrivia, Trivia.text]

theorem renderTrivia_commentLine (lineBreak blanks line : String) :
    renderTrivia (commentLine lineBreak blanks line) = blanks ++ line ++ lineBreak := by
  rw [commentLine, renderTrivia_append, renderTrivia_spacing]
  simp [renderTrivia, Trivia.text, String.append_assoc]

theorem renderTrivia_commentLines (lineBreak blanks : String) (lines : List String) :
    (renderTrivia (lines.flatMap (commentLine lineBreak blanks))).toList =
      lines.flatMap fun line => (blanks ++ line ++ lineBreak).toList := by
  induction lines with
  | nil => rfl
  | cons line lines ih =>
    rw [List.flatMap_cons, renderTrivia_append, renderTrivia_commentLine, String.toList_append, ih,
      List.flatMap_cons]

/-- The trivia is what `splitAlignment` leaves, and the blanks it takes off. -/
theorem renderTrivia_splitAlignment (trivia : List Trivia) :
    renderTrivia trivia =
      renderTrivia (splitAlignment trivia).1 ++ (splitAlignment trivia).2.getD "" := by
  unfold splitAlignment
  split
  · rename_i blanks hlast
    obtain ⟨init, rfl⟩ := List.getLast?_eq_some_iff.1 hlast
    rw [List.dropLast_concat, renderTrivia_append]
    simp [renderTrivia, Trivia.text]
  · simp

theorem splitAlignment_concat (pre : List Trivia) (blanks : String) :
    (splitAlignment (pre ++ [.whitespace blanks])).2 = some blanks := by
  simp [splitAlignment]

section

variable {tree : SyntaxTree} {nodes : List Node} {source before region after : List Char}
  {d : Declaration}

/-- Blanks in front of a declaration on its line are the last of its trivia. They come
behind a line feed, or are all of it. -/
theorem Source.Stands.region_split (h : Stands tree.nodes source before region after d)
    (htidy : tree.Tidy) (hblanks : ∀ c ∈ linePrefix (before ++ region), c = ' ' ∨ c = '\t') :
    ∃ lead, region = lead ++ linePrefix (before ++ region) ∧
      (lead = [] ∨ lead.getLast? = some '\n') := by
  obtain ⟨lead, hlead, hend⟩ := linePrefix_split (before ++ region)
  rcases List.append_eq_append_iff.1 hlead with ⟨e, rfl, he⟩ | ⟨e, hbefore, he⟩
  · refine ⟨e, he, Decidable.or_iff_not_imp_left.2 fun hne => ?_⟩
    rw [← List.getLast?_append_of_ne_nil before hne]
    exact hend.resolve_left (by simp [hne])
  · -- What stands in front of the trivia does not end in blanks on a line of their own.
    have hblank : ∀ c ∈ e, c = ' ' ∨ c = '\t' := fun c hc =>
      hblanks c (he ▸ List.mem_append_left _ hc)
    have hnil : e = [] := by
      rcases h.anchored htidy with hline | hinked
      · rwa [hbefore, linePrefix_append hend (not_mem_of_indent hblank)] at hline
      · exact absurd (hbefore ▸ hinked) (not_inked hend hblank)
    rw [hnil, List.nil_append] at he
    exact ⟨[], he.symm, .inl rfl⟩

theorem Source.Stands.indent_of_blanks (h : Stands nodes source before region after d)
    (hblanks : ∀ c ∈ linePrefix (before ++ region), c = ' ' ∨ c = '\t') :
    d.indent = String.ofList (linePrefix (before ++ region)) := by
  rw [h.indent_eq, if_pos]
  simpa using hblanks

/-- A declaration with blanks only in front of it on its line has them as its last trivia, if
there are any. -/
theorem Source.Stands.splitAlignment_eq (h : Stands tree.nodes source before region after d)
    (htidy : tree.Tidy) (hblanks : ∀ c ∈ linePrefix (before ++ region), c = ' ' ∨ c = '\t') :
    (splitAlignment d.leadingTrivia).2 = if d.indent = "" then none else some d.indent := by
  obtain ⟨lead, hregion, hlead⟩ := h.region_split htidy hblanks
  have hindent := h.indent_of_blanks hblanks
  split
  · -- The trivia ends with a line break, so its last piece is not made of blanks.
    rename_i hempty
    have hnil : linePrefix (before ++ region) = [] := by
      rwa [hindent, String.ofList_eq_empty_iff] at hempty
    rw [hnil, List.append_nil] at hregion
    subst hregion
    unfold splitAlignment
    split
    · rename_i blanks hlast
      obtain ⟨c, hc, hspacing⟩ := h.pieces.getLast?_of_whitespace hlast
      rcases hlead with rfl | hlead
      · cases hc
      · obtain rfl := Option.some.inj (hc.symm.trans hlead)
        cases hspacing
    · rfl
  · rename_i hempty
    have hne : linePrefix (before ++ region) ≠ [] := fun hnil => hempty (by rw [hindent, hnil])
    obtain ⟨pre, htrivia⟩ := h.pieces.eq_concat_of_indent (fun _ => htidy.inked) hregion hne hblanks
      hlead
    rw [htrivia, splitAlignment_concat, hindent]

/-- The trivia of a patched declaration: what was there, and the insertion. -/
theorem Source.Stands.renderTrivia_insertComment (h : Stands nodes source before region after d)
    (comment : Comment) :
    (renderTrivia (insertComment d comment)).toList = region ++ d.insertion comment := by
  have hregion : (renderTrivia (splitAlignment d.leadingTrivia).1 ++ d.alignment).toList =
      region ++ d.padding.toList := by
    rw [← h.pieces.render_eq, renderTrivia_splitAlignment d.leadingTrivia, Declaration.alignment,
      Declaration.padding]
    cases (splitAlignment d.leadingTrivia).2 <;> simp
  have heq : insertComment d comment = (splitAlignment d.leadingTrivia).1 ++
      commentTrivia (lineBreakOf d.leadingTrivia) d.alignment d.indent comment.renderLines ++
      spacing d.alignment := rfl
  rw [heq, renderTrivia_append, renderTrivia_append, renderTrivia_spacing, Declaration.insertion,
    ← List.append_assoc, ← hregion]
  cases comment.renderLines with
  | nil =>
    rw [commentTrivia]
    simp [renderTrivia]
  | cons first rest =>
    rw [commentTrivia, renderTrivia_append, renderTrivia_commentLine]
    simp only [String.toList_append, renderTrivia_commentLines, List.append_assoc]

theorem flatMap_shift {α : Type} (indent : List Char) (f : α → List Char) (as : List α) :
    as.flatMap (fun a => indent ++ f a) ++ indent =
      indent ++ as.flatMap fun a => f a ++ indent := by
  induction as with
  | nil => simp
  | cons a as ih => simp only [List.flatMap_cons, List.append_assoc, ih]

/-- In front of a declaration that stands on a line of its own, each line of a comment
brings its line break and the indent of the line behind it. -/
theorem Source.Stands.insertion_eq (h : Stands tree.nodes source before region after d)
    (htidy : tree.Tidy) (hblanks : ∀ c ∈ linePrefix (before ++ region), c = ' ' ∨ c = '\t')
    (comment : Comment) :
    d.insertion comment = comment.renderLines.flatMap fun line =>
      (line ++ lineBreakOf d.leadingTrivia ++ d.indent).toList := by
  have hsplit := h.splitAlignment_eq htidy hblanks
  have halignment : d.alignment = d.indent := by
    rw [Declaration.alignment, hsplit]
    split <;> rfl
  have hpadding : d.padding = "" := by
    rw [Declaration.padding, hsplit]
    split
    · assumption
    · rfl
  rw [Declaration.insertion, halignment, hpadding]
  cases comment.renderLines with
  | nil => rfl
  | cons first rest =>
    have hshift := flatMap_shift d.indent.toList
      (fun line : String => (line ++ lineBreakOf d.leadingTrivia).toList) rest
    simp only [String.toList_append, List.append_assoc, List.flatMap_cons] at hshift ⊢
    rw [hshift]
    rfl

end

/-! ## One patch -/

/-- A declaration with a comment put in front of it. -/
def Declaration.commented (d : Declaration) (comment : Comment) : Patched :=
  ⟨{ d with leadingTrivia := insertComment d comment }, comment⟩

/-- Where a comment is put in, and what. -/
def Declaration.place (d : Declaration) (comment : Comment) : Nat × List Char :=
  (d.span.start, d.insertion comment)

section

variable {nodes : List Node} {source before region after : List Char} {d : Declaration}

theorem Source.Stands.leadingStart_le (h : Stands nodes source before region after d) :
    d.span.leadingStart ≤ d.span.start := by
  rw [h.leadingStart_eq, h.start_eq, byteLength_append]
  omega

theorem Source.Stands.cut_eq (h : Stands nodes source before region after d) :
    cut d.span.start source = some (before ++ region, after) := by
  rw [h.start_eq, h.source_eq, ← List.append_assoc, cut_byteLength_append]

theorem Source.Stands.cut_leadingStart (h : Stands nodes source before region after d) :
    cut d.span.leadingStart source = some (before, region ++ after) := by
  rw [h.leadingStart_eq, h.source_eq, cut_byteLength_append]

theorem Source.Stands.fits (h : Stands nodes source before region after d) {limit : Option Nat}
    (hlimit : ∀ n, limit = some n → d.span.start ≤ n) : SourceUnit.fits source limit d = true := by
  have hslice : slice d.span.leadingStart d.span.start source = some region := by
    rw [h.leadingStart_eq, h.start_eq, h.source_eq, slice_append]
  have hbehind : d.sourceText.toList.isPrefixOf after = true :=
    List.isPrefixOf_iff_prefix.2 h.sourceText_isPrefix
  have hall : limit.all (fun n => decide (d.span.start ≤ n)) = true := by
    cases limit with
    | none => rfl
    | some n => simpa using hlimit n rfl
  simp [SourceUnit.fits, h.leadingStart_le, hall, h.cut_eq, hbehind, hslice]

theorem replaceRange_append (before region after replacement : List Char) :
    SourceUnit.replaceRange (byteLength before) (byteLength (before ++ region)) replacement
      (before ++ (region ++ after)) = before ++ replacement ++ after := by
  rw [SourceUnit.replaceRange, cut_byteLength_append]
  simp only [byteLength_append, Nat.add_sub_cancel_left, cut_byteLength_append]

/-- A patch puts its insertion in front of those that were put in behind it. -/
theorem Source.Stands.add_eq (h : Stands nodes source before region after d) (comment : Comment)
    {inserts : List (Nat × List Char)} {limit : Option Nat} {skipped : List Declaration}
    (hinserts : ∀ i ∈ inserts, d.span.start < i.1)
    (hlimit : ∀ n, limit = some n → d.span.start ≤ n) :
    SourceUnit.Patching.add source ⟨insertAt inserts 0 source, limit, skipped⟩
        (d.commented comment) =
      ⟨insertAt (d.place comment :: inserts) 0 source, some d.span.leadingStart, skipped⟩ := by
  have hstart : 0 + byteLength (before ++ region) = d.span.start := by rw [Nat.zero_add, h.start_eq]
  have hold : insertAt inserts 0 source =
      before ++ (region ++ insertAt inserts d.span.start after) := by
    rw [h.source_eq, ← List.append_assoc, insertAt_append, hstart, List.append_assoc]
    exact fun i hi => Nat.le_of_lt (hstart ▸ hinserts i hi)
  have hnew : insertAt (d.place comment :: inserts) 0 source =
      before ++ (region ++ (d.insertion comment ++ insertAt inserts d.span.start after)) := by
    rw [h.source_eq, ← List.append_assoc, insertAt_append, hstart, Declaration.place,
      insertAt_cons _ _ hinserts, List.append_assoc]
    intro i hi
    rcases List.mem_cons.1 hi with rfl | hi
    · exact Nat.le_of_eq hstart
    · exact Nat.le_of_lt (hstart ▸ hinserts i hi)
  have hfits : SourceUnit.fits source limit (d.commented comment).declaration = true :=
    h.fits hlimit
  rw [SourceUnit.Patching.add, if_pos hfits, hold, hnew]
  have htext : (d.commented comment).leadingText.toList = region ++ d.insertion comment :=
    h.renderTrivia_insertComment comment
  have hreplace : SourceUnit.replaceRange d.span.leadingStart d.span.start
      (region ++ d.insertion comment) (before ++ (region ++ insertAt inserts d.span.start after)) =
        before ++ (region ++ (d.insertion comment ++ insertAt inserts d.span.start after)) := by
    rw [h.leadingStart_eq, h.start_eq, replaceRange_append]
    simp only [List.append_assoc]
  rw [htext, ← hreplace]
  rfl

end

/-! ## All patches -/

/-- Of the two declarations, one starts in front of the trivia of the other. -/
def Source.Apart (d d' : Declaration) : Prop :=
  d.span.start < d'.span.leadingStart ∨ d'.span.start < d.span.leadingStart

instance : Std.Symm Source.Apart := ⟨fun _ _ => Or.symm⟩

section

variable {nodes : List Node} {source : List Char} {start stop : Nat} {ds : List Declaration}

theorem Source.Regions.leadingStart_le (h : Regions nodes source start stop ds) {d : Declaration}
    (hd : d ∈ ds) : d.span.leadingStart ≤ d.span.start := by
  obtain ⟨_, _, _, hstands⟩ := h.stands d hd
  exact hstands.leadingStart_le

theorem Source.Regions.apart (h : Regions nodes source start stop ds) {d d' : Declaration}
    (hd : d ∈ ds) (hd' : d' ∈ ds) (hne : d ≠ d') : Apart d d' := by
  have hpairs : ds.Pairwise Apart := h.ordered.imp .inl
  exact hpairs.forall hd hd' hne

theorem Source.Regions.lt_of_le (h : Regions nodes source start stop ds) {d d' : Declaration}
    (hd : d ∈ ds) (hd' : d' ∈ ds) (hne : d ≠ d')
    (hle : d'.span.leadingStart ≤ d.span.leadingStart) : d'.span.start < d.span.leadingStart := by
  have hself := h.leadingStart_le hd
  rcases h.apart hd hd' hne with hlt | hlt
  · omega
  · exact hlt

theorem Source.Regions.start_ne (h : Regions nodes source start stop ds) {d d' : Declaration}
    (hd : d ∈ ds) (hd' : d' ∈ ds) (hne : d ≠ d') : d.span.start ≠ d'.span.start := by
  have hself := h.leadingStart_le hd
  have hself' := h.leadingStart_le hd'
  rcases h.apart hd hd' hne with hlt | hlt <;> omega

variable {chosen : List (Declaration × Comment)}

theorem nodup_of_starts (h : (chosen.map fun p => p.1.span.start).Nodup) :
    (chosen.map Prod.fst).Nodup := by
  rw [show (fun p : Declaration × Comment => p.1.span.start) =
    (fun d : Declaration => d.span.start) ∘ Prod.fst from rfl, ← List.map_map] at h
  exact h.of_map _

theorem mapM_patch (h : ∀ p ∈ chosen, p.2.validateInsertable = .ok ()) :
    chosen.mapM (fun p => p.1.patch p.2) = .ok (chosen.map fun p => p.1.commented p.2) := by
  induction chosen with
  | nil => rfl
  | cons p ps ih =>
    rw [List.mapM_cons, patch_of_insertable (h p List.mem_cons_self),
      ih fun q hq => h q (List.mem_cons_of_mem _ hq)]
    rfl

/-- Patches from the last to the first all go in. -/
theorem foldl_add
    (hstands : ∀ p ∈ chosen, ∃ before region after, Stands nodes source before region after p.1)
    (hordered : chosen.Pairwise fun p q => q.1.span.start < p.1.span.leadingStart)
    (inserts : List (Nat × List Char)) (limit : Option Nat) (skipped : List Declaration)
    (hinserts : ∀ p ∈ chosen, ∀ i ∈ inserts, p.1.span.start < i.1)
    (hlimit : ∀ p ∈ chosen, ∀ n, limit = some n → p.1.span.start ≤ n) :
    ∃ limit', (chosen.map fun p => p.1.commented p.2).foldl (SourceUnit.Patching.add source)
        ⟨insertAt inserts 0 source, limit, skipped⟩ =
      ⟨insertAt ((chosen.map fun p => p.1.place p.2).reverse ++ inserts) 0 source, limit',
        skipped⟩ := by
  induction chosen generalizing inserts limit with
  | nil => exact ⟨limit, rfl⟩
  | cons p ps ih =>
    obtain ⟨before, region, after, hp⟩ := hstands p List.mem_cons_self
    obtain ⟨hfirst, hrest⟩ := List.pairwise_cons.1 hordered
    have hle := hp.leadingStart_le
    have hinserts' : ∀ q ∈ ps, ∀ i ∈ p.1.place p.2 :: inserts, q.1.span.start < i.1 := by
      intro q hq i hi
      rcases List.mem_cons.1 hi with rfl | hi
      · exact Nat.lt_of_lt_of_le (hfirst q hq) hle
      · exact hinserts q (List.mem_cons_of_mem _ hq) i hi
    have hlimit' : ∀ q ∈ ps, ∀ n, some p.1.span.leadingStart = some n → q.1.span.start ≤ n := by
      intro q hq n hn
      obtain rfl := Option.some.inj hn
      exact Nat.le_of_lt (hfirst q hq)
    obtain ⟨limit', hfold⟩ := ih (fun q hq => hstands q (List.mem_cons_of_mem _ hq)) hrest _ _
      hinserts' hlimit'
    refine ⟨limit', ?_⟩
    rw [List.map_cons, List.foldl_cons, hp.add_eq p.2 (hinserts p List.mem_cons_self)
      (hlimit p List.mem_cons_self), hfold]
    simp only [List.map_cons, List.reverse_cons, List.append_assoc, List.singleton_append]

/-- Patches of the declarations of a text all go in, in whatever order they are given. -/
theorem patching_eq {unit : SourceUnit}
    (h : Regions nodes unit.text.toList start stop unit.declarations)
    (hchosen : ∀ p ∈ chosen, p.1 ∈ unit.declarations) (hnodup : (chosen.map Prod.fst).Nodup) :
    ∃ limit, unit.patching (chosen.map fun p => p.1.commented p.2) =
      ⟨insertAt (chosen.map fun p => p.1.place p.2) 0 unit.text.toList, limit, []⟩ := by
  generalize hsorted : chosen.mergeSort (fun p q =>
    decide (q.1.span.leadingStart ≤ p.1.span.leadingStart)) = sorted
  have hperm : sorted.Perm chosen := hsorted ▸ List.mergeSort_perm _ _
  have horder : SourceUnit.orderPatches (chosen.map fun p => p.1.commented p.2) =
      sorted.map fun p => p.1.commented p.2 := by
    rw [← hsorted, List.map_mergeSort]
    · rfl
    · exact fun _ _ _ _ => rfl
  have hmem : ∀ p ∈ sorted, p.1 ∈ unit.declarations := fun p hp => hchosen p (hperm.subset hp)
  have hdistinct : sorted.Pairwise fun p q => p.1 ≠ q.1 :=
    List.pairwise_map.1 ((hperm.map Prod.fst).nodup_iff.2 hnodup)
  have hdescending : sorted.Pairwise fun p q => q.1.span.leadingStart ≤ p.1.span.leadingStart := by
    have hpairs : (chosen.mergeSort fun p q =>
        decide (q.1.span.leadingStart ≤ p.1.span.leadingStart)).Pairwise fun p q =>
          decide (q.1.span.leadingStart ≤ p.1.span.leadingStart) = true :=
      List.pairwise_mergeSort (fun _ _ _ => by simp; omega) (fun _ _ => by simp; omega) chosen
    rw [hsorted] at hpairs
    exact hpairs.imp fun hle => by simpa using hle
  have hordered : sorted.Pairwise fun p q => q.1.span.start < p.1.span.leadingStart :=
    (hdescending.and hdistinct).imp_of_mem fun hp hq hpq =>
      h.lt_of_le (hmem _ hp) (hmem _ hq) hpq.2 hpq.1
  obtain ⟨limit, hfold⟩ := foldl_add (fun p hp => h.stands p.1 (hmem p hp)) hordered [] none []
    (fun _ _ _ hi => absurd hi List.not_mem_nil) (fun _ _ _ hn => by (cases hn))
  refine ⟨limit, ?_⟩
  rw [insertAt_nil, List.append_nil] at hfold
  have hplaces : ((sorted.map fun p => p.1.place p.2).reverse).Perm
      (chosen.map fun p => p.1.place p.2) := (List.reverse_perm _).trans (hperm.map _)
  have hstarts : (((sorted.map fun p => p.1.place p.2).reverse).map Prod.fst).Nodup := by
    rw [List.map_reverse, List.nodup_reverse, List.map_map]
    exact List.pairwise_map.2 (hdistinct.imp_of_mem fun hp hq hne =>
      h.start_ne (hmem _ hp) (hmem _ hq) hne)
  rw [SourceUnit.patching, horder, hfold, insertAt_perm hplaces hstarts]

end

/-! ## Source units -/

section

variable {parser : Parser} {text : String} {unit : SourceUnit} {nodes : List Node}
  {start stop : Nat} {chosen : List (Declaration × Comment)}

theorem text_parse (parser : Parser) (text : String) :
    (SourceUnit.parse parser text).text = text := by
  unfold SourceUnit.parse
  split <;> rfl

/-- The declarations of a unit stand in its text as those of a tree. -/
theorem regions_parse (h : parser.IsSoundOn text.toList) :
    ∃ tree : SyntaxTree, tree.Sound text.toList ∧ (parser.IsTidyOn text.toList → tree.Tidy) ∧
      Regions tree.nodes (SourceUnit.parse parser text).text.toList 0 (byteLength text.toList)
        (SourceUnit.parse parser text).declarations := by
  rw [text_parse]
  unfold SourceUnit.parse
  cases htree : parser text.toList with
  | none => exact ⟨_, sound_unread _, fun _ => tidy_unread _, regions_nil _ _ _ _⟩
  | some tree => exact ⟨tree, h tree htree, fun htidy => htidy tree htree, regions_collect (h tree htree)⟩

theorem toList_apply (h : Regions nodes unit.text.toList start stop unit.declarations)
    (hchosen : ∀ p ∈ chosen, p.1 ∈ unit.declarations) (hnodup : (chosen.map Prod.fst).Nodup) :
    (unit.apply (chosen.map fun p => p.1.commented p.2)).toList =
      insertAt (chosen.map fun p => p.1.place p.2) 0 unit.text.toList := by
  obtain ⟨limit, hpatching⟩ := patching_eq h hchosen hnodup
  rw [SourceUnit.apply, hpatching, String.toList_ofList]

/-- Patches that put one text in front of each of their declarations, and change nothing
else. -/
structure SourceUnit.Inserts (unit : SourceUnit) (chosen : List (Declaration × Comment))
    (patches : List Patched) : Prop where
  skipped_eq : (unit.patching patches).skipped = []
  apply_eq : (unit.apply patches).toList =
    insertAt (chosen.map fun p => p.1.place p.2) 0 unit.text.toList
  delete_eq : deleteAt (chosen.map fun p => p.1.place p.2) 0 (unit.apply patches).toList =
    unit.text.toList
  /-- The places are different ones. -/
  nodup : (chosen.map fun p => p.1.span.start).Nodup
  /-- At each place the declaration follows. -/
  cut_eq : ∀ p ∈ chosen, ∃ before after,
    cut p.1.span.start unit.text.toList = some (before, p.1.sourceText.toList ++ after)

theorem Source.Regions.inserts (h : Regions nodes unit.text.toList start stop unit.declarations)
    (hchosen : ∀ p ∈ chosen, p.1 ∈ unit.declarations) (hnodup : (chosen.map Prod.fst).Nodup) :
    unit.Inserts chosen (chosen.map fun p => p.1.commented p.2) where
  skipped_eq := by
    obtain ⟨limit, hpatching⟩ := patching_eq h hchosen hnodup
    rw [hpatching]
  apply_eq := toList_apply h hchosen hnodup
  delete_eq := by rw [toList_apply h hchosen hnodup, deleteAt_insertAt]
  nodup := List.pairwise_map.2 ((List.pairwise_map.1 hnodup).imp_of_mem fun hp hq hne =>
    h.start_ne (hchosen _ hp) (hchosen _ hq) hne)
  cut_eq p hp := by
    obtain ⟨before, region, after, hstands⟩ := h.stands p.1 (hchosen p hp)
    obtain ⟨rest, rfl⟩ := hstands.sourceText_isPrefix
    exact ⟨_, rest, hstands.cut_eq⟩

/-- What is put in front of a declaration that stands on a line of its own: the lines of the
comment, each with a line break and the indent of the declaration. -/
def Declaration.InsertsLines (d : Declaration) (comment : Comment) (source : List Char) : Prop :=
  ∀ before after, cut d.span.start source = some (before, after) →
    (∀ c ∈ linePrefix before, c = ' ' ∨ c = '\t') →
      d.indent.toList = linePrefix before ∧
      d.insertion comment = comment.renderLines.flatMap fun line =>
        (line ++ lineBreakOf d.leadingTrivia ++ d.indent).toList

theorem Source.Stands.insertsLines {tree : SyntaxTree} {source before region after : List Char}
    {d : Declaration} (h : Stands tree.nodes source before region after d) (htidy : tree.Tidy)
    (comment : Comment) : d.InsertsLines comment source := by
  intro before' after' hcut hblanks
  obtain ⟨rfl, -⟩ := Prod.mk.inj (Option.some.inj (h.cut_eq.symm.trans hcut))
  exact ⟨by rw [h.indent_of_blanks hblanks, String.toList_ofList], h.insertion_eq htidy hblanks comment⟩

theorem inserts_parse (h : parser.IsSoundOn text.toList)
    (hchosen : ∀ p ∈ chosen, p.1 ∈ (SourceUnit.parse parser text).declarations)
    (hnodup : (chosen.map Prod.fst).Nodup) :
    (SourceUnit.parse parser text).Inserts chosen (chosen.map fun p => p.1.commented p.2) := by
  obtain ⟨tree, -, -, hregions⟩ := regions_parse h
  exact hregions.inserts hchosen hnodup

theorem insertsLines_parse (h : parser.IsSoundOn text.toList) (htidy : parser.IsTidyOn text.toList)
    {d : Declaration} (hd : d ∈ (SourceUnit.parse parser text).declarations) (comment : Comment) :
    d.InsertsLines comment text.toList := by
  obtain ⟨tree, -, htree, hregions⟩ := regions_parse h
  obtain ⟨before, region, after, hstands⟩ := hregions.stands d hd
  rw [text_parse] at hstands
  exact hstands.insertsLines (htree htidy) comment

end

/-- Applying patches puts in one text in front of each of their declarations and changes
nothing else, whatever sound tree the parser has given. If the tree is tidy, what is put in
front of a declaration that stands on a line of its own is the lines of the comment, each with
a line break and the indent of the declaration. -/
theorem apply_inserts (parser : Parser) (text : String) (hparser : parser.IsSoundOn text.toList)
    {chosen : List (Declaration × Comment)}
    (hchosen : ∀ p ∈ chosen, p.1 ∈ (SourceUnit.parse parser text).declarations)
    (hnodup : (chosen.map Prod.fst).Nodup)
    (hinsertable : ∀ p ∈ chosen, p.2.validateInsertable = .ok ()) :
    (SourceUnit.parse parser text).text = text ∧
    ∃ patches, chosen.mapM (fun p => p.1.patch p.2) = .ok patches ∧
      (SourceUnit.parse parser text).Inserts chosen patches ∧
      (parser.IsTidyOn text.toList → ∀ p ∈ chosen, p.1.InsertsLines p.2 text.toList) :=
  ⟨text_parse parser text, _, mapM_patch hinsertable, inserts_parse hparser hchosen hnodup,
    fun htidy p hp => insertsLines_parse hparser htidy (hchosen p hp) p.2⟩

theorem apply_inserts_members :
    let unit := SourceUnit.parse Parser.strict "class A \x7b int B;\n\tint C; \x7d\n"
    let chosen := unit.declarations.zip
      [Comment.ofSummary "The a.", ⟨[.inheritDoc]⟩, .ofSummary "The c."]
    (∀ p ∈ chosen, p.1.InsertsLines p.2 "class A \x7b int B;\n\tint C; \x7d\n".toList) ∧
    ∃ patches, chosen.mapM (fun p => p.1.patch p.2) = .ok patches ∧
      (unit.patching patches).skipped = [] ∧
      (unit.apply patches).toList =
        ("/// <summary>\n/// The a.\n/// </summary>\nclass A \x7b /// <inheritdoc/>\n int B;\n" ++
          "\t/// <summary>\n\t/// The c.\n\t/// </summary>\n\tint C; \x7d\n").toList := by
  intro unit chosen
  have hnodup : (chosen.map Prod.fst).Nodup := nodup_of_starts (by decide +kernel)
  have hinsertable : ∀ p ∈ chosen, p.2.validateInsertable = .ok () := by
    intro p hp
    have hmem := (List.of_mem_zip hp).2
    simp only [List.mem_cons, List.not_mem_nil, or_false] at hmem
    rcases hmem with h | h | h <;> rw [h] <;> rfl
  obtain ⟨-, patches, hpatches, hinserts, hlines⟩ := apply_inserts Parser.strict _
    (isSoundOn_strict _) (fun p (hp : p ∈ chosen) => (List.of_mem_zip hp).1) hnodup hinsertable
  refine ⟨hlines (isTidyOn_strict _), patches, hpatches, hinserts.skipped_eq,
    hinserts.apply_eq.trans ?_⟩
  decide +kernel

/-- The parser that does not recover gives sound and tidy trees, so nothing is left to be asked
of the texts that it reads. -/
theorem apply_read (text : String) {chosen : List (Declaration × Comment)}
    (hchosen : ∀ p ∈ chosen, p.1 ∈ (SourceUnit.read text).declarations)
    (hnodup : (chosen.map Prod.fst).Nodup)
    (hinsertable : ∀ p ∈ chosen, p.2.validateInsertable = .ok ()) :
    ∃ patches, chosen.mapM (fun p => p.1.patch p.2) = .ok patches ∧
      (SourceUnit.read text).Inserts chosen patches ∧
      ∀ p ∈ chosen, p.1.InsertsLines p.2 text.toList :=
  ⟨_, mapM_patch hinsertable, inserts_parse (isSoundOn_strict _) hchosen hnodup, fun p hp =>
    insertsLines_parse (isSoundOn_strict _) (isTidyOn_strict _) (hchosen p hp) p.2⟩

end Gloss
