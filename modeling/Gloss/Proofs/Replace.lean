import Gloss.Proofs.Apply

/-!
# Patches of any origin

A list of patches may hold stale ones, overlapping ones and ones with spans that mean
nothing in the text. Applying it replaces, all at once, what stands in front of some of
the declarations (`apply_replaces`): the patches that are kept follow one another in
the source text (`Ascending`), their offsets are those of the source text
(`replaceFrom`), and each other patch has a reason to be left out (`Refused`).

`Applied` is what holds while patches go in from the last to the first. The text in
front of the last one put in is that of the source, so an offset that was checked
there is good in the text that has changed (`Applied.add_of_fits`).
-/

namespace Gloss.Text

/-! ## Offsets behind a beginning of a text -/

theorem cut_append (a cs : List Char) (n : Nat) :
    cut (byteLength a + n) (a ++ cs) = (cut n cs).map fun p => (a ++ p.1, p.2) := by
  induction a with
  | nil => simp
  | cons c a ih =>
    have hpos := c.utf8Size_pos
    obtain ⟨m, hm⟩ : ∃ m, byteLength (c :: a) + n = m + 1 :=
      ⟨byteLength (c :: a) + n - 1, by rw [byteLength_cons]; omega⟩
    have hrest : m + 1 - c.utf8Size = byteLength a + n := by
      rw [← hm, byteLength_cons]
      omega
    have hle : c.utf8Size ≤ m + 1 := by
      rw [← hm, byteLength_cons]
      omega
    rw [hm, List.cons_append, cut, if_pos hle, hrest, ih, Option.map_map]
    rfl

/-- A part of a text that starts further in front. -/
theorem slice_prepend {source a gap rest : List Char} {stop : Nat}
    (hsource : source = a ++ (gap ++ rest)) (hle : byteLength (a ++ gap) ≤ stop) :
    slice (byteLength a) stop source =
      (slice (byteLength (a ++ gap)) stop source).map (gap ++ ·) := by
  have hstart : byteLength a ≤ stop := by
    rw [byteLength_append] at hle
    omega
  have hcut : cut (byteLength a) source = some (a, gap ++ rest) := by
    rw [hsource, cut_byteLength_append]
  have hcut' : cut (byteLength (a ++ gap)) source = some (a ++ gap, rest) := by
    rw [hsource, ← List.append_assoc, cut_byteLength_append]
  have hwidth : stop - byteLength a = byteLength gap + (stop - byteLength (a ++ gap)) := by
    rw [byteLength_append] at hle ⊢
    omega
  rw [slice, if_pos hstart, hcut, slice, if_pos hle, hcut']
  show (cut (stop - byteLength a) (gap ++ rest)).map (·.1) =
    ((cut (stop - byteLength (a ++ gap)) rest).map (·.1)).map (gap ++ ·)
  rw [hwidth, cut_append, Option.map_map, Option.map_map]
  rfl

/-- Where a range of a text lies between two boundaries, the text is cut by them. -/
theorem exists_of_slice_isSome {source : List Char} {start stop : Nat}
    (h : (slice start stop source).isSome = true) :
    ∃ a region rest, source = a ++ (region ++ rest) ∧ start = byteLength a ∧
      stop = byteLength (a ++ region) := by
  obtain ⟨region, hslice⟩ := Option.isSome_iff_exists.1 h
  rw [slice] at hslice
  split at hslice
  · rename_i hle
    obtain ⟨⟨a, behind⟩, hcut, hslice⟩ := Option.bind_eq_some_iff.1 hslice
    obtain ⟨⟨b, rest⟩, hcut', rfl⟩ := Option.map_eq_some_iff.1 hslice
    obtain ⟨rfl, hstart⟩ := cut_eq hcut
    obtain ⟨rfl, hstop⟩ := cut_eq hcut'
    refine ⟨a, b, rest, rfl, hstart.symm, ?_⟩
    rw [byteLength_append]
    omega
  · cases hslice

theorem slice_isSome_of_cut {source : List Char} {start stop : Nat} (hle : start ≤ stop)
    (hstart : cut start source ≠ none) (hstop : cut stop source ≠ none) :
    (slice start stop source).isSome = true := by
  obtain ⟨⟨a, rest⟩, hcut⟩ := Option.ne_none_iff_exists'.1 hstart
  obtain ⟨⟨b, rest'⟩, hcut'⟩ := Option.ne_none_iff_exists'.1 hstop
  obtain ⟨hsource, rfl⟩ := cut_eq hcut
  obtain ⟨hsource', rfl⟩ := cut_eq hcut'
  obtain ⟨e, rfl, rfl⟩ := append_split (hsource.symm.trans hsource') hle
  rw [hsource, slice_append]
  rfl

end Gloss.Text

namespace Gloss

open Gloss.Text

/-! ## Replacements in a row -/

/-- The span of the declaration that a patch is for. -/
def Patched.span (p : Patched) : TextSpan :=
  p.declaration.span

/-- The text from `pos` on with the trivia of patches, the first in front, in the place of
what stands there; none if their spans are no ranges of the text that follow one another. -/
def replaceFrom (source : List Char) (pos : Nat) : List Patched → Option (List Char)
  | [] => slice pos (byteLength source) source
  | p :: ps => do
    let gap ← slice pos p.span.leadingStart source
    let rest ← replaceFrom source p.span.start ps
    return gap ++ p.leadingText.toList ++ rest

/-- Patches whose trivia follow one another from `pos` on, the last in front of `stop`. -/
def Ascending (stop pos : Nat) : List Patched → Prop
  | [] => pos ≤ stop
  | p :: ps =>
    pos ≤ p.span.leadingStart ∧ p.span.leadingStart ≤ p.span.start ∧ Ascending stop p.span.start ps

/-- Why a patch is left out, when `kept` are the patches that are not. -/
inductive Refused (source : List Char) (kept : List Patched) (p : Patched) : Prop where
  | reversed (h : p.span.start < p.span.leadingStart)
  | noTrivia (h : cut p.span.leadingStart source = none)
  | noStart (h : cut p.span.start source = none)
  | mismatched {before after : List Char} (h : cut p.span.start source = some (before, after))
      (hother : ¬ p.declaration.sourceText.toList <+: after)
  /-- Another patch, no further in front, takes in what the patch is for. -/
  | overlapping {q : Patched} (hq : q ∈ kept) (h : q.span.leadingStart < p.span.start)
      (hle : p.span.leadingStart ≤ q.span.leadingStart)

theorem Refused.mono {source : List Char} {kept kept' : List Patched} {p : Patched}
    (h : Refused source kept p) (hsub : kept ⊆ kept') : Refused source kept' p := by
  cases h with
  | reversed h => exact .reversed h
  | noTrivia h => exact .noTrivia h
  | noStart h => exact .noStart h
  | mismatched h hother => exact .mismatched h hother
  | overlapping hq h hle => exact .overlapping (hsub hq) h hle

section

variable {source a gap rest : List Char} {kept : List Patched} {stop pos : Nat}

/-- Patches that start behind `pos`, with a limit for the first of them. -/
theorem Ascending.of_head (h : Ascending stop pos kept) {start : Nat} (hstop : start ≤ stop)
    (hhead : ∀ p, kept.head? = some p → start ≤ p.span.leadingStart) :
    Ascending stop start kept := by
  cases kept with
  | nil => exact hstop
  | cons p ps => exact ⟨hhead p rfl, h.2⟩

/-- A beginning of the text in front of all patches stays as it is. -/
theorem replaceFrom_prepend (kept : List Patched) (hsource : source = a ++ (gap ++ rest))
    (hhead : ∀ p, kept.head? = some p → byteLength (a ++ gap) ≤ p.span.leadingStart) :
    replaceFrom source (byteLength a) kept =
      (replaceFrom source (byteLength (a ++ gap)) kept).map (gap ++ ·) := by
  cases kept with
  | nil =>
    refine slice_prepend hsource ?_
    rw [hsource, ← List.append_assoc, byteLength_append (a ++ gap)]
    omega
  | cons p ps =>
    rw [replaceFrom, replaceFrom, slice_prepend hsource (hhead p rfl)]
    cases slice (byteLength (a ++ gap)) p.span.leadingStart source with
    | none => rfl
    | some between =>
      cases replaceFrom source p.span.start ps with
      | none => rfl
      | some behind => simp

/-- A patch in front of the others. -/
theorem replaceFrom_cons (p : Patched) {behind : List Char}
    (hsource : source = a ++ rest) (hstart : p.span.leadingStart = byteLength a)
    (hbehind : replaceFrom source p.span.start kept = some behind) :
    replaceFrom source 0 (p :: kept) = some (a ++ p.leadingText.toList ++ behind) := by
  have hgap : slice 0 p.span.leadingStart source = some a := by
    have hslice := slice_append [] a rest
    rwa [List.nil_append, List.nil_append, ← hsource, ← hstart] at hslice
  rw [replaceFrom, hgap, hbehind]
  rfl

end

/-! ## One patch -/

namespace SourceUnit

/-- Puts in one more patch if it fits the source text; none if the range that it replaces
does not lie between boundaries of the text as it is by then. -/
def Patching.add? (source : List Char) (state : Patching) (p : Patched) : Option Patching :=
  if fits source state.limit p.declaration then
    (slice p.span.leadingStart p.span.start state.text).map fun _ => state.add source p
  else some (state.add source p)

/-- What fitting means: the span is a range of the source text in front of what has been
patched, and the declaration stands behind it. -/
theorem fits_iff {source : List Char} {limit : Option Nat} {p : Patched} :
    fits source limit p.declaration = true ↔
      p.span.leadingStart ≤ p.span.start ∧ (∀ n, limit = some n → p.span.start ≤ n) ∧
      (∃ before after, cut p.span.start source = some (before, after) ∧
        p.declaration.sourceText.toList <+: after) ∧
      (slice p.span.leadingStart p.span.start source).isSome = true := by
  have hlimit : limit.all (fun n => decide (p.span.start ≤ n)) = true ↔
      ∀ n, limit = some n → p.span.start ≤ n := by
    cases limit <;> simp
  have htext : ((cut p.span.start source).any fun parts =>
      p.declaration.sourceText.toList.isPrefixOf parts.2) = true ↔
        ∃ before after, cut p.span.start source = some (before, after) ∧
          p.declaration.sourceText.toList <+: after := by
    cases cut p.span.start source with
    | none => simp
    | some parts => simp [Prod.ext_iff]
  rw [fits, Bool.and_eq_true, Bool.and_eq_true, Bool.and_eq_true, decide_eq_true_eq, and_assoc,
    and_assoc]
  exact and_congr_right' (and_congr hlimit (and_congr_left' htext))

/-- A text that is being patched: `kept` are the patches that have been put in, the first
in front. -/
structure Applied (source : List Char) (kept : List Patched) (state : Patching) : Prop where
  ascending : Ascending (byteLength source) 0 kept
  stands : ∀ p ∈ kept, ∃ before after, cut p.span.start source = some (before, after) ∧
    p.declaration.sourceText.toList <+: after
  text_eq : replaceFrom source 0 kept = some state.text
  limit_eq : state.limit = kept.head?.map (·.span.leadingStart)

variable {source : List Char} {kept : List Patched} {state : Patching} {p : Patched}

theorem applied_nil (source : List Char) : Applied source [] { text := source } where
  ascending := Nat.zero_le _
  stands _ h := absurd h List.not_mem_nil
  text_eq := by
    have hslice := slice_append [] source []
    rwa [List.nil_append, List.nil_append, List.append_nil] at hslice
  limit_eq := rfl

/-- A patch that fits is put in at boundaries of the text, in front of the others. -/
theorem Applied.add_of_fits (h : Applied source kept state)
    (hfits : fits source state.limit p.declaration = true) :
    (slice p.span.leadingStart p.span.start state.text).isSome = true ∧
      Applied source (p :: kept) (state.add source p) := by
  obtain ⟨hle, hlimit, htext, hslice⟩ := fits_iff.1 hfits
  obtain ⟨a, region, rest, hsource, hlead, hstart⟩ := exists_of_slice_isSome hslice
  have hhead : ∀ q, kept.head? = some q → p.span.start ≤ q.span.leadingStart := by
    intro q hq
    exact hlimit _ (by rw [h.limit_eq, hq, Option.map_some])
  -- The text in front of the patches that are in is that of the source.
  have hwhole : source = [] ++ ((a ++ region) ++ rest) := by
    rw [hsource, List.nil_append, List.append_assoc]
  have hfront := replaceFrom_prepend kept hwhole fun q hq => by
    rw [List.nil_append, ← hstart]
    exact hhead q hq
  rw [List.nil_append, byteLength_nil, h.text_eq, ← hstart] at hfront
  obtain ⟨behind, hbehind, heq⟩ := Option.map_eq_some_iff.1 hfront.symm
  rw [List.append_assoc] at heq
  have hreplace : replaceRange p.span.leadingStart p.span.start p.leadingText.toList state.text =
      a ++ p.leadingText.toList ++ behind := by
    rw [← heq, hlead, hstart, replaceRange_append]
  have hadd : state.add source p =
      { state with
        text := a ++ p.leadingText.toList ++ behind
        limit := some p.span.leadingStart } := by
    rw [Patching.add, if_pos hfits, ← hreplace]
    rfl
  refine ⟨?_, ?_⟩
  · rw [← heq, hlead, hstart, slice_append]
    rfl
  · rw [hadd]
    refine ⟨⟨Nat.zero_le _, hle, h.ascending.of_head ?_ hhead⟩, ?_, ?_, rfl⟩
    · rw [hstart, hsource, ← List.append_assoc, byteLength_append (a ++ region)]
      omega
    · intro q hq
      rcases List.mem_cons.1 hq with rfl | hq
      · exact htext
      · exact h.stands q hq
    · exact replaceFrom_cons p hsource hlead hbehind

/-- A patch that does not fit is left out for a reason. Those that are in start their trivia
no further in front than it does. -/
theorem Applied.refused (h : Applied source kept state)
    (hfits : fits source state.limit p.declaration = false)
    (habove : ∀ q ∈ kept, p.span.leadingStart ≤ q.span.leadingStart) : Refused source kept p := by
  by_cases hle : p.span.leadingStart ≤ p.span.start
  swap
  · exact .reversed (by omega)
  by_cases hlimit : ∀ n, state.limit = some n → p.span.start ≤ n
  swap
  · obtain ⟨n, hn, hlt⟩ : ∃ n, state.limit = some n ∧ n < p.span.start := by
      simpa using hlimit
    rw [h.limit_eq] at hn
    obtain ⟨q, hq, rfl⟩ := Option.map_eq_some_iff.1 hn
    have hmem := List.mem_of_head? hq
    exact .overlapping hmem hlt (habove q hmem)
  cases hcut : cut p.span.start source with
  | none => exact .noStart hcut
  | some parts =>
    obtain ⟨before, after⟩ := parts
    by_cases hlead : cut p.span.leadingStart source = none
    · exact .noTrivia hlead
    refine .mismatched hcut fun htext => ?_
    have hslice := slice_isSome_of_cut hle hlead (by rw [hcut]; exact Option.some_ne_none _)
    rw [fits_iff.2 ⟨hle, hlimit, ⟨before, after, hcut, htext⟩, hslice⟩] at hfits
    cases hfits

theorem Applied.add_of_not_fits (h : Applied source kept state)
    (hfits : fits source state.limit p.declaration = false) :
    Applied source kept (state.add source p) := by
  have hadd : state.add source p =
      { state with skipped := state.skipped ++ [p.declaration] } := by
    rw [Patching.add, hfits, if_neg (by simp)]
  rw [hadd]
  exact ⟨h.ascending, h.stands, h.text_eq, h.limit_eq⟩

/-! ## All patches -/

theorem skipped_add_of_fits (hfits : fits source state.limit p.declaration = true) :
    (state.add source p).skipped = state.skipped := by
  rw [Patching.add, if_pos hfits]

theorem skipped_add_of_not_fits (hfits : fits source state.limit p.declaration = false) :
    (state.add source p).skipped = state.skipped ++ [p.declaration] := by
  rw [Patching.add, hfits, if_neg (by simp)]

/-- Of patches that are tried from the last to the first, some go in and the others are
refused. No range is ever replaced that does not lie between boundaries. -/
theorem Applied.foldl_add (h : Applied source kept state) {ps : List Patched}
    (hsorted : ps.Pairwise fun p q => q.span.leadingStart ≤ p.span.leadingStart)
    (habove : ∀ q ∈ kept, ∀ p ∈ ps, p.span.leadingStart ≤ q.span.leadingStart) :
    ∃ more left, Applied source (more ++ kept) (ps.foldl (Patching.add source) state) ∧
      (more ++ left).Perm ps ∧ (∀ p ∈ left, Refused source (more ++ kept) p) ∧
      (ps.foldl (Patching.add source) state).skipped =
        state.skipped ++ left.map (·.declaration) ∧
      ps.foldlM (Patching.add? source) state = some (ps.foldl (Patching.add source) state) := by
  induction ps generalizing kept state with
  | nil =>
    refine ⟨[], [], h, .refl _, fun _ hp => absurd hp List.not_mem_nil, ?_, rfl⟩
    simp
  | cons p ps ih =>
    obtain ⟨hfirst, hrest⟩ := List.pairwise_cons.1 hsorted
    have habove' : ∀ q ∈ kept, ∀ p ∈ ps, p.span.leadingStart ≤ q.span.leadingStart :=
      fun q hq p hp => habove q hq p (List.mem_cons_of_mem _ hp)
    cases hfits : fits source state.limit p.declaration with
    | true =>
      obtain ⟨hslice, hadd⟩ := h.add_of_fits hfits
      have habove'' : ∀ q ∈ p :: kept, ∀ r ∈ ps, r.span.leadingStart ≤ q.span.leadingStart := by
        intro q hq r hr
        rcases List.mem_cons.1 hq with rfl | hq
        · exact hfirst r hr
        · exact habove' q hq r hr
      obtain ⟨more, left, happlied, hperm, hleft, hskipped, hrun⟩ := ih hadd hrest habove''
      have happend : (more ++ [p]) ++ kept = more ++ p :: kept := by simp
      refine ⟨more ++ [p], left, ?_, ?_, ?_, ?_, ?_⟩
      · rw [happend]
        exact happlied
      · rw [List.append_assoc]
        exact List.perm_middle.trans (hperm.cons p)
      · rw [happend]
        exact hleft
      · rw [List.foldl_cons, hskipped, skipped_add_of_fits hfits]
      · obtain ⟨range, hrange⟩ := Option.isSome_iff_exists.1 hslice
        have hadd? : state.add? source p = some (state.add source p) := by
          rw [Patching.add?, if_pos hfits, hrange, Option.map_some]
        rw [List.foldlM_cons, hadd?, List.foldl_cons, ← hrun]
        rfl
    | false =>
      obtain ⟨more, left, happlied, hperm, hleft, hskipped, hrun⟩ :=
        ih (h.add_of_not_fits hfits) hrest habove'
      have hrefused := h.refused hfits fun q hq => habove q hq p List.mem_cons_self
      refine ⟨more, p :: left, happlied, List.perm_middle.trans (hperm.cons p), ?_, ?_, ?_⟩
      · intro q hq
        rcases List.mem_cons.1 hq with rfl | hq
        · exact hrefused.mono (List.subset_append_right _ _)
        · exact hleft q hq
      · rw [List.foldl_cons, hskipped, skipped_add_of_not_fits hfits]
        simp
      · have hadd? : state.add? source p = some (state.add source p) := by
          rw [Patching.add?, hfits, if_neg (by simp)]
        rw [List.foldlM_cons, hadd?, List.foldl_cons, ← hrun]
        rfl

theorem pairwise_orderPatches (patches : List Patched) :
    (orderPatches patches).Pairwise fun p q => q.span.leadingStart ≤ p.span.leadingStart := by
  have hsorted : (orderPatches patches).Pairwise fun p q =>
      decide (q.span.leadingStart ≤ p.span.leadingStart) = true :=
    List.pairwise_mergeSort (fun _ _ _ => by simp; omega) (fun _ _ => by simp; omega) patches
  exact hsorted.imp fun hle => by simpa using hle

/-- Where the trivia of all patches start at different places, there is one order from
the last to the first. -/
theorem orderPatches_of_perm {patches patches' : List Patched}
    (hnodup : (patches.map (·.span.leadingStart)).Nodup) (hperm : patches'.Perm patches) :
    orderPatches patches' = orderPatches patches := by
  have hsorted : (orderPatches patches).Perm patches := List.mergeSort_perm _ _
  have hsorted' : (orderPatches patches').Perm patches :=
    (List.mergeSort_perm patches' _).trans hperm
  refine List.Perm.eq_of_pairwise (fun p q hp hq hle hge => ?_) (pairwise_orderPatches patches')
    (pairwise_orderPatches patches) (hsorted'.trans hsorted.symm)
  exact List.inj_on_of_nodup_map hnodup (hsorted'.subset hp) (hsorted.subset hq)
    (Nat.le_antisymm hge hle)

end SourceUnit

/-- Applying any patches to any text replaces, at once, what stands in front of the
declarations of some of them, and every other patch has a reason to be left out. Ranges are
only replaced between boundaries of the text. Where the trivia of no two patches start at
the same place, the order of the patches does not matter. -/
theorem apply_replaces (unit : SourceUnit) (patches : List Patched) :
    ((SourceUnit.orderPatches patches).foldlM (SourceUnit.Patching.add? unit.text.toList)
        { text := unit.text.toList } = some (unit.patching patches)) ∧
      (∃ kept left, (kept ++ left).Perm patches ∧
        Ascending (byteLength unit.text.toList) 0 kept ∧
        (∀ p ∈ kept, ∃ before after, cut p.span.start unit.text.toList = some (before, after) ∧
          p.declaration.sourceText.toList <+: after) ∧
        replaceFrom unit.text.toList 0 kept = some (unit.apply patches).toList ∧
        (∀ p ∈ left, Refused unit.text.toList kept p) ∧
        (unit.patching patches).skipped = left.map (·.declaration)) ∧
      ((patches.map (·.span.leadingStart)).Nodup →
        ∀ patches', patches'.Perm patches → unit.apply patches' = unit.apply patches) := by
  obtain ⟨kept, left, happlied, hperm, hleft, hskipped, hrun⟩ :=
    (SourceUnit.applied_nil unit.text.toList).foldl_add (SourceUnit.pairwise_orderPatches patches)
      fun _ hq => absurd hq List.not_mem_nil
  rw [List.append_nil] at happlied hleft
  refine ⟨hrun, ⟨kept, left, ?_, happlied.ascending, happlied.stands, ?_, hleft, ?_⟩, ?_⟩
  · exact hperm.trans (List.mergeSort_perm _ _)
  · rw [happlied.text_eq, SourceUnit.apply, String.toList_ofList]
    rfl
  · exact hskipped.trans (List.nil_append _)
  · intro hnodup patches' hperm'
    rw [SourceUnit.apply, SourceUnit.apply, SourceUnit.patching, SourceUnit.patching,
      SourceUnit.orderPatches_of_perm hnodup hperm']

end Gloss
