import Gloss.Proofs.Cache.Progress
import Gloss.Proofs.Documented
import Gloss.Proofs.LineEndings

/-!
# Reports on source units

Declarations of a unit are done in any order, and what comes of them is put back into the
order of the text (`UnitReport.collect`). The report then says what has been done
(`UnitReport.Faithful`): it has an entry for each declaration, those that need a comment
have got one or failed, and the text has a block put in front of each that got one and is
otherwise as it was. `documentUnit_faithful` says so of a unit that comes from any parser with
sound trees, for all orders, and that `documentUnit` gives such a report.
-/

namespace Gloss

open Gloss.Text Gloss.Source Comment

/-! ## Outcomes -/

/-- Whether nothing was to be done. -/
def Outcome.isSkipped : Outcome → Bool
  | .ok none => true
  | _ => false

/-- The comment that was put in. -/
def Outcome.comment? : Outcome → Option Comment
  | .ok (some done) => some done.patched.comment
  | _ => none

namespace UnitReport

/-- The declarations that got a comment, with it. -/
def commented (report : UnitReport) : List (Declaration × Comment) :=
  report.outcomes.filterMap fun p => p.2.comment?.map (p.1, ·)

/-- What is put into the text, and where. -/
def places (report : UnitReport) : List (Nat × List Char) :=
  report.commented.map fun p => p.1.place p.2

theorem length_commented (report : UnitReport) : report.commented.length = report.documented := by
  rw [commented, documented, patches]
  induction report.outcomes with
  | nil => rfl
  | cons p ps ih =>
    obtain ⟨d, outcome⟩ := p
    rcases outcome with e | _ | done <;> simpa [Outcome.comment?] using ih

/-- Each outcome is counted once. -/
theorem counts_eq (report : UnitReport) :
    report.documented + report.skipped + report.failed = report.outcomes.length := by
  rw [documented, patches, skipped, failed, failures]
  induction report.outcomes with
  | nil => rfl
  | cons p ps ih =>
    obtain ⟨d, outcome⟩ := p
    rcases outcome with e | _ | done <;>
      · simp only [List.filterMap_cons, List.countP_cons, List.length_cons] at ih ⊢
        simp at ih ⊢
        omega

/-- A report that says what has been done to a unit. -/
structure Faithful (report : UnitReport) (unit : SourceUnit) (options : ScanOptions) : Prop where
  declarations_eq : report.outcomes.map Prod.fst = unit.declarations
  missing_eq : unit.missing options =
    (report.outcomes.filter fun p => !p.2.isSkipped).map fun p => .ofDeclaration p.1
  counts_eq : report.documented + report.skipped + report.failed = unit.declarations.length
  length_places : report.places.length = report.documented
  /-- At most one block is put in at a place. -/
  nodup_places : (report.places.map Prod.fst).Nodup
  text_eq : report.text.toList = insertAt report.places 0 unit.text.toList
  delete_text : deleteAt report.places 0 report.text.toList = unit.text.toList
  /-- What is put in stands in front of its declaration and is not empty. -/
  place_eq : ∀ d done, (d, .ok (some done)) ∈ report.outcomes →
    d.place done.patched.comment ∈ report.places ∧ d.insertion done.patched.comment ≠ [] ∧
      ∃ before after,
        cut d.span.start unit.text.toList = some (before, d.sourceText.toList ++ after)
  text_ne_iff : report.text ≠ unit.text ↔ 0 < report.documented

end UnitReport

namespace Documentor

variable {doc : Documentor} {d : Declaration} {unit : SourceUnit} {report : UnitReport}

theorem isSkipped_iff {outcome : Outcome} : outcome.isSkipped = true ↔ outcome = .ok none := by
  rcases outcome with e | _ | done <;> simp [Outcome.isSkipped]

theorem isSkipped_document (doc : Documentor) (d : Declaration) (result : Option Cache.Result) :
    (!(doc.document d result).isSkipped) = d.shouldDocument doc.options.scan := by
  rw [Bool.eq_iff_iff, Bool.not_eq_true', ← Bool.not_eq_true, isSkipped_iff, document_eq_none_iff,
    Bool.not_eq_false]

theorem commented_of_document {result : Option Cache.Result} {done : Documented}
    (h : doc.document d result = .ok (some done)) :
    done.patched = d.commented done.patched.comment ∧
      done.patched.comment.validateInsertable = .ok () := by
  unfold document at h
  split at h
  · split at h
    · cases h
    · rename_i comment origin _
      obtain ⟨patched, hpatched, hdone⟩ := ok_of_map h
      cases hdone
      rw [Patched.eq_of_patch hpatched]
      refine ⟨rfl, ?_⟩
      unfold Declaration.patch at hpatched
      split at hpatched
      · cases hpatched
      · assumption
  · cases h

/-! ## Reports on a unit -/

/-- A report on a unit that gives what comes of its declarations, with any answers. -/
structure Reports (doc : Documentor) (unit : SourceUnit) (report : UnitReport) : Prop where
  unit_eq : report.unit = unit
  declarations_eq : report.outcomes.map Prod.fst = unit.declarations
  outcome_eq : ∀ p ∈ report.outcomes, ∃ result, p.2 = doc.document p.1 result

namespace Reports

variable {nodes : List Node} {start stop : Nat}

theorem missing_eq (h : doc.Reports unit report) :
    unit.missing doc.options.scan =
      (report.outcomes.filter fun p => !p.2.isSkipped).map fun p => .ofDeclaration p.1 := by
  have hfilter : report.outcomes.filter (fun p => !p.2.isSkipped) =
      report.outcomes.filter fun p => p.1.shouldDocument doc.options.scan := by
    refine List.filter_congr fun p hp => ?_
    obtain ⟨result, hresult⟩ := h.outcome_eq p hp
    rw [hresult, isSkipped_document]
  rw [SourceUnit.missing, ← h.declarations_eq, List.filter_map, List.map_map, hfilter]
  rfl

theorem patches_eq (h : doc.Reports unit report) :
    report.patches = report.commented.map fun p => p.1.commented p.2 := by
  rw [UnitReport.patches, UnitReport.commented, List.map_filterMap]
  refine List.filterMap_congr fun p hp => ?_
  obtain ⟨result, hresult⟩ := h.outcome_eq p hp
  obtain ⟨d, outcome⟩ := p
  rcases outcome with e | _ | done
  · rfl
  · rfl
  · exact congrArg some (commented_of_document hresult.symm).1

theorem mem_commented (h : doc.Reports unit report) {p : Declaration × Comment}
    (hp : p ∈ report.commented) :
    p.1 ∈ unit.declarations ∧ p.2.validateInsertable = .ok () := by
  obtain ⟨⟨d, outcome⟩, hmem, heq⟩ := List.mem_filterMap.1 hp
  obtain ⟨result, hresult⟩ := h.outcome_eq _ hmem
  rcases outcome with e | _ | done
  · cases heq
  · cases heq
  · cases heq
    refine ⟨h.declarations_eq ▸ List.mem_map_of_mem (f := Prod.fst) hmem, ?_⟩
    exact (commented_of_document hresult.symm).2

theorem nodup_commented (h : doc.Reports unit report)
    (hregions : Regions nodes unit.text.toList start stop unit.declarations) :
    (report.commented.map Prod.fst).Nodup := by
  have hdeclarations : unit.declarations.Nodup :=
    hregions.ordered.imp_of_mem fun {d d'} hd _ hlt heq => by
      have hle := hregions.leadingStart_le hd
      subst heq
      omega
  have hoption : report.commented.map Prod.fst =
      report.outcomes.filterMap fun p => p.2.comment?.map fun _ => p.1 := by
    rw [UnitReport.commented, List.map_filterMap]
    simp [Function.comp_def]
  rw [← h.declarations_eq] at hdeclarations
  rw [hoption]
  refine List.Pairwise.filterMap _ (fun p p' hne d hd d' hd' => ?_)
    (List.pairwise_map.1 hdeclarations)
  obtain ⟨-, -, rfl⟩ := Option.map_eq_some_iff.1 hd
  obtain ⟨-, -, rfl⟩ := Option.map_eq_some_iff.1 hd'
  exact hne

theorem text_eq (h : doc.Reports unit report)
    (hregions : Regions nodes unit.text.toList start stop unit.declarations) :
    report.text.toList = insertAt report.places 0 unit.text.toList := by
  rw [UnitReport.text, h.unit_eq, h.patches_eq]
  exact toList_apply hregions (fun p hp => (h.mem_commented hp).1) (h.nodup_commented hregions)

theorem insertion_ne_nil {comment : Comment} (h : comment.validateInsertable = .ok ())
    (d : Declaration) : d.insertion comment ≠ [] := by
  obtain ⟨first, rest, heq⟩ := List.exists_cons_of_ne_nil (Comment.renderLines_ne_nil h)
  have hfirst := Comment.ne_nil_of_mem_renderLines (heq ▸ List.mem_cons_self)
  rw [Declaration.insertion, heq]
  simp [hfirst]

theorem text_ne (h : doc.Reports unit report)
    (hregions : Regions nodes unit.text.toList start stop unit.declarations)
    {p : Declaration × Comment} (hp : p ∈ report.commented) : report.text ≠ unit.text := by
  obtain ⟨hmem, hinsertable⟩ := h.mem_commented hp
  obtain ⟨before, region, after, hstands⟩ := hregions.stands p.1 hmem
  have hplace : p.1.place p.2 ∈ report.places :=
    List.mem_map_of_mem (f := fun p : Declaration × Comment => p.1.place p.2) hp
  have hpos : (p.1.place p.2).1 = 0 + byteLength (before ++ region) := by
    rw [Nat.zero_add, ← hstands.start_eq]
    rfl
  have hlonger := length_lt_insertAt hplace (insertion_ne_nil hinsertable p.1) (before ++ region)
    after hpos
  rw [List.append_assoc, ← hstands.source_eq, ← h.text_eq hregions] at hlonger
  intro heq
  rw [heq] at hlonger
  exact Nat.lt_irrefl _ hlonger

theorem text_ne_iff (h : doc.Reports unit report)
    (hregions : Regions nodes unit.text.toList start stop unit.declarations) :
    report.text ≠ unit.text ↔ 0 < report.documented := by
  rw [← report.length_commented, List.length_pos_iff]
  constructor
  · intro hne hnil
    refine hne (String.toList_inj.1 ?_)
    rw [h.text_eq hregions, UnitReport.places, hnil, List.map_nil, insertAt_nil]
  · intro hne
    obtain ⟨p, hp⟩ := List.exists_mem_of_ne_nil _ hne
    exact h.text_ne hregions hp

theorem faithful (h : doc.Reports unit report)
    (hregions : Regions nodes unit.text.toList start stop unit.declarations) :
    report.Faithful unit doc.options.scan where
  declarations_eq := h.declarations_eq
  missing_eq := h.missing_eq
  counts_eq := by rw [report.counts_eq, ← h.declarations_eq, List.length_map]
  length_places := by rw [UnitReport.places, List.length_map, report.length_commented]
  nodup_places := by
    rw [UnitReport.places, List.map_map]
    refine List.pairwise_map.2 ((List.pairwise_map.1 (h.nodup_commented hregions)).imp_of_mem ?_)
    intro p q hp hq hne
    exact hregions.start_ne (h.mem_commented hp).1 (h.mem_commented hq).1 hne
  text_eq := h.text_eq hregions
  delete_text := by rw [h.text_eq hregions, deleteAt_insertAt]
  place_eq := by
    intro d done hmem
    have hp : (d, done.patched.comment) ∈ report.commented :=
      List.mem_filterMap.2 ⟨(d, .ok (some done)), hmem, rfl⟩
    obtain ⟨hd, hinsertable⟩ := h.mem_commented hp
    obtain ⟨before, region, after, hstands⟩ := hregions.stands d hd
    obtain ⟨rest, rfl⟩ := hstands.sourceText_isPrefix
    exact ⟨List.mem_map_of_mem (f := fun p : Declaration × Comment => p.1.place p.2) hp,
      insertion_ne_nil hinsertable d, _, rest, hstands.cut_eq⟩
  text_ne_iff := h.text_ne_iff hregions

end Reports

/-! ## Any order -/

/-- What has come of declarations, by place, in the order in which they were done. -/
def completed (doc : Documentor) (ds : List Declaration) (answer : Nat → Option Cache.Result)
    (order : List Nat) : List (Nat × Outcome) :=
  order.filterMap fun i => ds[i]?.map fun d => (i, doc.document d (answer i))

end Documentor

/-- The report on a unit from what has come of its declarations, by place. -/
def UnitReport.collect (unit : SourceUnit) (results : List (Nat × Outcome)) : UnitReport where
  unit := unit
  outcomes := (results.mergeSort fun r r' => decide (r.1 ≤ r'.1)).filterMap fun r =>
    unit.declarations[r.1]?.map fun d => (d, r.2)

namespace Documentor

variable {doc doc' : Documentor} {ds : List Declaration} {answer : Nat → Option Cache.Result}
  {order : List Nat}

theorem eq_of_mem_completed {r r' : Nat × Outcome} (h : r ∈ doc.completed ds answer order)
    (h' : r' ∈ doc.completed ds answer order) (hplace : r.1 = r'.1) : r = r' := by
  obtain ⟨i, -, hi⟩ := List.mem_filterMap.1 h
  obtain ⟨j, -, hj⟩ := List.mem_filterMap.1 h'
  obtain ⟨d, hd, rfl⟩ := Option.map_eq_some_iff.1 hi
  obtain ⟨d', hd', rfl⟩ := Option.map_eq_some_iff.1 hj
  obtain rfl : i = j := hplace
  rw [Option.some.inj (hd.symm.trans hd')]

/-- Sorted by place, outcomes stand as if they had come in order. -/
theorem mergeSort_completed {n : Nat} (horder : order.Perm (List.range n)) :
    (doc.completed ds answer order).mergeSort (fun r r' => decide (r.1 ≤ r'.1)) =
      doc.completed ds answer (List.range n) := by
  have hperm : (doc.completed ds answer order).Perm (doc.completed ds answer (List.range n)) :=
    horder.filterMap _
  have hsorted : ((doc.completed ds answer order).mergeSort
      fun r r' => decide (r.1 ≤ r'.1)).Pairwise fun r r' => r.1 ≤ r'.1 := by
    refine (List.pairwise_mergeSort ?_ ?_ _).imp of_decide_eq_true
    · intro r r' r'' h h'
      exact decide_eq_true (Nat.le_trans (of_decide_eq_true h) (of_decide_eq_true h'))
    · intro r r'
      simpa using Nat.le_total r.1 r'.1
  have hrange : (doc.completed ds answer (List.range n)).Pairwise fun r r' => r.1 ≤ r'.1 := by
    refine List.Pairwise.filterMap _ (fun i j hlt r hr r' hr' => ?_) List.pairwise_lt_range
    obtain ⟨-, -, rfl⟩ := Option.map_eq_some_iff.1 hr
    obtain ⟨-, -, rfl⟩ := Option.map_eq_some_iff.1 hr'
    exact Nat.le_of_lt hlt
  refine List.Perm.eq_of_pairwise (fun r r' hr hr' hle hle' => ?_) hsorted hrange
    ((List.mergeSort_perm _ _).trans hperm)
  refine eq_of_mem_completed (hperm.mem_iff.1 (List.mem_mergeSort.1 hr)) hr' ?_
  exact Nat.le_antisymm hle hle'

/-- Going by the places of a list is going along it. -/
theorem filterMap_range' {α β : Type} (f : Nat → α → β) (pre as : List α) :
    (List.range' pre.length as.length).filterMap (fun i => (pre ++ as)[i]?.map (f i)) =
      (as.zipIdx pre.length).map fun p => f p.2 p.1 := by
  induction as generalizing pre with
  | nil => rfl
  | cons a as ih =>
    have hrest := ih (pre ++ [a])
    rw [List.length_append, List.append_assoc] at hrest
    have hhead : (pre ++ a :: as)[pre.length]? = some a := by simp
    rw [List.length_cons, List.range'_succ, List.filterMap_cons, hhead, List.zipIdx_cons,
      List.map_cons]
    exact congrArg (f pre.length a :: ·) hrest

theorem outcomes_collect (doc : Documentor) (unit : SourceUnit)
    (answer : Nat → Option Cache.Result)
    (horder : order.Perm (List.range unit.declarations.length)) :
    (UnitReport.collect unit (doc.completed unit.declarations answer order)).outcomes =
      unit.declarations.zipIdx.map fun p => (p.1, doc.document p.1 (answer p.2)) := by
  rw [UnitReport.collect, mergeSort_completed horder, completed, List.filterMap_filterMap]
  have hrange := filterMap_range' (fun i d => (d, doc.document d (answer i))) [] unit.declarations
  rw [List.length_nil, ← List.range_eq_range', List.nil_append] at hrange
  rw [← hrange]
  refine List.filterMap_congr fun i _ => ?_
  cases hd : unit.declarations[i]? <;> simp [hd]

theorem zip_outcomesFrom (doc : Documentor) (answer : Nat → Option Cache.Result) (i : Nat)
    (ds : List Declaration) :
    ds.zip (doc.outcomesFrom answer i ds) =
      (ds.zipIdx i).map fun p => (p.1, doc.document p.1 (answer p.2)) := by
  induction ds generalizing i with
  | nil => rfl
  | cons d ds ih => rw [outcomesFrom, List.zip_cons_cons, ih, List.zipIdx_cons, List.map_cons]

/-- Documenting a unit is collecting what comes of its declarations when they are done. -/
theorem value_documentUnit (doc : Documentor) (clock : Cache.Clock) (unit : SourceUnit) :
    (doc.schedule clock unit.declarations).endedJobs.Perm
        (List.range unit.declarations.length) ∧
      (doc.documentUnit clock unit).value = UnitReport.collect unit (doc.completed unit.declarations
        (doc.schedule clock unit.declarations).result?
        (doc.schedule clock unit.declarations).endedJobs) := by
  have hended := Cache.Schedule.endedJobs_run clock.cache clock.now doc.options.concurrency
    (unit.declarations.map doc.request)
  rw [List.length_map] at hended
  refine ⟨hended, ?_⟩
  have houtcomes := outcomes_collect doc unit (doc.schedule clock unit.declarations).result? hended
  rw [← zip_outcomesFrom] at houtcomes
  show UnitReport.mk unit _ = UnitReport.mk unit _
  exact congrArg (UnitReport.mk unit) houtcomes.symm

theorem reports_collect (doc : Documentor) (unit : SourceUnit)
    (answer : Nat → Option Cache.Result)
    (horder : order.Perm (List.range unit.declarations.length)) :
    doc.Reports unit
      (UnitReport.collect unit (doc.completed unit.declarations answer order)) := by
  have houtcomes := outcomes_collect doc unit answer horder
  refine ⟨rfl, ?_, fun p hp => ?_⟩
  · rw [houtcomes, List.map_map]
    exact List.zipIdx_map_fst 0 _
  · rw [houtcomes] at hp
    obtain ⟨q, -, rfl⟩ := List.mem_map.1 hp
    exact ⟨answer q.2, rfl⟩

/-- Declarations that fail put nothing into the text, as if they needed no comment. -/
theorem text_collect_congr {unit : SourceUnit} {answer' : Nat → Option Cache.Result}
    {order' : List Nat} (horder : order.Perm (List.range unit.declarations.length))
    (horder' : order'.Perm (List.range unit.declarations.length))
    (h : ∀ (i : Nat) d, unit.declarations[i]? = some d →
      doc'.document d (answer' i) = doc.document d (answer i) ∨
      (∃ e, doc.document d (answer i) = .error e) ∧ d.shouldDocument doc'.options.scan = false) :
    (UnitReport.collect unit (doc'.completed unit.declarations answer' order')).text =
      (UnitReport.collect unit (doc.completed unit.declarations answer order)).text := by
  refine congrArg unit.apply ?_
  rw [UnitReport.patches, UnitReport.patches, outcomes_collect doc' unit answer' horder',
    outcomes_collect doc unit answer horder, List.filterMap_map, List.filterMap_map]
  refine List.filterMap_congr fun p hp => ?_
  have hp' : unit.declarations[p.2]? = some p.1 := by
    simpa using List.mem_zipIdx_iff_getElem?.1 hp
  rcases h p.2 p.1 hp' with heq | ⟨⟨e, herror⟩, hshould⟩
  · simp only [Function.comp_apply, heq]
  · simp only [Function.comp_apply, herror, document_eq_none_iff.2 hshould]

end Documentor

/-- The report on a unit is faithful, whatever sound tree its parser has given, in whatever
order its declarations are done and whatever answers they get: it has the outcome of each
declaration at its place, and the text is as if declarations that failed had needed no comment.
The report of `documentUnit` is such a report. -/
theorem documentUnit_faithful (doc : Documentor) (parser : Parser) (text : String)
    (hparser : parser.IsSoundOn text.toList) :
    let unit := SourceUnit.parse parser text
    unit.text = text ∧
    (∀ (answer : Nat → Option Cache.Result) (order : List Nat),
      order.Perm (List.range unit.declarations.length) →
      let report := UnitReport.collect unit (doc.completed unit.declarations answer order)
      (∀ i : Nat, report.outcomes[i]? =
        unit.declarations[i]?.map fun d => (d, doc.document d (answer i))) ∧
      report.Faithful unit doc.options.scan ∧
      ∀ (doc' : Documentor) answer' order', order'.Perm (List.range unit.declarations.length) →
        (∀ (i : Nat) d, unit.declarations[i]? = some d →
          doc'.document d (answer' i) = doc.document d (answer i) ∨
          (∃ e, doc.document d (answer i) = .error e) ∧
            d.shouldDocument doc'.options.scan = false) →
        (UnitReport.collect unit (doc'.completed unit.declarations answer' order')).text =
          report.text) ∧
    ∀ clock,
      (doc.schedule clock unit.declarations).endedJobs.Perm
        (List.range unit.declarations.length) ∧
      (doc.documentUnit clock unit).value = UnitReport.collect unit (doc.completed unit.declarations
        (doc.schedule clock unit.declarations).result?
        (doc.schedule clock unit.declarations).endedJobs) := by
  intro unit
  obtain ⟨tree, -, -, hregions⟩ := regions_parse hparser
  refine ⟨text_parse parser text, fun answer order horder => ⟨fun i => ?_, ?_, ?_⟩, fun clock => ?_⟩
  · rw [Documentor.outcomes_collect doc unit answer horder, List.getElem?_map,
      List.getElem?_zipIdx, Option.map_map, Nat.zero_add]
    rfl
  · exact (Documentor.reports_collect doc unit answer horder).faithful hregions
  · exact fun doc' answer' order' horder' h => Documentor.text_collect_congr horder horder' h
  · exact Documentor.value_documentUnit doc clock unit

/-- No field can be documented. -/
def fieldless : Documentor where
  templates := Registry.register {} .field fun _ => .error (.other "no words for a field")

theorem documentUnit_faithful_mixed :
    let text := "public class A \x7b\n\tint C;\n\tpublic int B;\n\x7d"
    let unit := SourceUnit.parse Parser.strict text
    let report := UnitReport.collect unit
      (fieldless.completed unit.declarations (fun _ => none) [2, 0, 1])
    List.Perm [2, 0, 1] (List.range unit.declarations.length) ∧
      (report.documented, report.skipped, report.failed) = (1, 1, 1) ∧
      report.Faithful unit {} ∧
      report.text.toList = ("/// <summary>\n/// The a.\n/// </summary>\n" ++ text).toList := by
  intro text unit report
  have hlength : unit.declarations.length = 3 := by decide +kernel
  have horder : List.Perm [2, 0, 1] (List.range unit.declarations.length) := by
    rw [hlength]
    decide
  have hreport : report = ⟨unit, unit.declarations.zipIdx.map fun p =>
      (p.1, fieldless.document p.1 none)⟩ :=
    congrArg (UnitReport.mk unit) (Documentor.outcomes_collect fieldless unit _ horder)
  refine ⟨horder, by rw [hreport]; decide +kernel, ?_, by rw [hreport]; decide +kernel⟩
  exact ((documentUnit_faithful fieldless Parser.strict text (isSoundOn_strict _)).2.1 (fun _ => none)
    [2, 0, 1] horder).2.1

end Gloss
