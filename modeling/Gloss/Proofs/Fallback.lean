import Gloss.Proofs.Apply
import Gloss.Proofs.Documented
import Gloss.Proofs.Generation
import Gloss.Proofs.Transparency

/-!
# Templates that stand in for a model

Where the template stands in when a model fails, nothing is seen of a failure. What
comes of a declaration is the comment of the model, if it gave one, and otherwise what
comes of it without a model (`Masks`), with the same error if the template fails too. So
if all generations for a unit fail, and the cache holds no block for it that could be put in,
the report is that of a documentor without a model. `fallback_masks` says so.

Two things can still be seen. A template may itself say that a generation has failed, and a
block that was cached earlier is put in though no generation would bring it now
(`fallback_seen`).
-/

namespace Gloss

/-- The built-in templates ask no model. -/
theorem Template.builtIn_ne_generation (d : Declaration) (failure : Generation.Failure) :
    builtIn d.kind d ≠ .error (.generation failure) := by
  intro h
  rw [builtIn_eq] at h
  split at h
  · cases h
  · cases h

namespace Documentor

variable {doc : Documentor} {d : Declaration} {ds : List Declaration} {answer : Cache.Result}

/-- The same documentor without its model. -/
def heuristic (doc : Documentor) : Documentor :=
  { doc with model := none }

/-- What the model gives for a declaration, if it is asked for it. -/
def modelComment? (doc : Documentor) (clock : Cache.Clock) (d : Declaration) :
    Option (Except DocError (Comment × Origin)) :=
  if d.shouldDocument doc.options.scan then
    (doc.route d).map fun r => (r.1.generateComment clock r.2 d.sourceText).value
  else none

/-- What comes of a declaration is the comment that a model gave, and if it gave none,
what comes of it without the model. -/
structure Masks (doc : Documentor) (d : Declaration)
    (given : Option (Except DocError (Comment × Origin))) (outcome : Outcome) : Prop where
  of_given : ∀ comment origin, given = some (.ok (comment, origin)) →
    outcome = .ok (some ⟨d.commented comment, origin⟩)
  otherwise : (∀ found, given ≠ some (.ok found)) →
    ∀ clock, outcome = (doc.heuristic.documentOne clock d).value
  /-- Only a template could say that a generation has failed. -/
  of_generation : ∀ failure, outcome = .error (.generation failure) →
    doc.templates.template d.kind d = .error (.generation failure)

/-! ## One declaration -/

theorem value_documentOne_heuristic (doc : Documentor) (clock : Cache.Clock) (d : Declaration) :
    (doc.heuristic.documentOne clock d).value = doc.document d none :=
  value_documentOne_of_no_model rfl clock d

theorem insertable_of_commentOfAnswer {comment : Comment} {origin : Origin}
    (h : commentOfAnswer answer = .ok (comment, origin)) :
    comment.validateInsertable = .ok () := by
  match answer with
  | .error failure => cases h
  | .ok (block, hit) =>
    have hblock := ((commentOfAnswer_eq_ok_iff block hit comment origin).1 h).1
    exact (commentOfBlock_eq_ok_iff.1 hblock).2

theorem document_of_comment (hshould : d.shouldDocument doc.options.scan = true)
    {comment : Comment} {origin : Origin} (h : commentOfAnswer answer = .ok (comment, origin)) :
    doc.document d (some answer) = .ok (some ⟨d.commented comment, origin⟩) := by
  have hsynthesize : doc.synthesize d (some answer) = .ok (comment, origin) := by
    rw [synthesize, Option.map_some, h]
  rw [document, if_pos hshould, hsynthesize]
  show (d.patch comment).map _ = _
  rw [patch_of_insertable (insertable_of_commentOfAnswer h)]
  rfl

theorem document_of_error (hfallback : doc.options.fallbackToHeuristic = true) {e : DocError}
    (h : commentOfAnswer answer = .error e) :
    doc.document d (some answer) = doc.document d none := by
  have hsynthesize : doc.synthesize d (some answer) = doc.synthesize d none := by
    rw [synthesize, Option.map_some, h]
    exact if_pos hfallback
  rw [document, hsynthesize]
  rfl

/-- Checking and putting in a comment fails as malformed, if at all. -/
theorem template_of_generation {failure : Generation.Failure}
    (h : doc.document d none = .error (.generation failure)) :
    doc.templates.template d.kind d = .error (.generation failure) := by
  unfold document at h
  split at h
  · split at h
    · rename_i e hsynthesize
      cases h
      have hbuild : doc.templates.build d = .error (.generation failure) := by
        cases hbuilt : doc.templates.build d with
        | ok comment =>
          rw [synthesize, Option.map_none, hbuilt] at hsynthesize
          cases hsynthesize
        | error e =>
          rw [synthesize, Option.map_none, hbuilt] at hsynthesize
          cases hsynthesize
          rfl
      unfold Registry.build at hbuild
      split at hbuild
      · rename_i e htemplate
        cases hbuild
        exact htemplate
      · split at hbuild <;> cases hbuild
    · rename_i comment origin hsynthesize
      unfold Declaration.patch at h
      split at h <;> cases h
  · cases h

/-- Whatever answer a declaration gets: it gets one only if it needs a comment. -/
theorem masks_document (hfallback : doc.options.fallbackToHeuristic = true)
    {answer : Option Cache.Result}
    (hasked : answer ≠ none → d.shouldDocument doc.options.scan = true) :
    doc.Masks d (answer.map commentOfAnswer) (doc.document d answer) := by
  have hcases : (∃ comment origin, answer.map commentOfAnswer = some (.ok (comment, origin)) ∧
        doc.document d answer = .ok (some ⟨d.commented comment, origin⟩)) ∨
      ((∀ found, answer.map commentOfAnswer ≠ some (.ok found)) ∧
        doc.document d answer = doc.document d none) := by
    cases answer with
    | none => exact .inr ⟨fun found h => by (cases h), rfl⟩
    | some result =>
      rw [Option.map_some]
      cases hcomment : commentOfAnswer result with
      | ok found =>
        exact .inl ⟨found.1, found.2, rfl, document_of_comment (hasked (by simp)) hcomment⟩
      | error e =>
        exact .inr ⟨fun found h => by (cases h), document_of_error hfallback hcomment⟩
  rcases hcases with ⟨comment, origin, hgiven, houtcome⟩ | ⟨hnone, houtcome⟩
  · rw [hgiven, houtcome]
    refine ⟨fun comment' origin' h => ?_, fun h => absurd rfl (h _), fun failure h => ?_⟩
    · cases h
      rfl
    · cases h
  · rw [houtcome]
    refine ⟨fun comment origin h => absurd h (hnone _), fun _ clock => ?_,
      fun failure => template_of_generation⟩
    exact (value_documentOne_heuristic doc clock d).symm

/-- Documenting a declaration on its own asks the model as one who only wants the
comment. -/
theorem map_result?_schedule (doc : Documentor) (clock : Cache.Clock) (d : Declaration) :
    ((doc.schedule clock [d]).result? 0).map commentOfAnswer = doc.modelComment? clock d := by
  have hrun : doc.schedule clock [d] =
      Cache.Schedule.run clock.cache clock.now 1 [doc.request d] :=
    Cache.Schedule.run_singleton _ _ _ _
  rw [hrun, modelComment?]
  cases hrequest : doc.request d with
  | none =>
    rw [Cache.Schedule.result?_run_of_no_request (by rintro (_ | i) <;> rfl), Option.map_none]
    rw [request] at hrequest
    split at hrequest
    · rw [if_pos ‹_›, Option.map_eq_none_iff.1 hrequest, Option.map_none]
    · rw [if_neg ‹_›]
  | some r =>
    rw [request] at hrequest
    split at hrequest
    · obtain ⟨⟨model, target⟩, hroute, rfl⟩ := Option.map_eq_some_iff.1 hrequest
      rw [if_pos ‹_›, hroute, Option.map_some]
      exact congrArg (Option.map commentOfAnswer)
        (Inquiry.result?_block model clock target d.sourceText)
    · cases hrequest

theorem masks_documentOne (hfallback : doc.options.fallbackToHeuristic = true)
    (clock : Cache.Clock) (d : Declaration) :
    doc.Masks d (doc.modelComment? clock d) (doc.documentOne clock d).value := by
  have hanswer := map_result?_schedule doc clock d
  rw [← hanswer]
  refine masks_document hfallback fun hasked => ?_
  by_contra hshould
  rw [modelComment?, if_neg hshould] at hanswer
  exact hasked (Option.map_eq_none_iff.1 hanswer)

/-! ## Units -/

theorem outcomesFrom_congr {doc' : Documentor} {answer answer' : Nat → Option Cache.Result}
    (h : ∀ j d, doc.document d (answer j) = doc'.document d (answer' j)) (i : Nat)
    (ds : List Declaration) : doc.outcomesFrom answer i ds = doc'.outcomesFrom answer' i ds := by
  induction ds generalizing i with
  | nil => rfl
  | cons d ds ih => rw [outcomesFrom, outcomesFrom, h, ih]

theorem value_documentUnit_heuristic (doc : Documentor) (clock : Cache.Clock) (unit : SourceUnit) :
    (doc.heuristic.documentUnit clock unit).value =
      ⟨unit, unit.declarations.zip (doc.outcomesFrom (fun _ => none) 0 unit.declarations)⟩ := by
  have hrequest : ∀ i : Nat, (unit.declarations.map doc.heuristic.request)[i]?.join = none := by
    intro i
    rw [List.getElem?_map]
    cases unit.declarations[i]? with
    | none => rfl
    | some d => simp [request, route, heuristic]
  have hnone : ∀ i, (doc.heuristic.schedule clock unit.declarations).result? i = none :=
    Cache.Schedule.result?_run_of_no_request hrequest _ _ _
  have houtcomes : doc.heuristic.outcomes (doc.heuristic.schedule clock unit.declarations)
      unit.declarations = doc.outcomesFrom (fun _ => none) 0 unit.declarations :=
    outcomesFrom_congr (fun j d => by rw [hnone]; rfl) 0 unit.declarations
  rw [documentUnit, houtcomes]

/-- If no caller has got a block that can be put in, the report is the one without a
model. -/
theorem reportOf_eq_heuristic (hfallback : doc.options.fallbackToHeuristic = true)
    (unit : SourceUnit) {calls : Cache.Calls}
    (hcalls : ∀ i block hit, calls.result? i = some (.ok (block, hit)) → ¬ Insertable block)
    (clock : Cache.Clock) :
    doc.reportOf unit calls = (doc.heuristic.documentUnit clock unit).value := by
  rw [value_documentUnit_heuristic, reportOf]
  congr 2
  refine outcomesFrom_congr (fun j d => ?_) 0 unit.declarations
  cases hresult : calls.result? j with
  | none => rfl
  | some result =>
    cases hcomment : commentOfAnswer result with
    | error e => exact document_of_error hfallback hcomment
    | ok found =>
      rcases result with failure | ⟨block, hit⟩
      · cases hcomment
      · have hblock := ((commentOfAnswer_eq_ok_iff block hit found.1 found.2).1 hcomment).1
        exact absurd ⟨found.1, commentOfBlock_eq_ok_iff.1 hblock⟩ (hcalls j block hit hresult)

/-- A key under which the block for one of some declarations is kept. -/
def IsKeyOf (doc : Documentor) (ds : List Declaration) (key : String) : Prop :=
  ∃ d ∈ ds, ∃ r, doc.request d = some r ∧ r.key = key

/-- No block that could be put in is kept for some declarations. -/
def IsBare (doc : Documentor) (ds : List Declaration) (cache : Cache) : Prop :=
  cache.AllValues fun key block => doc.IsKeyOf ds key → ¬ Insertable block

theorem not_insertable_of_result? {calls : Cache.Calls}
    (h : calls.Serves (doc.requests ds) fun key block => doc.IsKeyOf ds key → ¬ Insertable block)
    (i : Nat) (block : String) (hit : Bool) (hresult : calls.result? i = some (.ok (block, hit))) :
    ¬ Insertable block := by
  obtain ⟨r, hr, hblock⟩ := h.request_of_result? hresult
  obtain ⟨d, hd, hrequest⟩ := List.mem_filterMap.1 (mem_requests (List.Subset.refl ds) i r hr)
  exact hblock ⟨d, hd, r, hrequest, rfl⟩

theorem serves_of_failing {P : (key value : String) → Prop}
    (hfails : ∀ d ∈ ds, ∀ r, doc.request d = some r → ∃ failure, r.answer.outcome = .error failure)
    {clock : Cache.Clock} (hcache : clock.cache.AllValues P) :
    (doc.schedule clock ds).calls.Serves (doc.requests ds) P := by
  refine Cache.Calls.serves_of_reaches (fun i r hr value hvalue => ?_) hcache
    (doc.reaches_schedule clock ds)
  obtain ⟨d, hd, hrequest⟩ := List.mem_filterMap.1 (mem_requests (List.Subset.refl ds) i r hr)
  obtain ⟨failure, hfailure⟩ := hfails d hd r hrequest
  cases hvalue.symm.trans hfailure

end Documentor

open Documentor (commentOfAnswer) in
/-- Nothing is seen of failures of a model if the template stands in for it: neither for a
declaration, whatever answer it gets of the model or the cache, nor for a unit. If all
generations for a unit fail, whenever they end and in whatever way, and no block is kept for
it that could be put in, the report is the one without a model, and as little is kept for the
unit as before. -/
theorem fallback_masks (doc : Documentor) (hfallback : doc.options.fallbackToHeuristic = true) :
    (∀ d (answer : Option Cache.Result),
      (answer ≠ none → d.shouldDocument doc.options.scan = true) →
      doc.Masks d (answer.map commentOfAnswer) (doc.document d answer)) ∧
    (∀ clock d, doc.Masks d (doc.modelComment? clock d) (doc.documentOne clock d).value) ∧
    ∀ (unit : SourceUnit) (clock : Cache.Clock), doc.IsBare unit.declarations clock.cache →
      (∀ events : List Cache.Event,
        (∀ i, .start i ∈ events → (doc.requests unit.declarations)[i]?.join ≠ none) →
        (∀ i block, .finish i (.ok block) ∉ events) → ∀ clock',
        doc.reportOf unit ((doc.callers clock unit.declarations).run events) =
          (doc.heuristic.documentUnit clock' unit).value) ∧
      ((∀ d ∈ unit.declarations, ∀ r, doc.request d = some r →
          ∃ failure, r.answer.outcome = .error failure) → ∀ clock',
        (doc.documentUnit clock unit).value = (doc.heuristic.documentUnit clock' unit).value ∧
        doc.IsBare unit.declarations (doc.documentUnit clock unit).clock.cache) := by
  refine ⟨fun d answer hasked => Documentor.masks_document hfallback hasked,
    Documentor.masks_documentOne hfallback, fun unit clock hcache => ?_⟩
  refine ⟨fun events hstarts hevents clock' => ?_, fun hfails clock' => ?_⟩
  · have hcalls := Cache.Calls.serves_run hcache clock.now hstarts
      fun i _ block hmem => absurd hmem (hevents i block)
    exact Documentor.reportOf_eq_heuristic hfallback unit
      (Documentor.not_insertable_of_result? hcalls) clock'
  · have hcalls := Documentor.serves_of_failing hfails hcache
    exact ⟨Documentor.reportOf_eq_heuristic hfallback unit
      (Documentor.not_insertable_of_result? hcalls) clock', hcalls.held⟩

/-- A model whose replies hold no comment. -/
def evasive : Model where
  generator := { answer := fun _ _ => ⟨20, .ok "I would rather not say."⟩ }

theorem answer_evasive {doc : Documentor} (hmodel : doc.model = some evasive) {d : Declaration}
    {r : Cache.Request} (h : doc.request d = some r) :
    ∃ failure, r.answer.outcome = .error failure := by
  obtain ⟨model, target, hmodel', -, rfl⟩ := Documentor.request_cases h
  obtain rfl := Option.some.inj (hmodel.symm.trans hmodel')
  have hrefused : Generation.accept "I would rather not say." =
      .error (.invalidReply "no /// comment block found" "I would rather not say.") := by
    decide +kernel
  exact ⟨_, hrefused⟩

theorem fallback_masks_evasive :
    let doc : Documentor := { options := { fallbackToHeuristic := true }, model := some evasive }
    let unit := SourceUnit.read "public class A \x7b public int B; public int Run() => B; \x7d"
    -- A block is kept, but not for the unit.
    let cache := Cache.insert {} 0 (Generation.cacheKey "public int Run() => 0;")
      "/// <summary>\n/// Runs it.\n/// </summary>"
    doc.options.fallbackToHeuristic = true ∧ doc.IsBare unit.declarations cache ∧
      unit.declarations.map (fun d => (doc.request d).isSome) = [true, false, true] ∧
      (doc.documentUnit ⟨0, cache⟩ unit).value =
        (doc.heuristic.documentUnit ⟨0, cache⟩ unit).value ∧
      ∀ d ∈ unit.declarations, ∀ failure,
        (doc.documentOne ⟨0, cache⟩ d).value ≠ .error (.generation failure) := by
  intro doc unit cache
  have hfallback : doc.options.fallbackToHeuristic = true := rfl
  have hkeys : (unit.declarations.all fun d => (doc.request d).all fun r =>
      r.key != Generation.cacheKey "public int Run() => 0;") = true := by decide +kernel
  have hcache : doc.IsBare unit.declarations cache := by
    rintro p hp ⟨d, hd, r, hr, hkey⟩
    obtain rfl := List.mem_singleton.1 hp
    have hne := List.all_eq_true.1 hkeys d hd
    simp [hr, hkey] at hne
  obtain ⟨-, hone, hunit⟩ := fallback_masks doc hfallback
  refine ⟨hfallback, hcache, by decide +kernel, ?_, fun d _ failure h => ?_⟩
  · exact ((hunit unit ⟨0, cache⟩ hcache).2 (fun d _ r hr => answer_evasive rfl hr) ⟨0, cache⟩).1
  · exact Template.builtIn_ne_generation d failure ((hone ⟨0, cache⟩ d).of_generation failure h)

/-- What can be seen of a model though the template stands in for it: a template that says
that a generation has failed, and a block that is kept for a declaration while all
generations fail. -/
theorem fallback_seen :
    let options : DocumentorOptions := { fallbackToHeuristic := true }
    let unit := SourceUnit.read "public class A \x7b public int Run() => 0; \x7d"
    (let doc : Documentor :=
        { options, model := some evasive,
          templates := Registry.register {} .method fun _ => .error (.generation .emptyReply) }
      ∃ d ∈ unit.declarations,
        (doc.documentOne ⟨0, {}⟩ d).value = .error (.generation .emptyReply)) ∧
    (let doc : Documentor := { options, model := some evasive }
      let block := "/// <summary>\n/// Runs it.\n/// </summary>"
      let cache := Cache.insert {} 0 (Generation.cacheKey "public int Run() => 0;") block
      (∀ d ∈ unit.declarations, ∀ r, doc.request d = some r →
        ∃ failure, r.answer.outcome = .error failure) ∧
      (doc.documentUnit ⟨0, cache⟩ unit).value ≠
        (doc.heuristic.documentUnit ⟨0, cache⟩ unit).value) := by
  intro options unit
  refine ⟨?_, fun d _ r hr => answer_evasive rfl hr, fun heq => ?_⟩
  · intro doc
    have hany : (unit.declarations.any fun d => decide
        ((doc.documentOne ⟨0, {}⟩ d).value.map (fun _ => ()) = .error (.generation .emptyReply))) =
        true := by decide +kernel
    obtain ⟨d, hd, hvalue⟩ := List.any_eq_true.1 hany
    exact ⟨d, hd, error_of_map (of_decide_eq_true hvalue)⟩
  · have hcomments := congrArg (fun report => report.patches.map Patched.comment) heq
    revert hcomments
    decide +kernel

end Gloss
