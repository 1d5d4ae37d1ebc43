import Gloss.Documentor
import Gloss.Proofs.Cache.Values

/-!
# What a cache and a schedule change

A cache that only holds answers of the model (`Holds`) gives each caller the answer
that the model would give it, in whatever order callers and their generations come
(`Faithful`). So documenting a unit brings the same with such a cache, at any
concurrency, as without a cache and one declaration at a time, up to whether an
answer is said to come from the model or from the cache (`UnitReport.Agrees`).
`documentUnit_transparent` says so.
-/

namespace Gloss

namespace Cache

variable {cache : Cache} {requests : List Request} {jobs : List (Option Request)} {i : Nat}

/-! ## Callers get the answers of the model -/

/-- Requests of one key have the same answer. -/
def Consistent (requests : List Request) : Prop :=
  ∀ r ∈ requests, ∀ r' ∈ requests, r.key = r'.key → r.answer.outcome = r'.answer.outcome

/-- A cache that holds nothing but answers to the requests. -/
def Holds (cache : Cache) (requests : List Request) : Prop :=
  ∀ r ∈ requests, ∀ entry, cache.find? r.key = some entry → r.answer.outcome = .ok entry.value

theorem holds_of_empty (h : cache.entries = []) : cache.Holds requests := fun r _ entry hfind => by
  simp [find?, h] at hfind

theorem Holds.put {key : String} {entry : Entry} (h : cache.Holds requests)
    (hentry : ∀ r ∈ requests, r.key = key → r.answer.outcome = .ok entry.value) :
    (cache.put key entry).Holds requests := fun r hr e hfind => by
  by_cases hkey : r.key = key
  · rw [hkey, find?_put_self] at hfind
    cases hfind
    exact hentry r hr hkey
  · rw [find?_put_of_ne cache entry hkey] at hfind
    exact h r hr e hfind

theorem Holds.erase (h : cache.Holds requests) (key : String) : (cache.erase key).Holds requests :=
  fun r hr e hfind => by
    by_cases hkey : r.key = key
    · rw [hkey, find?_erase_self] at hfind
      cases hfind
    · rw [find?_erase_of_ne cache hkey] at hfind
      exact h r hr e hfind

namespace Calls

variable {s t : Calls} {event : Event}

/-- Callers that get what the model answers. -/
structure Faithful (requests : List Request) (jobs : List (Option Request)) (s : Calls) : Prop where
  keyed : ∀ i r, jobs[i]?.join = some r → s.key i = r.key
  holds : s.cache.Holds requests
  quiet : Quiet jobs s
  finished : ∀ i r result, jobs[i]?.join = some r → s.phase i = .finished result →
    result.map Prod.fst = r.answer.outcome

theorem Faithful.step (hconsistent : Consistent requests)
    (hjobs : ∀ (i : Nat) r, jobs[i]?.join = some r → r ∈ requests) (hs : Faithful requests jobs s)
    (h : Step s event t) (hfollows : event.Follows jobs) : Faithful requests jobs t where
  keyed i r hr := (h.key_eq i).trans (hs.keyed i r hr)
  holds := by
    rcases h.cache_cases with heq | ⟨i, entry, hfind, heq⟩ | ⟨i, -, heq⟩ |
      ⟨i, lock, value, hevent, hphase, heq⟩
    · exact heq ▸ hs.holds
    · rw [heq]
      refine hs.holds.put fun r hr hkey => ?_
      exact hs.holds r hr entry (hkey ▸ hfind)
    · exact heq ▸ hs.holds.erase _
    · obtain ⟨r', hr'⟩ := hs.quiet.request_of_isClaimed (i := i) (by simp [hphase, Phase.isClaimed])
      rw [hevent] at hfollows
      rw [heq, insert]
      split
      · refine hs.holds.put fun r hr hkey => ?_
        rw [hs.keyed i r' hr'] at hkey
        exact (hconsistent r hr r' (hjobs i r' hr') hkey).trans (hfollows r' hr').symm
      · exact hs.holds
  quiet := hs.quiet.step h fun i heq => by
    subst heq
    exact hfollows
  finished i r result hr ht := by
    by_cases hbefore : s.phase i = .finished result
    · exact hs.finished i r result hr hbefore
    rcases h.finished_cases ht hbefore with ⟨entry, hfind, -, rfl⟩ | ⟨lock, outcome, rfl, -, rfl, -⟩
    · rw [hs.keyed i r hr] at hfind
      exact (hs.holds r (hjobs i r hr) entry hfind).symm
    · rw [← hfollows r hr]
      cases outcome <;> rfl

theorem faithful_initial (hcache : cache.Holds requests) (now : Nat) :
    Faithful requests jobs (Schedule.initial cache now jobs).calls where
  keyed i r hr := by
    obtain ⟨job, hjob, rfl⟩ : ∃ job, jobs[i]? = some job ∧ job = some r :=
      ⟨some r, Option.join_eq_some_iff.1 hr, rfl⟩
    simp [Schedule.initial, ofKeys, key, hjob]
  holds := hcache
  quiet := quiet_initial cache now
  finished i r result _ hphase := by
    rcases phase_ofKeys cache now (jobs.map fun job => (job.map Request.key).getD "") i with h | h <;>
      cases h.symm.trans hphase

/-- Whatever happens, callers get what the model answers, if what the cache holds was
answered by it. -/
theorem faithful_of_reaches (hconsistent : Consistent requests)
    (hjobs : ∀ (i : Nat) r, jobs[i]?.join = some r → r ∈ requests) (hcache : cache.Holds requests)
    {now : Nat} (h : Reaches jobs (Schedule.initial cache now jobs).calls s) :
    Faithful requests jobs s := by
  obtain ⟨events, hevents, rfl⟩ := h
  refine ((regular_ofKeys _ _ _).run_induction (motive := Faithful requests jobs)
    (faithful_initial hcache now) events fun event hevent _ hstep hs => ?_).2
  exact hs.step hconsistent hjobs hstep (hevents event hevent)

/-- Whether all who have a request have got a result. -/
def Complete (jobs : List (Option Request)) (s : Calls) : Prop :=
  ∀ i, jobs[i]?.join ≠ none → ∃ result, s.phase i = .finished result

theorem Faithful.result?_eq (hs : Faithful requests jobs s) (hcomplete : s.Complete jobs) (i : Nat) :
    (s.result? i).map (·.map Prod.fst) = jobs[i]?.join.map (·.answer.outcome) := by
  cases hjob : jobs[i]?.join with
  | none =>
    rcases hs.quiet i hjob with h | h <;> simp [result?, h]
  | some r =>
    obtain ⟨result, hresult⟩ := hcomplete i (by simp [hjob])
    simp [result?, hresult, hs.finished i r result hjob hresult]

end Calls

end Cache

open Cache (Consistent)
open Cache.Calls (Reaches Complete Faithful)

/-! ## Reports that differ in origins only -/

/-- The origin of a comment, with no difference between the model and the cache. -/
def Origin.merged : Origin → Origin
  | cache => llm
  | origin => origin

/-- An outcome, with no difference between the model and the cache. -/
def mergeOrigins (outcome : Outcome) : Outcome :=
  outcome.map (Option.map fun done => { done with origin := done.origin.merged })

/-- Reports that say the same but for whether a comment came from the model or from
the cache. -/
structure UnitReport.Agrees (r r' : UnitReport) : Prop where
  text_eq : r.text = r'.text
  documented_eq : r.documented = r'.documented
  skipped_eq : r.skipped = r'.skipped
  failed_eq : r.failed = r'.failed
  outcomes_eq : r.outcomes.map (Prod.map id mergeOrigins) = r'.outcomes.map (Prod.map id mergeOrigins)

namespace UnitReport

variable {r r' : UnitReport}

theorem patches_eq (r : UnitReport) :
    r.patches = (UnitReport.mk r.unit (r.outcomes.map (Prod.map id mergeOrigins))).patches := by
  rw [patches, patches, List.filterMap_map]
  refine List.filterMap_congr fun (d, outcome) _ => ?_
  rcases outcome with e | _ | done <;> rfl

theorem skipped_eq (r : UnitReport) :
    r.skipped = (UnitReport.mk r.unit (r.outcomes.map (Prod.map id mergeOrigins))).skipped := by
  rw [skipped, skipped, List.countP_map]
  refine List.countP_congr fun (d, outcome) _ => ?_
  rcases outcome with e | _ | done <;> rfl

theorem failures_eq (r : UnitReport) :
    r.failures = (UnitReport.mk r.unit (r.outcomes.map (Prod.map id mergeOrigins))).failures := by
  rw [failures, failures, List.filterMap_map]
  refine List.filterMap_congr fun (d, outcome) _ => ?_
  rcases outcome with e | _ | done <;> rfl

/-- What is read off a report does not depend on origins. -/
theorem agrees_of_outcomes (hunit : r.unit = r'.unit)
    (h : r.outcomes.map (Prod.map id mergeOrigins) = r'.outcomes.map (Prod.map id mergeOrigins)) :
    r.Agrees r' := by
  have hpatches : r.patches = r'.patches := by rw [patches_eq, patches_eq r', hunit, h]
  refine ⟨?_, ?_, ?_, ?_, h⟩
  · rw [text, text, hunit, hpatches]
  · rw [documented, documented, hpatches]
  · rw [skipped_eq, skipped_eq r', hunit, h]
  · rw [failed, failed, failures_eq, failures_eq r', hunit, h]

end UnitReport

namespace Documentor

variable {doc : Documentor} {d d' : Declaration} {ds : List Declaration}

theorem merged_ite (hit : Bool) : (if hit then Origin.cache else .llm).merged = .llm := by
  cases hit <;> rfl

theorem merged_commentOfAnswer {answer answer' : Cache.Result}
    (h : answer.map Prod.fst = answer'.map Prod.fst) :
    (commentOfAnswer answer).map (Prod.map id Origin.merged) =
      (commentOfAnswer answer').map (Prod.map id Origin.merged) := by
  match answer, answer' with
  | .error _, .error _ =>
    cases h
    rfl
  | .ok (block, hit), .ok (block', hit') =>
    obtain rfl : block = block' := by
      simpa [Except.map] using h
    simp only [commentOfAnswer]
    cases commentOfBlock block with
    | error e => rfl
    | ok comment => simp [Except.map, merged_ite]

theorem merged_synthesize (doc : Documentor) (d : Declaration) {answer answer' : Option Cache.Result}
    (h : answer.map (·.map Prod.fst) = answer'.map (·.map Prod.fst)) :
    (doc.synthesize d answer).map (Prod.map id Origin.merged) =
      (doc.synthesize d answer').map (Prod.map id Origin.merged) := by
  match answer, answer' with
  | none, none => rfl
  | some answer, some answer' =>
    have hanswer : (commentOfAnswer answer).map (Prod.map id Origin.merged) =
        (commentOfAnswer answer').map (Prod.map id Origin.merged) :=
      merged_commentOfAnswer (by simpa using h)
    simp only [synthesize, Option.map_some]
    match hc : commentOfAnswer answer, hc' : commentOfAnswer answer' with
    | .ok found, .ok found' => simpa [hc, hc'] using hanswer
    | .error e, .error e' =>
      obtain rfl : e = e' := by simpa [hc, hc', Except.map] using hanswer
      rfl
    | .ok found, .error e => simp [hc, hc', Except.map] at hanswer
    | .error e, .ok found => simp [hc, hc', Except.map] at hanswer

/-- What comes of a declaration depends on the answer of the model, but not on whether
it was in the cache. -/
theorem mergeOrigins_document {answer answer' : Option Cache.Result}
    (h : answer.map (·.map Prod.fst) = answer'.map (·.map Prod.fst)) :
    mergeOrigins (doc.document d answer) = mergeOrigins (doc.document d answer') := by
  have hcomment := merged_synthesize doc d h
  simp only [document]
  split
  · match hs : doc.synthesize d answer, hs' : doc.synthesize d answer' with
    | .ok (comment, origin), .ok (comment', origin') =>
      obtain ⟨rfl, horigin⟩ : comment = comment' ∧ origin.merged = origin'.merged := by
        simpa [hs, hs', Except.map] using hcomment
      show mergeOrigins ((d.patch comment).map _) = mergeOrigins ((d.patch comment).map _)
      cases d.patch comment with
      | error e => rfl
      | ok patched => simp [mergeOrigins, Except.map, horigin]
    | .error e, .error e' =>
      obtain rfl : e = e' := by simpa [hs, hs', Except.map] using hcomment
      rfl
    | .ok found, .error e => simp [hs, hs', Except.map] at hcomment
    | .error e, .ok found => simp [hs, hs', Except.map] at hcomment
  · rfl

/-- What comes of declarations that get the same answers. -/
theorem mergeOrigins_outcomesFrom {answer answer' : Nat → Option Cache.Result} {i : Nat}
    (h : ∀ j, (answer j).map (·.map Prod.fst) = (answer' j).map (·.map Prod.fst)) :
    (doc.outcomesFrom answer i ds).map mergeOrigins =
      (doc.outcomesFrom answer' i ds).map mergeOrigins := by
  induction ds generalizing i with
  | nil => rfl
  | cons d ds ih =>
    rw [outcomesFrom, outcomesFrom, List.map_cons, List.map_cons, ih,
      mergeOrigins_document (h i)]

/-! ## Units -/

/-- The requests for the declarations of a unit, by place. -/
def requests (doc : Documentor) (ds : List Declaration) : List (Option Cache.Request) :=
  ds.map doc.request

/-- The callers for some declarations before they call. -/
def callers (doc : Documentor) (clock : Cache.Clock) (ds : List Declaration) : Cache.Calls :=
  (Cache.Schedule.initial clock.cache clock.now (doc.requests ds)).calls

/-- The report on a unit whose callers have got their results. -/
def reportOf (doc : Documentor) (unit : SourceUnit) (calls : Cache.Calls) : UnitReport :=
  ⟨unit, unit.declarations.zip (doc.outcomesFrom calls.result? 0 unit.declarations)⟩

/-- A cache that was empty at first and has only been used for some declarations, with
any events in between. -/
inductive Filled (doc : Documentor) (world : List Declaration) : Cache → Prop where
  | empty {cache : Cache} (h : cache.entries = []) : Filled doc world cache
  | work {clock : Cache.Clock} {ds : List Declaration} {calls : Cache.Calls}
      (h : Filled doc world clock.cache) (hds : ds ⊆ world)
      (hcalls : Reaches (doc.requests ds) (doc.callers clock ds) calls) :
      Filled doc world calls.cache

/-- The same work, one declaration at a time. -/
def sequential (doc : Documentor) : Documentor :=
  { doc with options := { doc.options with concurrency := 1 } }

/-- One key is the key of one text, and one text that of one kind. -/
structure Distinct (world : List Declaration) : Prop where
  text_eq : ∀ d ∈ world, ∀ d' ∈ world,
    Generation.cacheKey d.sourceText = Generation.cacheKey d'.sourceText →
      d.sourceText = d'.sourceText
  kind_eq : ∀ d ∈ world, ∀ d' ∈ world, d.sourceText = d'.sourceText → d.kind = d'.kind

variable {world : List Declaration}

/-- A request asks for the comment of a text and a kind. -/
theorem request_cases {r : Cache.Request} (h : doc.request d = some r) :
    ∃ model target, doc.model = some model ∧ Generation.Target.ofKind d.kind = some target ∧
      r = ⟨Generation.cacheKey d.sourceText,
        Generation.request model.generator model.timeout target d.sourceText⟩ := by
  rw [request] at h
  split at h
  · obtain ⟨⟨model, target⟩, hroute, rfl⟩ := Option.map_eq_some_iff.1 h
    obtain ⟨_, hm, hroute⟩ := Option.bind_eq_some_iff.1 hroute
    split at hroute
    · obtain ⟨_, hk, heq⟩ := Option.map_eq_some_iff.1 hroute
      cases heq
      exact ⟨model, target, hm, hk, rfl⟩
    · cases hroute
  · cases h

theorem consistent_requests (h : Distinct world) : Consistent (world.filterMap doc.request) := by
  intro r hr r' hr' hkey
  obtain ⟨d, hd, hrequest⟩ := List.mem_filterMap.1 hr
  obtain ⟨d', hd', hrequest'⟩ := List.mem_filterMap.1 hr'
  obtain ⟨model, target, hmodel, htarget, rfl⟩ := request_cases hrequest
  obtain ⟨model', target', hmodel', htarget', rfl⟩ := request_cases hrequest'
  have htext := h.text_eq d hd d' hd' hkey
  rw [h.kind_eq d hd d' hd' htext, htarget'] at htarget
  rw [hmodel'] at hmodel
  cases htarget
  cases hmodel
  rw [htext]

theorem mem_requests (hds : ds ⊆ world) (i : Nat) (r : Cache.Request)
    (h : (doc.requests ds)[i]?.join = some r) : r ∈ world.filterMap doc.request := by
  rw [requests, List.getElem?_map] at h
  obtain ⟨d, hd, hr⟩ := Option.map_eq_some_iff.1 (Option.join_eq_some_iff.1 h)
  exact List.mem_filterMap.2 ⟨d, hds (List.mem_of_getElem? hd), hr⟩

theorem Filled.holds (hdistinct : Distinct world) {cache : Cache} (h : doc.Filled world cache) :
    cache.Holds (world.filterMap doc.request) := by
  induction h with
  | empty h => exact Cache.holds_of_empty h
  | work _ hds hcalls ih =>
    exact (Cache.Calls.faithful_of_reaches (consistent_requests hdistinct) (mem_requests hds) ih
      hcalls).holds

/-- Reports on callers that have got the same answers. -/
theorem agrees_reportOf {unit : SourceUnit} {calls calls' : Cache.Calls}
    (h : ∀ i, (calls.result? i).map (·.map Prod.fst) = (calls'.result? i).map (·.map Prod.fst)) :
    (doc.reportOf unit calls).Agrees (doc.reportOf unit calls') := by
  refine UnitReport.agrees_of_outcomes rfl ?_
  simp only [reportOf, ← List.zip_map_right]
  rw [mergeOrigins_outcomesFrom h]

/-- In any order of events in which all requests are answered, callers get the answers
of the model. -/
theorem result?_of_filled (doc : Documentor) (hdistinct : Distinct world) (hds : ds ⊆ world) {clock : Cache.Clock}
    (hcache : doc.Filled world clock.cache) {calls : Cache.Calls}
    (hcalls : Reaches (doc.requests ds) (doc.callers clock ds) calls)
    (hcomplete : calls.Complete (doc.requests ds)) (i : Nat) :
    (calls.result? i).map (·.map Prod.fst) =
      (doc.requests ds)[i]?.join.map (·.answer.outcome) :=
  (Cache.Calls.faithful_of_reaches (consistent_requests hdistinct) (mem_requests hds)
    (hcache.holds hdistinct) hcalls).result?_eq hcomplete i

theorem reaches_schedule (doc : Documentor) (clock : Cache.Clock) (ds : List Declaration) :
    Reaches (doc.requests ds) (doc.callers clock ds) (doc.schedule clock ds).calls :=
  Cache.Schedule.reaches_run _ _ _ _

theorem complete_schedule (doc : Documentor) (clock : Cache.Clock) (ds : List Declaration) :
    (doc.schedule clock ds).calls.Complete (doc.requests ds) :=
  fun _ hi => Cache.Schedule.finished_run _ _ _ hi

theorem outcomesFrom_sequential (doc : Documentor) (answer : Nat → Option Cache.Result) (i : Nat)
    (ds : List Declaration) :
    doc.sequential.outcomesFrom answer i ds = doc.outcomesFrom answer i ds := by
  induction ds generalizing i with
  | nil => rfl
  | cons d ds ih =>
    rw [outcomesFrom, outcomesFrom, ih]
    rfl

/-- What declarations come to does not depend on how many are worked on at a time, but
for the answers they get. -/
theorem value_documentUnit_sequential (doc : Documentor) (clock : Cache.Clock) (unit : SourceUnit) :
    (doc.sequential.documentUnit clock unit).value =
      doc.reportOf unit (doc.sequential.schedule clock unit.declarations).calls := by
  show doc.sequential.reportOf unit (doc.sequential.schedule clock unit.declarations).calls = _
  rw [reportOf, reportOf, outcomesFrom_sequential]

end Documentor

open Documentor in
/-- Documenting a unit brings the same with a cache, which holds nothing but what
documenting has put there, as without one and one declaration at a time: at any
concurrency and in any order of events in which all requests are answered. -/
theorem documentUnit_transparent (doc : Documentor) {world : List Declaration}
    (hdistinct : Distinct world) {unit : SourceUnit} (hunit : unit.declarations ⊆ world)
    (clock : Cache.Clock) (hcache : doc.Filled world clock.cache) (now : Nat) :
    (doc.documentUnit clock unit).value.Agrees
      (doc.sequential.documentUnit ⟨now, .disabled⟩ unit).value ∧
    ∀ calls, Reaches (doc.requests unit.declarations) (doc.callers clock unit.declarations) calls →
      calls.Complete (doc.requests unit.declarations) →
      (doc.reportOf unit calls).Agrees
        (doc.sequential.documentUnit ⟨now, .disabled⟩ unit).value := by
  let plain : Cache.Clock := ⟨now, .disabled⟩
  have hplain := result?_of_filled doc.sequential hdistinct hunit (.empty rfl)
    (reaches_schedule _ plain unit.declarations) (complete_schedule _ plain unit.declarations)
  have hall : ∀ calls, Reaches (doc.requests unit.declarations)
      (doc.callers clock unit.declarations) calls → calls.Complete (doc.requests unit.declarations) →
      (doc.reportOf unit calls).Agrees (doc.sequential.documentUnit plain unit).value := by
    intro calls hcalls hcomplete
    rw [value_documentUnit_sequential]
    exact agrees_reportOf fun i =>
      (result?_of_filled doc hdistinct hunit hcache hcalls hcomplete i).trans (hplain i).symm
  exact ⟨hall _ (reaches_schedule doc clock _) (complete_schedule doc clock _), hall⟩

/-- A unit in which two of three declarations have the same text. -/
def twins : SourceUnit where
  text := "public class A;\npublic class A;\npublic class B;\n"
  declarations :=
    [{ kind := .classType, name := "A", sourceText := "public class A;", span := ⟨0, 0, 15⟩ },
      { kind := .classType, name := "A", sourceText := "public class A;",
        leadingTrivia := [.endOfLine "\n"], span := ⟨15, 16, 31⟩ },
      { kind := .classType, name := "B", sourceText := "public class B;",
        leadingTrivia := [.endOfLine "\n"], span := ⟨31, 32, 47⟩ }]

/-- Asks a model that knows one of the two classes of `twins`. -/
def scripted : Documentor where
  model := some ⟨.ofScript
    [("class A", ⟨20, .ok "/// <summary>\n/// One.\n/// </summary>"⟩)], 60000⟩

theorem distinct_twins : Documentor.Distinct twins.declarations := by
  have htext : ∀ d ∈ twins.declarations, d.kind = .classType ∧
      (d.sourceText = "public class A;" ∨ d.sourceText = "public class B;") := by simp [twins]
  have hkey : Generation.cacheKey "public class A;" ≠ Generation.cacheKey "public class B;" := by
    decide +kernel
  refine ⟨fun d hd d' hd' h => ?_, fun d hd d' hd' _ => (htext d hd).1.trans (htext d' hd').1.symm⟩
  rcases (htext d hd).2 with h1 | h1 <;> rcases (htext d' hd').2 with h2 | h2 <;> rw [h1, h2] at h ⊢
  · exact absurd h hkey
  · exact absurd h.symm hkey

theorem documentUnit_transparent_twins :
    Documentor.Distinct twins.declarations ∧
    (scripted.documentUnit ⟨0, {}⟩ twins).value.Agrees
      (scripted.sequential.documentUnit ⟨0, .disabled⟩ twins).value :=
  ⟨distinct_twins,
    (documentUnit_transparent scripted distinct_twins (List.Subset.refl _) ⟨0, {}⟩
      (.empty rfl) 0).1⟩

end Gloss
