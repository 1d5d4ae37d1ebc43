import Gloss.Proofs.Cache.Progress

/-!
# The values that callers get

A caller gets what was in the cache under its key or what its own generation brings, and
the cache holds nothing else. So what holds of the keys and values in a cache and of all that
generations bring holds of the cache and of what callers get after any events in which only
those call who have a request (`serves_run`, and `serves_of_reaches` for generations that
bring the answers to the requests).
-/

namespace Gloss.Cache

variable {P : (key value : String) → Prop} {cache : Cache} {key : String} {entry : Entry}

/-! ## The values in a cache -/

/-- All values in a cache have a property that may depend on their keys. -/
def AllValues (P : (key value : String) → Prop) (cache : Cache) : Prop :=
  ∀ p ∈ cache.entries, P p.1 p.2.value

theorem allValues_of_empty (h : cache.entries = []) : cache.AllValues P := fun p hp => by
  rw [h] at hp
  cases hp

theorem AllValues.erase (h : cache.AllValues P) (key : String) : (cache.erase key).AllValues P :=
  fun p hp => h p (List.mem_of_mem_filter hp)

theorem AllValues.purge (h : cache.AllValues P) (now : Nat) : (cache.purge now).AllValues P :=
  fun p hp => h p (List.mem_of_mem_filter hp)

theorem AllValues.put (h : cache.AllValues P) (hentry : P key entry.value) :
    (cache.put key entry).AllValues P := fun p hp => by
  rcases List.mem_cons.1 hp with rfl | hp
  · exact hentry
  · exact h.erase key p hp

theorem AllValues.insert (h : cache.AllValues P) {value : String} (hvalue : P key value) (now : Nat) :
    (cache.insert now key value).AllValues P := by
  rw [Cache.insert]
  split
  · exact h.put hvalue
  · exact h

theorem AllValues.of_find? (h : cache.AllValues P) (hfind : cache.find? key = some entry) :
    P key entry.value := by
  obtain ⟨before, after, hentries, -⟩ := List.lookup_eq_some_iff.1 hfind
  exact h (key, entry) (by simp [hentries])

namespace Calls

variable {s t : Calls} {event : Event} {jobs : List (Option Request)} {i : Nat}

/-! ## Who calls -/

/-- Who has no request does not call. -/
def Quiet (jobs : List (Option Request)) (s : Calls) : Prop :=
  ∀ i, jobs[i]?.join = none → s.phase i = .idle ∨ s.phase i = .dropped

/-- Who moves calls, or has claimed a slot before. -/
theorem Step.start_or_isClaimed (h : Step s event t) (hi : event.caller? = some i) :
    event = .start i ∨ (s.phase i).isClaimed = true := by
  cases h with
  | hit | claim | join | bypass =>
    cases hi
    exact .inl rfl
  | late hphase | generate hphase | store hphase | fail hphase | leaveLine hphase
    | leaveBypass hphase =>
    cases hi
    right
    rw [hphase]
    rfl
  | leaveLock hholds =>
    cases hi
    exact .inr (Phase.isClaimed_of_lock? (Phase.lock?_of_holds hholds))
  | pass => cases hi

theorem Quiet.request_of_isClaimed (hs : Quiet jobs s) (hi : (s.phase i).isClaimed = true) :
    ∃ r, jobs[i]?.join = some r := by
  refine Option.ne_none_iff_exists'.1 fun hnone => ?_
  rcases hs i hnone with h | h <;> simp [h, Phase.isClaimed] at hi

theorem Quiet.step (hs : Quiet jobs s) (h : Step s event t)
    (hcalls : ∀ i, event = .start i → jobs[i]?.join ≠ none) : Quiet jobs t := by
  intro i hnone
  have hidle := hs i hnone
  have hcaller : event.caller? ≠ some i := fun hi => by
    rcases h.start_or_isClaimed hi with rfl | hclaimed
    · exact hcalls i rfl hnone
    · rcases hidle with h | h <;> simp [h, Phase.isClaimed] at hclaimed
  rcases h.phase_of_ne hcaller with heq | ⟨lock, hqueued, -⟩
  · rwa [heq]
  · rcases hidle with h | h <;> simp [h] at hqueued

theorem quiet_initial (cache : Cache) (now : Nat) :
    Quiet jobs (Schedule.initial cache now jobs).calls :=
  fun i _ => phase_ofKeys _ _ _ i

/-! ## What callers get -/

/-- What a caller has got. -/
def result? (s : Calls) (i : Nat) : Option Result :=
  match s.phase i with
  | .finished result => some result
  | _ => none

theorem result?_eq_some_iff {result : Result} :
    s.result? i = some result ↔ s.phase i = .finished result := by
  unfold result?
  split <;> simp_all

/-- All values that callers find or get have a property. -/
structure Bears (P : (key value : String) → Prop) (s : Calls) : Prop where
  held : s.cache.AllValues P
  got : ∀ i value hit, s.result? i = some (.ok (value, hit)) → P (s.key i) value

theorem Bears.step (hs : Bears P s) (h : Step s event t)
    (hbrings : ∀ i lock value, event = .finish i (.ok value) → s.phase i = .generating lock →
      P (s.key i) value) : Bears P t := by
  refine ⟨?_, fun i value hit ht => ?_⟩
  · rcases h.cache_cases with heq | ⟨i, entry, hfind, heq⟩ | ⟨i, -, heq⟩ |
      ⟨i, lock, value, hevent, hphase, heq⟩
    · exact heq ▸ hs.held
    · have hvalue : P (s.key i) entry.value := hs.held.of_find? hfind
      exact heq ▸ hs.held.put hvalue
    · exact heq ▸ hs.held.erase _
    · exact heq ▸ hs.held.insert (hbrings i lock value hevent hphase) _
  · rw [result?_eq_some_iff] at ht
    rw [h.key_eq]
    by_cases hbefore : s.phase i = .finished (.ok (value, hit))
    · exact hs.got i value hit (result?_eq_some_iff.2 hbefore)
    rcases h.finished_cases ht hbefore with ⟨entry, hfind, -, heq⟩ |
      ⟨lock, outcome, hevent, hphase, heq, -⟩
    · cases heq
      exact hs.held.of_find? hfind
    · cases outcome with
      | error failure => cases heq
      | ok brought =>
        cases heq
        exact hbrings i lock value hevent hphase

theorem bears_ofKeys (hcache : cache.AllValues P) (now : Nat) (keys : List String) :
    Bears P (ofKeys cache now keys) := by
  refine ⟨hcache, fun i value hit hresult => ?_⟩
  have hphase := result?_eq_some_iff.1 hresult
  rcases phase_ofKeys cache now keys i with h | h <;> cases h.symm.trans hphase

/-- Callers with requests, and values that have a property. -/
structure Serves (jobs : List (Option Request)) (P : (key value : String) → Prop) (s : Calls) :
    Prop extends Bears P s where
  quiet : Quiet jobs s
  key_eq : ∀ i r, jobs[i]?.join = some r → s.key i = r.key

theorem Serves.step (hs : Serves jobs P s) (h : Step s event t)
    (hcalls : ∀ i, event = .start i → jobs[i]?.join ≠ none)
    (hbrings : ∀ i r value, event = .finish i (.ok value) → jobs[i]?.join = some r →
      P r.key value) : Serves jobs P t where
  toBears := hs.toBears.step h fun i lock value heq hphase => by
    obtain ⟨r, hr⟩ := hs.quiet.request_of_isClaimed (i := i) (by simp [hphase, Phase.isClaimed])
    exact hs.key_eq i r hr ▸ hbrings i r value heq hr
  quiet := hs.quiet.step h hcalls
  key_eq i r hr := (h.key_eq i).trans (hs.key_eq i r hr)

theorem serves_initial (hcache : cache.AllValues P) (now : Nat) :
    Serves jobs P (Schedule.initial cache now jobs).calls where
  toBears := bears_ofKeys hcache now _
  quiet := quiet_initial cache now
  key_eq i r hr := by
    simp [Schedule.initial, ofKeys, key, Option.join_eq_some_iff.1 hr]

/-- Whatever happens, what holds of the values at first and of all that generations
bring holds of all values. -/
theorem serves_run (hcache : cache.AllValues P) (now : Nat) {events : List Event}
    (hcalls : ∀ i, .start i ∈ events → jobs[i]?.join ≠ none)
    (hbrings : ∀ i r value, .finish i (.ok value) ∈ events → jobs[i]?.join = some r →
      P r.key value) : Serves jobs P ((Schedule.initial cache now jobs).calls.run events) :=
  ((regular_ofKeys cache now _).run_induction (motive := Serves jobs P)
    (serves_initial hcache now) events fun _ hevent _ hstep hs =>
      hs.step hstep (fun i heq => hcalls i (heq ▸ hevent))
        fun i r value heq => hbrings i r value (heq ▸ hevent)).2

theorem serves_of_reaches (hjobs : ∀ (i : Nat) r, jobs[i]?.join = some r →
      ∀ value, r.answer.outcome = .ok value → P r.key value)
    (hcache : cache.AllValues P) {now : Nat}
    (h : Reaches jobs (Schedule.initial cache now jobs).calls s) : Serves jobs P s := by
  obtain ⟨events, hevents, rfl⟩ := h
  refine serves_run hcache now (fun i hi => hevents _ hi) fun i r value hi hr => ?_
  exact hjobs i r hr value (hevents _ hi r hr).symm

/-- Who gets a value has a request. -/
theorem Serves.request_of_result? (hs : Serves jobs P s) {value : String} {hit : Bool}
    (h : s.result? i = some (.ok (value, hit))) :
    ∃ r, jobs[i]?.join = some r ∧ P r.key value := by
  have hphase := result?_eq_some_iff.1 h
  obtain ⟨r, hr⟩ : ∃ r, jobs[i]?.join = some r := by
    refine Option.ne_none_iff_exists'.1 fun hnone => ?_
    rcases hs.quiet i hnone with hidle | hdropped
    · cases hidle.symm.trans hphase
    · cases hdropped.symm.trans hphase
  exact ⟨r, hr, hs.key_eq i r hr ▸ hs.got i value hit h⟩

end Calls

end Gloss.Cache
