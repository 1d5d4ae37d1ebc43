import Gloss.Cache.Schedule

/-!
# Schedules with little to do

A job without a request is done at once and does not touch the cache. Where no
job has a request, work leaves the callers as they were (`calls_loop`), so no job
has a result (`result?_run_of_no_request`).

How many jobs are worked on at a time matters only as long as some are upcoming, so
it does not matter to a job on its own (`run_singleton`).
-/

namespace Gloss.Cache.Schedule

variable {jobs : List (Option Request)}

theorem calls_work_of_no_request {i : Nat} (h : jobs[i]?.join = none) (s : Schedule) :
    (work jobs s i).calls = s.calls ∧ (work jobs s i).timers = s.timers := by
  rw [work, h]
  exact ⟨rfl, rfl⟩

theorem wait_of_no_timer {s : Schedule} (h : s.timers = []) : s.wait = none := by
  rw [wait, h]
  rfl

/-- Without requests no turn changes the callers, and none sets a timer. -/
theorem calls_loop (h : ∀ i : Nat, jobs[i]?.join = none) (limit fuel : Nat) {s : Schedule}
    (hs : s.timers = []) : (loop jobs limit fuel s).calls = s.calls := by
  induction fuel generalizing s with
  | zero => rfl
  | succ fuel ih =>
    rw [loop]
    have htimers : (s.takeUp limit).timers = [] := hs
    split
    · rename_i i rest hready
      obtain ⟨hcalls, htimers'⟩ :=
        calls_work_of_no_request (h i) { s.takeUp limit with ready := rest }
      rw [ih (htimers'.trans htimers), hcalls]
      rfl
    · rw [wait_of_no_timer htimers]
      rfl

theorem phase_initial_ne_finished (cache : Cache) (now i : Nat) (result : Result) :
    (initial cache now jobs).calls.phase i ≠ .finished result := by
  simp only [initial, Calls.ofKeys, Calls.phase, List.getElem?_map, Option.map_map]
  cases jobs[i]? <;> simp

/-- No job has a result if no job has a request. -/
theorem result?_run_of_no_request (h : ∀ i : Nat, jobs[i]?.join = none) (cache : Cache)
    (now limit i : Nat) : (run cache now limit jobs).result? i = none := by
  have hcalls : (run cache now limit jobs).calls = (initial cache now jobs).calls :=
    calls_loop h _ _ rfl
  unfold result?
  rw [hcalls]
  split
  · rename_i result hphase
    exact absurd hphase (phase_initial_ne_finished cache now i result)
  · rfl

/-! ## One job -/

theorem upcoming_followUp (s : Schedule) (i : Nat) (answer : Generation.Answer) :
    (s.followUp i answer).upcoming = s.upcoming := by
  unfold followUp
  split
  · rfl
  · dsimp only
    split <;> rfl
  · rfl

theorem upcoming_work (jobs : List (Option Request)) (s : Schedule) (i : Nat) :
    (work jobs s i).upcoming = s.upcoming := by
  unfold work
  split
  · rfl
  · split
    · exact upcoming_followUp _ i _
    · exact upcoming_followUp _ i _
    · rfl
    · rfl

theorem upcoming_wait {s t : Schedule} (h : s.wait = some t) : t.upcoming = s.upcoming := by
  obtain ⟨due, -, rfl⟩ := Option.map_eq_some_iff.1 h
  rfl

theorem takeUp_of_no_upcoming {s : Schedule} (h : s.upcoming = []) (limit : Nat) :
    s.takeUp limit = s := by
  cases s
  cases h
  simp [takeUp]

theorem loop_of_no_upcoming (limit limit' fuel : Nat) {s : Schedule} (h : s.upcoming = []) :
    loop jobs limit fuel s = loop jobs limit' fuel s := by
  induction fuel generalizing s with
  | zero => rfl
  | succ fuel ih =>
    rw [loop, loop, takeUp_of_no_upcoming h, takeUp_of_no_upcoming h]
    split
    · exact ih ((upcoming_work _ _ _).trans h)
    · split
      · rename_i t hwait
        exact ih ((upcoming_wait hwait).trans h)
      · rfl

/-- A job on its own is taken up at once. -/
theorem run_singleton (cache : Cache) (now limit : Nat) (job : Option Request) :
    run cache now limit [job] = run cache now 1 [job] := by
  let s : Schedule := { initial cache now [job] with upcoming := [], active := 1, ready := [0] }
  have htaken : ∀ n, (initial cache now [job]).takeUp (max n 1) = s := by
    intro n
    have hroom : 1 ≤ max n 1 := Nat.le_max_right n 1
    simp [takeUp, s, initial, List.take_of_length_le, List.drop_of_length_le, hroom]
  show loop [job] (max limit 1) (4 + 1) _ = loop [job] (max 1 1) (4 + 1) _
  rw [loop, loop, htaken limit, htaken 1]
  exact loop_of_no_upcoming _ _ _ (upcoming_work _ _ _)

end Gloss.Cache.Schedule
