import Gloss.Cache.Schedule
import Gloss.Proofs.Cache.Steps
import Mathlib.Algebra.Ring.Nat

/-!
# Schedules come to an end

Each job of a schedule is upcoming, ready, timed or in line for a lock until it
ends (`Steady`). Every turn of the work and every wait lowers what is left to do
(`cost`), of which there is less than a run has turns. When nothing is ready and no
generation is under way nobody waits for a lock, so all jobs are done:

* `finished_run`: every job with a request has a result;
* `endedJobs_run`: every job has ended, once;
* `reaches_run`: the callers have come to it by events that go by the requests
  (`Event.Follows`).
-/

namespace Gloss.Cache

namespace Calls

variable {s t u : Calls} {i j lock : Nat} {events : List Event}

/-! ## Turns of a caller -/

/-- What the turn of a caller does to all: at most, others get a lock for which they
wait. -/
structure Turn (s : Calls) (i : Nat) (t : Calls) : Prop where
  regular : t.Regular
  length_eq : t.callers.length = s.callers.length
  others : ∀ j, j ≠ i → t.phase j = s.phase j ∨
    ∃ lock, s.phase j = .queued lock ∧ t.phase j = .granted lock

theorem Turn.of_run (hs : s.Regular) (hevents : ∀ e ∈ events, e.caller? = some i) :
    Turn s i (s.run events) := by
  have hrun := hs.run_induction (motive := fun t => t.callers.length = s.callers.length ∧
    ∀ j, j ≠ i → t.phase j = s.phase j ∨
      ∃ lock, s.phase j = .queued lock ∧ t.phase j = .granted lock)
    ⟨rfl, fun _ _ => .inl rfl⟩ events ?_
  · exact ⟨hrun.1, hrun.2.1, hrun.2.2⟩
  rintro t u event hevent - hstep ⟨hlength, hothers⟩
  refine ⟨hstep.length_eq.trans hlength, fun j hj => ?_⟩
  have hcaller : event.caller? ≠ some j := fun h =>
    hj (Option.some.inj (h.symm.trans (hevents event hevent)))
  rcases hstep.phase_of_ne hcaller with heq | ⟨lock, hqueued, hgranted⟩
  · rw [heq]
    exact hothers j hj
  · rcases hothers j hj with heq' | ⟨l, -, hl⟩
    · exact .inr ⟨lock, heq'.symm.trans hqueued, hgranted⟩
    · rw [hl] at hqueued
      cases hqueued

theorem Turn.phase_eq (h : Turn s i t) (hj : j ≠ i) (hs : ∀ lock, s.phase j ≠ .queued lock) :
    t.phase j = s.phase j := by
  rcases h.others j hj with heq | ⟨lock, hlock, -⟩
  · exact heq
  · exact absurd hlock (hs lock)

theorem Turn.phase_of_eq (h : Turn s i t) (hj : j ≠ i) {p : Phase} (ht : t.phase j = p)
    (hp : ∀ lock, p ≠ .granted lock) : s.phase j = p := by
  rcases h.others j hj with heq | ⟨lock, -, hlock⟩
  · exact heq.symm.trans ht
  · exact absurd (ht.symm.trans hlock) (hp lock)

theorem run_single (s : Calls) (event : Event) : s.run [event] = s.attempt event := rfl

/-- Passing on a lock changes nothing for a caller that is not in line. -/
theorem phase_releaseAll_of_ne {l : Option Nat} {p : Phase} (h : s.phase j = p)
    (hp : ∀ lock, p ≠ .queued lock) : (s.releaseAll l).phase j = p := by
  rcases phase_releaseAll s l j with heq | ⟨lock, hqueued, -⟩
  · exact heq.trans h
  · exact absurd (h.symm.trans hqueued) (hp lock)

/-- A caller that has its lock finds its value, or generates it. -/
theorem phase_resume (hs : s.Regular) (hphase : s.phase i = .granted lock) :
    (∃ result, (s.run [.resume i]).phase i = .finished result) ∨
      ∃ l, (s.run [.resume i]).phase i = .generating l := by
  have hlen := lt_of_phase (s := s) (i := i) (by simp [hphase])
  have hstep : s.step (.resume i) = some (s.run [.resume i]) := by
    simp [run_single, attempt, step, hphase]
  generalize s.run [.resume i] = t at hstep ⊢
  cases Step.of_step hs hstep with
  | @late i l =>
    exact .inl ⟨_, phase_releaseAll_of_ne (l := some l) (phase_setPhase_self hlen _)
      fun _ h => by cases h⟩
  | @generate i l => exact .inr ⟨some l, phase_setPhase_self hlen _⟩

/-- A generation that ends brings a result. -/
theorem phase_finish (hs : s.Regular) {l : Option Nat} (hphase : s.phase i = .generating l)
    (outcome : Except Generation.Failure String) :
    ∃ result, (s.run [.finish i outcome]).phase i = .finished result := by
  have hlen := lt_of_phase (s := s) (i := i) (by simp [hphase])
  have hstep : s.step (.finish i outcome) = some (s.run [.finish i outcome]) := by
    simp [run_single, attempt, step, hphase]
  generalize s.run [.finish i outcome] = t at hstep ⊢
  cases Step.of_step hs hstep with
  | store | fail =>
    exact ⟨_, phase_releaseAll_of_ne (phase_setPhase_self hlen _) fun _ h => by cases h⟩

theorem run_call (s : Calls) (i : Nat) :
    s.run (Event.call i) = (s.attempt (.start i)).run [.resume i] := rfl

theorem run_resume_of_not_granted (h : ∀ lock, s.phase i ≠ .granted lock) :
    s.run [.resume i] = s := by
  rw [run_single, attempt, step]
  split
  · rename_i lock hphase
    exact absurd hphase (h lock)
  · rfl

/-- A caller that calls ends, waits in line, or generates. -/
theorem phase_call (hs : s.Regular) (hphase : s.phase i = .idle) :
    (∃ result, (s.run (Event.call i)).phase i = .finished result) ∨
    (∃ lock, (s.run (Event.call i)).phase i = .queued lock) ∨
      ∃ l, (s.run (Event.call i)).phase i = .generating l := by
  have hlen := lt_of_phase (s := s) (i := i) (by simp [hphase])
  have hstep : s.step (.start i) = some (s.attempt (.start i)) := by
    simp [attempt, step, hphase]
  rw [run_call]
  generalize s.attempt (.start i) = t at hstep ⊢
  -- Only a caller that has its lock goes on.
  have hstop : ∀ {p : Phase}, t.phase i = p → (∀ lock, p ≠ .granted lock) →
      (t.run [.resume i]).phase i = p := fun ht hp => by
    rw [run_resume_of_not_granted fun lock h => hp lock (ht.symm.trans h), ht]
  have hcases := Step.of_step hs hstep
  have ht := hcases.regular hs
  cases hcases with
  | hit => exact .inl ⟨_, hstop (phase_setPhase_self hlen _) fun _ h => by cases h⟩
  | claim =>
    have hgranted := phase_setPhase_self (s := (s.missing i).newLock (s.key i)) hlen (.granted s.nextLock)
    exact (phase_resume ht hgranted).imp_right .inr
  | @join i lock =>
    exact .inr (.inl ⟨lock, hstop (phase_setPhase_self hlen _) fun _ h => by cases h⟩)
  | bypass => exact .inr (.inr ⟨none, hstop (phase_setPhase_self hlen _) fun _ h => by cases h⟩)

end Calls

/-! ## Where jobs stand -/

/-- Whether a caller can go on without waiting for a lock. -/
def Phase.isOpen : Phase → Bool
  | idle | granted _ | generating _ => true
  | _ => false

/-- How many turns and waits a job that can go on needs at most. -/
def Phase.turns : Phase → Nat
  | idle => 4
  | granted _ => 3
  | generating _ => 1
  | _ => 0

/-- The job that has ended. -/
def Mark.ended? : Mark → Option Nat
  | ended job => some job
  | _ => none

namespace Schedule

open Calls (Turn)
open scoped List

variable {jobs : List (Option Request)} {busy : List Nat} {s t : Schedule} {i j : Nat}

/-- The jobs that wait for a lock, but for those at work. -/
def line (busy : List Nat) (s : Schedule) : List Nat :=
  s.calls.queue.filter (· ∉ busy)

/-- The jobs that have been taken up and not ended. -/
def underWay (busy : List Nat) (s : Schedule) : List Nat :=
  busy ++ (s.ready ++ (s.timers.map Prod.snd ++ line busy s))

/-- The jobs that have ended, in order. -/
def endedJobs (s : Schedule) : List Nat :=
  s.marks.filterMap Mark.ended?

theorem endedJobs_mark (s : Schedule) (m : Mark) :
    (s.mark m).endedJobs = s.endedJobs ++ m.ended?.toList := by
  simp only [endedJobs, Schedule.mark, List.filterMap_append]
  cases h : m.ended? <;> simp [h]

/-- Each job stands at one place that fits its phase, or has ended. Of those at work
(`busy`) nothing is said but that they have not been given up. -/
structure Steady (jobs : List (Option Request)) (busy : List Nat) (s : Schedule) : Prop where
  regular : s.calls.Regular
  length_eq : s.calls.callers.length = jobs.length
  listed : (s.endedJobs ++ (s.upcoming ++ underWay busy s)).Perm (List.range jobs.length)
  active_eq : s.active = (underWay busy s).length
  upcoming_idle : ∀ j ∈ s.upcoming, s.calls.phase j = .idle
  ready_open : ∀ j ∈ s.ready, (s.calls.phase j).isOpen = true
  timed : ∀ j ∈ s.timers.map Prod.snd, ∃ l, s.calls.phase j = .generating l
  unasked : ∀ j < jobs.length, jobs[j]?.join = none → s.calls.phase j = .idle
  idle_listed : ∀ j ∉ busy, jobs[j]?.join ≠ none → s.calls.phase j = .idle →
    j ∈ s.upcoming ∨ j ∈ s.ready
  granted_listed : ∀ j ∉ busy, ∀ l, s.calls.phase j = .granted l → j ∈ s.ready
  generating_listed : ∀ j ∉ busy, ∀ l, s.calls.phase j = .generating l →
    j ∈ s.ready ∨ j ∈ s.timers.map Prod.snd
  kept : ∀ j < jobs.length, s.calls.phase j ≠ .dropped

/-- How much is left to do, but for the jobs at work. -/
def cost (busy : List Nat) (s : Schedule) : Nat :=
  4 * s.upcoming.length + (s.ready.map fun j => (s.calls.phase j).turns).sum +
    2 * s.timers.length + 3 * (line busy s).length

theorem line_nil (s : Schedule) : line [] s = s.calls.queue := by
  simp [line]

theorem line_of_not_mem (h : i ∉ s.calls.queue) : line [i] s = s.calls.queue := by
  refine List.filter_eq_self.2 fun j hj => ?_
  simpa using fun heq : j = i => h (heq ▸ hj)

theorem Steady.mem_line (hs : Steady jobs busy s) :
    j ∈ line busy s ↔ j ∉ busy ∧ ∃ l, s.calls.phase j = .queued l := by
  rw [line, List.mem_filter, hs.regular.queued_iff]
  simp [and_comm]

theorem not_mem_queue (hs : s.calls.Regular) (h : ∀ l, s.calls.phase i ≠ .queued l) :
    i ∉ s.calls.queue := fun hi =>
  let ⟨l, hl⟩ := (hs.queued_iff i).1 hi
  h l hl

theorem Steady.nodup (hs : Steady jobs busy s) : (s.upcoming ++ underWay busy s).Nodup :=
  (List.nodup_append.1 (hs.listed.nodup_iff.2 List.nodup_range)).2.1

/-- The same jobs in another order are all jobs. -/
theorem Steady.of_perm (hs : Steady jobs busy s) {upcoming underWay' : List Nat}
    (hperm : (s.upcoming ++ underWay busy s).Perm (upcoming ++ underWay')) :
    (s.endedJobs ++ (upcoming ++ underWay')).Perm (List.range jobs.length) :=
  (hperm.append_left _).symm.trans hs.listed

/-! ## Taking a job up and putting it down -/

theorem sum_turns {calls : Calls} {n : Nat} {is : List Nat}
    (h : ∀ j ∈ is, (calls.phase j).turns = n) :
    (is.map fun j => (calls.phase j).turns).sum = n * is.length := by
  rw [List.map_congr_left h, List.map_const', List.sum_replicate_nat, Nat.mul_comm]

/-- The first job that is ready comes to work. -/
theorem Steady.pick {rest : List Nat} (hs : Steady jobs [] s) (hready : s.ready = i :: rest) :
    Steady jobs [i] { s with ready := rest } ∧
      cost [] s = (s.calls.phase i).turns + cost [i] { s with ready := rest } := by
  have hi : i ∈ s.ready := by simp [hready]
  have hqueue : i ∉ s.calls.queue := not_mem_queue hs.regular fun l hl => by
    have := hs.ready_open i hi
    simp [hl, Phase.isOpen] at this
  have hline : line [i] { s with ready := rest } = line [] s :=
    (line_of_not_mem (s := { s with ready := rest }) hqueue).trans (line_nil s).symm
  have hway : underWay [i] { s with ready := rest } = underWay [] s := by
    simp [underWay, hline, hready]
  refine ⟨⟨hs.regular, hs.length_eq, hway ▸ hs.listed, hway ▸ hs.active_eq, hs.upcoming_idle,
    fun j hj => hs.ready_open j (by simp [hready, hj]), hs.timed, hs.unasked, fun j hj hr hp => ?_,
    fun j hj l hp => ?_, fun j hj l hp => ?_, hs.kept⟩, ?_⟩
  · simpa [hready, List.ne_of_not_mem_cons hj] using hs.idle_listed j (by simp) hr hp
  · simpa [hready, List.ne_of_not_mem_cons hj] using hs.granted_listed j (by simp) l hp
  · simpa [hready, List.ne_of_not_mem_cons hj] using hs.generating_listed j (by simp) l hp
  · simp only [cost, hline, hready, List.map_cons, List.sum_cons]
    omega

/-- A job at work finds its place again. -/
theorem Steady.putDown (hs : Steady jobs [i] s) (hcalls : t.calls = s.calls)
    (hupcoming : t.upcoming = s.upcoming) (hready : t.ready = s.ready)
    (hlisted : (t.endedJobs ++ (t.upcoming ++ underWay [] t)).Perm (List.range jobs.length))
    (hactive : t.active = (underWay [] t).length)
    (htimers : ∀ j, j ∈ t.timers.map Prod.snd ↔
      j ∈ s.timers.map Prod.snd ∨ (j = i ∧ ∃ l, s.calls.phase i = .generating l))
    (hidle : jobs[i]?.join ≠ none → s.calls.phase i ≠ .idle)
    (hgranted : ∀ l, s.calls.phase i ≠ .granted l) : Steady jobs [] t where
  regular := hcalls ▸ hs.regular
  length_eq := hcalls ▸ hs.length_eq
  listed := hlisted
  active_eq := hactive
  upcoming_idle := by rw [hcalls, hupcoming]; exact hs.upcoming_idle
  ready_open := by rw [hcalls, hready]; exact hs.ready_open
  timed := by
    intro j hj
    rw [hcalls]
    rcases (htimers j).1 hj with hj | ⟨rfl, hl⟩
    · exact hs.timed j hj
    · exact hl
  unasked := by rw [hcalls]; exact hs.unasked
  idle_listed := by
    intro j _ hr hp
    rw [hcalls] at hp
    rw [hupcoming, hready]
    refine hs.idle_listed j (fun hj => ?_) hr hp
    obtain rfl := List.mem_singleton.1 hj
    exact hidle hr hp
  granted_listed := by
    intro j _ l hp
    rw [hcalls] at hp
    rw [hready]
    refine hs.granted_listed j (fun hj => ?_) l hp
    obtain rfl := List.mem_singleton.1 hj
    exact hgranted l hp
  generating_listed := by
    intro j _ l hp
    rw [hcalls] at hp
    rw [hready, htimers]
    by_cases hj : j = i
    · exact .inr (.inr ⟨hj, l, hj ▸ hp⟩)
    · exact (hs.generating_listed j (by simpa using hj) l hp).imp_right .inl
  kept := hcalls ▸ hs.kept

/-- A job at work that is done, or that nobody asked for, has ended. -/
theorem Steady.conclude (hs : Steady jobs [i] s) (hi : i < jobs.length)
    (hdone : jobs[i]?.join = none ∨ ∃ result, s.calls.phase i = .finished result) :
    Steady jobs [] (s.conclude i) ∧ cost [] (s.conclude i) = cost [i] s := by
  have hphase : s.calls.phase i = .idle ∨ ∃ result, s.calls.phase i = .finished result :=
    hdone.imp_left (hs.unasked i hi)
  have hqueue : i ∉ s.calls.queue := not_mem_queue hs.regular fun l hl => by
    rcases hphase with h | ⟨_, h⟩ <;> simp [h] at hl
  have hline : line [i] s = line [] s := (line_of_not_mem hqueue).trans (line_nil s).symm
  have hway : underWay [i] s = i :: underWay [] s := by simp [underWay, hline]
  have hlisted : ((s.conclude i).endedJobs ++ (s.upcoming ++ underWay [] s)).Perm
      (List.range jobs.length) := by
    calc (s.mark (.ended i)).endedJobs ++ (s.upcoming ++ underWay [] s)
      _ = s.endedJobs ++ i :: (s.upcoming ++ underWay [] s) := by
        rw [endedJobs_mark]
        exact List.append_assoc _ [i] _
      _ ~ s.endedJobs ++ (s.upcoming ++ underWay [i] s) := by
        rw [hway]
        exact List.perm_middle.symm.append_left _
      _ ~ List.range jobs.length := hs.listed
  have hactive : s.active - 1 = (underWay [] s).length := by
    rw [hs.active_eq, hway, List.length_cons, Nat.add_sub_cancel]
  refine ⟨hs.putDown rfl rfl rfl hlisted hactive (fun j => ?_) (fun hr hp => ?_)
    (fun l hp => ?_), ?_⟩
  · refine ⟨.inl, Or.rec id ?_⟩
    rintro ⟨rfl, l, hp⟩
    rcases hphase with h | ⟨_, h⟩ <;> simp [h] at hp
  · rcases hdone with h | ⟨_, h⟩
    · exact hr h
    · simp [h] at hp
  · rcases hphase with h | ⟨_, h⟩ <;> simp [h] at hp
  · rw [cost, cost, hline]
    rfl

/-- A job at work that generates is left alone until its time has come. -/
theorem Steady.setTimer (hs : Steady jobs [i] s) {l : Option Nat}
    (hphase : s.calls.phase i = .generating l) (due : Nat) :
    Steady jobs [] { s with timers := s.timers ++ [(due, i)] } ∧
      cost [] { s with timers := s.timers ++ [(due, i)] } = cost [i] s + 2 := by
  have hqueue : i ∉ s.calls.queue := not_mem_queue hs.regular fun l' hl => by simp [hphase] at hl
  have hline : line [i] s = line [] { s with timers := s.timers ++ [(due, i)] } :=
    (line_of_not_mem hqueue).trans (line_nil s).symm
  have hway : (underWay [i] s).Perm (underWay [] { s with timers := s.timers ++ [(due, i)] }) := by
    simp only [underWay, hline, List.map_append, List.map_cons, List.map_nil, List.append_assoc,
      List.cons_append, List.nil_append]
    exact List.perm_middle.symm.trans (List.perm_middle.symm.append_left s.ready)
  refine ⟨hs.putDown rfl rfl rfl (hs.of_perm (hway.append_left _))
    (hs.active_eq.trans hway.length_eq) (fun j => ?_) (fun _ hp => ?_) (fun l hp => ?_), ?_⟩
  · simp [hphase]
  · simp [hphase] at hp
  · simp [hphase] at hp
  · rw [cost, cost, hline]
    simp only [List.length_append, List.length_singleton]
    omega

/-- A job at work that waits for a lock stands in line. -/
theorem Steady.standInLine (hs : Steady jobs [i] s) {l : Nat}
    (hphase : s.calls.phase i = .queued l) :
    Steady jobs [] s ∧ cost [] s = cost [i] s + 3 := by
  have hi : i ∈ s.calls.queue := (hs.regular.queued_iff i).2 ⟨l, hphase⟩
  have hline : (i :: line [i] s).Perm (line [] s) := by
    rw [line_nil]
    refine (List.Perm.cons i (List.Perm.of_eq ?_)).trans (List.perm_cons_erase hi).symm
    rw [line, hs.regular.queue_nodup.erase_eq_filter]
    exact List.filter_congr fun j _ => by simp [bne, beq_eq_decide]
  have hway : (underWay [i] s).Perm (underWay [] s) := by
    show (i :: (s.ready ++ (s.timers.map Prod.snd ++ line [i] s))).Perm
      (s.ready ++ (s.timers.map Prod.snd ++ line [] s))
    calc i :: (s.ready ++ (s.timers.map Prod.snd ++ line [i] s))
      _ ~ s.ready ++ i :: (s.timers.map Prod.snd ++ line [i] s) := List.perm_middle.symm
      _ ~ s.ready ++ (s.timers.map Prod.snd ++ i :: line [i] s) :=
        List.perm_middle.symm.append_left _
      _ ~ s.ready ++ (s.timers.map Prod.snd ++ line [] s) := (hline.append_left _).append_left _
  refine ⟨hs.putDown rfl rfl rfl (hs.of_perm (hway.append_left _))
    (hs.active_eq.trans hway.length_eq) (fun j => ?_) (fun _ hp => ?_) (fun l hp => ?_), ?_⟩
  · simp [hphase]
  · simp [hphase] at hp
  · simp [hphase] at hp
  · have hlength := hline.length_eq
    rw [List.length_cons] at hlength
    rw [cost, cost]
    omega

/-! ## Turns and waits -/

theorem mem_newlyGranted {calls : Calls} {ready : List Nat} :
    j ∈ newlyGranted calls ready ↔ (∃ l, calls.phase j = .granted l) ∧ j ∉ ready := by
  rw [newlyGranted, List.mem_filter, List.mem_range]
  constructor
  · rintro ⟨-, h⟩
    split at h
    · rename_i l hl
      exact ⟨⟨l, hl⟩, by simpa using h⟩
    · cases h
  · rintro ⟨⟨l, hl⟩, hj⟩
    exact ⟨Calls.lt_of_phase (by simp [hl]), by simp [hl, hj]⟩

/-- Who leaves the line in the turn of another job is given a lock. -/
theorem Steady.line_perm (hs : Steady jobs [i] s) {calls : Calls} (hturn : Turn s.calls i calls)
    (hgranted : ∀ l, calls.phase i ≠ .granted l) :
    (line [i] s).Perm (newlyGranted calls s.ready ++ line [i] { s with calls := calls }) := by
  have hmem' : ∀ j, j ∈ line [i] { s with calls := calls } ↔
      j ∉ [i] ∧ ∃ l, calls.phase j = .queued l := fun j => by
    simp [line, hturn.regular.queued_iff, and_comm]
  refine (List.perm_ext_iff_of_nodup (hs.regular.queue_nodup.filter _)
    (List.nodup_append.2 ⟨List.nodup_range.filter _, hturn.regular.queue_nodup.filter _, ?_⟩)).2 ?_
  · rintro j hj k hk rfl
    obtain ⟨⟨l, hl⟩, -⟩ := mem_newlyGranted.1 hj
    obtain ⟨-, l', hl'⟩ := (hmem' j).1 hk
    cases hl.symm.trans hl'
  intro j
  show j ∈ line [i] s ↔ j ∈ newlyGranted calls s.ready ++ line [i] { s with calls := calls }
  rw [hs.mem_line, List.mem_append, mem_newlyGranted, hmem']
  constructor
  · rintro ⟨hj, l, hl⟩
    rcases hturn.others j (by simpa using hj) with heq | ⟨l', -, hl'⟩
    · exact .inr ⟨hj, l, heq.trans hl⟩
    · refine .inl ⟨⟨l', hl'⟩, fun hready => ?_⟩
      have := hs.ready_open j hready
      simp [hl, Phase.isOpen] at this
  · rintro (⟨⟨l, hl⟩, hready⟩ | ⟨hj, l, hl⟩)
    · have hj : j ≠ i := fun h => hgranted l (h ▸ hl)
      rcases hturn.others j hj with heq | ⟨l', hl', -⟩
      · exact absurd (hs.granted_listed j (by simpa using hj) l (heq.symm.trans hl)) hready
      · exact ⟨by simpa using hj, l', hl'⟩
    · exact ⟨hj, l, hturn.phase_of_eq (by simpa using hj) hl fun _ h => by cases h⟩

/-- A turn of the job at work gives some jobs in line their lock, and changes no more
for others. -/
theorem Steady.happen (hs : Steady jobs [i] s) (events : List Event)
    (hevents : ∀ e ∈ events, e.caller? = some i) (hasked : jobs[i]?.join ≠ none)
    (hgranted : ∀ l, (s.calls.run events).phase i ≠ .granted l)
    (hkept : (s.calls.run events).phase i ≠ .dropped) :
    Steady jobs [i] (s.happen events) ∧ cost [i] (s.happen events) = cost [i] s := by
  have hturn := Turn.of_run hs.regular hevents
  have hperm := hs.line_perm hturn hgranted
  have hway : (underWay [i] s).Perm (underWay [i] (s.happen events)) := by
    show ([i] ++ (s.ready ++ (s.timers.map Prod.snd ++ line [i] s))).Perm
      ([i] ++ ((s.ready ++ newlyGranted (s.calls.run events) s.ready) ++
        (s.timers.map Prod.snd ++ line [i] (s.happen events))))
    rw [List.append_assoc s.ready]
    refine List.Perm.append_left _ (List.Perm.append_left _ ?_)
    calc s.timers.map Prod.snd ++ line [i] s
      _ ~ s.timers.map Prod.snd ++
          (newlyGranted (s.calls.run events) s.ready ++ line [i] (s.happen events)) :=
        hperm.append_left _
      _ ~ newlyGranted (s.calls.run events) s.ready ++
          (s.timers.map Prod.snd ++ line [i] (s.happen events)) := by
        rw [← List.append_assoc, ← List.append_assoc]
        exact List.perm_append_comm.append_right _
  have hne : ∀ j ∈ s.upcoming ++ (s.ready ++ s.timers.map Prod.snd), j ≠ i := by
    rintro j hj rfl
    have hnodup := hs.nodup
    simp only [underWay, List.singleton_append] at hnodup
    have hmem := (List.nodup_cons.1 (List.nodup_middle.1 hnodup)).1
    simp only [List.mem_append] at hj hmem
    tauto
  -- Who is ready does not wait in line, and so keeps its phase.
  have hready : ∀ j ∈ s.ready, (s.calls.run events).phase j = s.calls.phase j := fun j hj => by
    refine hturn.phase_eq (hne j (by simp [hj])) fun l hl => ?_
    have := hs.ready_open j hj
    simp [hl, Phase.isOpen] at this
  refine ⟨⟨hturn.regular, hturn.length_eq.trans hs.length_eq, hs.of_perm (hway.append_left _),
    hs.active_eq.trans hway.length_eq, fun j hj => ?_, fun j hj => ?_, fun j hj => ?_,
    fun j hlen hj => ?_, fun j hj hr hp => ?_, fun j hj l hp => ?_, fun j hj l hp => ?_,
    fun j hlen hp => ?_⟩, ?_⟩
  · have hidle := hs.upcoming_idle j hj
    exact (hturn.phase_eq (hne j (List.mem_append_left _ hj)) (by simp [hidle])).trans hidle
  · show ((s.calls.run events).phase j).isOpen = true
    rcases List.mem_append.1 hj with hj | hj
    · rw [hready j hj]
      exact hs.ready_open j hj
    · obtain ⟨⟨l, hl⟩, -⟩ := mem_newlyGranted.1 hj
      rw [hl]
      rfl
  · obtain ⟨l, hl⟩ := hs.timed j hj
    have hmem := List.mem_append_right s.upcoming (List.mem_append_right s.ready hj)
    exact ⟨l, (hturn.phase_eq (hne j hmem) (by simp [hl])).trans hl⟩
  · have hidle := hs.unasked j hlen hj
    exact (hturn.phase_eq (fun h => hasked (h ▸ hj)) (by simp [hidle])).trans hidle
  · have hidle := hturn.phase_of_eq (by simpa using hj) hp (by simp)
    exact (hs.idle_listed j hj hr hidle).imp_right (List.mem_append_left _)
  · by_cases hj' : j ∈ s.ready
    · exact List.mem_append_left _ hj'
    · exact List.mem_append_right _ (mem_newlyGranted.2 ⟨⟨l, hp⟩, hj'⟩)
  · have hphase := hturn.phase_of_eq (by simpa using hj) hp (by simp)
    exact (hs.generating_listed j hj l hphase).imp_left (List.mem_append_left _)
  · by_cases hj : j = i
    · exact hkept (hj ▸ hp)
    · exact hs.kept j hlen (hturn.phase_of_eq hj hp (by simp))
  · have hsum : ((s.happen events).ready.map fun j => ((s.happen events).calls.phase j).turns).sum =
        (s.ready.map fun j => (s.calls.phase j).turns).sum +
          3 * (newlyGranted (s.calls.run events) s.ready).length := by
      show ((s.ready ++ newlyGranted (s.calls.run events) s.ready).map
        fun j => ((s.calls.run events).phase j).turns).sum = _
      rw [List.map_append, List.sum_append,
        List.map_congr_left fun j hj => congrArg Phase.turns (hready j hj)]
      refine congrArg (_ + ·) (sum_turns fun j hj => ?_)
      obtain ⟨⟨l, hl⟩, -⟩ := mem_newlyGranted.1 hj
      rw [hl, Phase.turns]
    have hlength : (line [i] s).length = (newlyGranted (s.calls.run events) s.ready).length +
        (line [i] (s.happen events)).length := hperm.length_eq.trans List.length_append
    rw [cost, cost, hsum, hlength]
    show 4 * s.upcoming.length + _ + 2 * s.timers.length + _ = _
    omega

/-! ## The loop -/

theorem Steady.mark (hs : Steady jobs busy s) {m : Mark} (hm : m.ended? = none) :
    Steady jobs busy (s.mark m) := by
  refine ⟨hs.regular, hs.length_eq, ?_, hs.active_eq, hs.upcoming_idle, hs.ready_open, hs.timed,
    hs.unasked, hs.idle_listed, hs.granted_listed, hs.generating_listed, hs.kept⟩
  rw [endedJobs_mark, hm]
  exact (List.append_nil s.endedJobs).symm ▸ hs.listed

/-- A job at work that has ended, waits or generates leaves less to do than before
it called. -/
theorem Steady.followUp (hs : Steady jobs [i] s) (hi : i < jobs.length)
    (hasked : jobs[i]?.join ≠ none) (answer : Generation.Answer)
    (hphase : (∃ result, s.calls.phase i = .finished result) ∨
      ∃ l, s.calls.phase i = .generating l) :
    Steady jobs [] (s.followUp i answer) ∧ cost [] (s.followUp i answer) ≤ cost [i] s + 2 := by
  rcases hphase with ⟨result, hfinished⟩ | ⟨l, hgenerating⟩
  · have heq : s.followUp i answer = s.conclude i := by simp [Schedule.followUp, hfinished]
    rw [heq]
    obtain ⟨hsteady, hcost⟩ := hs.conclude hi (.inr ⟨result, hfinished⟩)
    exact ⟨hsteady, by omega⟩
  · have heq : s.followUp i answer =
        if answer.delay = 0 then
          ((s.mark (.asked i)).happen [.finish i answer.outcome]).conclude i
        else { s.mark (.asked i) with timers := s.timers ++ [(s.calls.now + answer.delay, i)] } := by
      simp only [Schedule.followUp, hgenerating]
      rfl
    rw [heq]
    split
    · obtain ⟨result, hresult⟩ := Calls.phase_finish hs.regular hgenerating answer.outcome
      obtain ⟨hsteady, hcost⟩ := (hs.mark (m := .asked i) rfl).happen [.finish i answer.outcome]
        (by simp [Event.caller?]) hasked
        (fun l hl => by cases hresult.symm.trans hl) (fun h => by cases hresult.symm.trans h)
      obtain ⟨hsteady', hcost'⟩ := hsteady.conclude hi (.inr ⟨result, hresult⟩)
      have hmark : cost [i] (s.mark (.asked i)) = cost [i] s := rfl
      exact ⟨hsteady', by omega⟩
    · obtain ⟨hsteady, hcost⟩ :=
        (hs.mark (m := .asked i) rfl).setTimer hgenerating (s.calls.now + answer.delay)
      exact ⟨hsteady, Nat.le_of_eq hcost⟩

theorem followUp_of_queued {l : Nat} (h : s.calls.phase i = .queued l) (answer : Generation.Answer) :
    s.followUp i answer = s := by
  simp [Schedule.followUp, h]

/-- A turn leaves less to do. -/
theorem Steady.work {rest : List Nat} (hs : Steady jobs [] s) (hready : s.ready = i :: rest) :
    Steady jobs [] (work jobs { s with ready := rest } i) ∧
      cost [] (work jobs { s with ready := rest } i) < cost [] s := by
  obtain ⟨hpick, hcost⟩ := hs.pick hready
  have hopen := hs.ready_open i (by simp [hready])
  have hi : i < jobs.length := by
    rw [← hs.length_eq]
    exact Calls.lt_of_phase fun h => by simp [h, Phase.isOpen] at hopen
  rw [Schedule.work]
  split
  · rename_i hjob
    obtain ⟨hsteady, hcost'⟩ := (hpick.mark (m := .started i) rfl).conclude hi (.inl hjob)
    have hmark : cost [i] (Schedule.mark { s with ready := rest } (.started i)) =
        cost [i] { s with ready := rest } := rfl
    rw [hs.unasked i hi hjob, Phase.turns] at hcost
    exact ⟨hsteady, by omega⟩
  · rename_i request hjob
    have hasked : jobs[i]?.join ≠ none := by simp [hjob]
    split
    · rename_i hphase
      rw [show s.calls.phase i = .idle from hphase, Phase.turns] at hcost
      have hcall := Calls.phase_call hs.regular hphase
      obtain ⟨hsteady, hcost'⟩ := (hpick.mark (m := .started i) rfl).happen (Event.call i)
        (by simp [Event.call, Event.caller?]) hasked
        (fun l hl => by rcases hcall with ⟨_, h⟩ | ⟨_, h⟩ | ⟨_, h⟩ <;> cases h.symm.trans hl)
        (fun hl => by rcases hcall with ⟨_, h⟩ | ⟨_, h⟩ | ⟨_, h⟩ <;> cases h.symm.trans hl)
      have hmark : cost [i] (Schedule.mark { s with ready := rest } (.started i)) =
          cost [i] { s with ready := rest } := rfl
      rcases hcall with h | ⟨l, hqueued⟩ | h
      · obtain ⟨hsteady', hcost''⟩ := hsteady.followUp hi hasked request.answer (.inl h)
        exact ⟨hsteady', by omega⟩
      · obtain ⟨hsteady', hcost''⟩ := hsteady.standInLine hqueued
        rw [followUp_of_queued hqueued]
        exact ⟨hsteady', by omega⟩
      · obtain ⟨hsteady', hcost''⟩ := hsteady.followUp hi hasked request.answer (.inr h)
        exact ⟨hsteady', by omega⟩
    · rename_i l hphase
      rw [show s.calls.phase i = .granted l from hphase, Phase.turns] at hcost
      have hresume := Calls.phase_resume hs.regular hphase
      obtain ⟨hsteady, hcost'⟩ := hpick.happen [.resume i] (by simp [Event.caller?])
        hasked (fun l hl => by rcases hresume with ⟨_, h⟩ | ⟨_, h⟩ <;> cases h.symm.trans hl)
        (fun hl => by rcases hresume with ⟨_, h⟩ | ⟨_, h⟩ <;> cases h.symm.trans hl)
      obtain ⟨hsteady', hcost''⟩ := hsteady.followUp hi hasked request.answer hresume
      exact ⟨hsteady', by omega⟩
    · rename_i l hphase
      rw [show s.calls.phase i = .generating l from hphase, Phase.turns] at hcost
      obtain ⟨result, hresult⟩ := Calls.phase_finish hs.regular hphase request.answer.outcome
      obtain ⟨hsteady, hcost'⟩ := hpick.happen [.finish i request.answer.outcome]
        (by simp [Event.caller?]) hasked (fun l hl => by cases hresult.symm.trans hl)
        (fun h => by cases hresult.symm.trans h)
      obtain ⟨hsteady', hcost''⟩ := hsteady.conclude hi (.inr ⟨result, hresult⟩)
      exact ⟨hsteady', by omega⟩
    · rename_i hidle hgranted hgenerating
      change (s.calls.phase i = .idle → False) at hidle
      cases hphase : s.calls.phase i <;> simp_all [Phase.isOpen]

/-- Upcoming jobs that are taken up are ready. -/
theorem Steady.admit (hs : Steady jobs [] s) (n : Nat) :
    let t : Schedule := { s with
      upcoming := s.upcoming.drop n
      active := s.active + (s.upcoming.take n).length
      ready := s.ready ++ s.upcoming.take n }
    Steady jobs [] t ∧ cost [] t = cost [] s := by
  intro t
  have htake : s.upcoming.take n ++ s.upcoming.drop n = s.upcoming := List.take_append_drop n _
  have hway : (underWay [] t).Perm (s.upcoming.take n ++ underWay [] s) := by
    show ((s.ready ++ s.upcoming.take n) ++ (s.timers.map Prod.snd ++ line [] s)).Perm
      (s.upcoming.take n ++ (s.ready ++ (s.timers.map Prod.snd ++ line [] s)))
    rw [← List.append_assoc (s.upcoming.take n)]
    exact List.perm_append_comm.append_right _
  have hall : (s.upcoming ++ underWay [] s).Perm (s.upcoming.drop n ++ underWay [] t) := by
    calc s.upcoming ++ underWay [] s
      _ ~ (s.upcoming.drop n ++ s.upcoming.take n) ++ underWay [] s := by
        conv_lhs => rw [← htake]
        exact List.perm_append_comm.append_right _
      _ ~ s.upcoming.drop n ++ underWay [] t := by
        rw [List.append_assoc]
        exact hway.symm.append_left _
  refine ⟨⟨hs.regular, hs.length_eq, hs.of_perm hall, ?_,
    fun j hj => hs.upcoming_idle j (List.mem_of_mem_drop hj), fun j hj => ?_, hs.timed, hs.unasked,
    fun j hj hr hp => ?_, fun j hj l hp => List.mem_append_left _ (hs.granted_listed j hj l hp),
    fun j hj l hp => (hs.generating_listed j hj l hp).imp_left (List.mem_append_left _),
    hs.kept⟩, ?_⟩
  · rw [hway.length_eq, List.length_append, ← hs.active_eq, Nat.add_comm]
  · rcases List.mem_append.1 hj with hj | hj
    · exact hs.ready_open j hj
    · show (s.calls.phase j).isOpen = true
      rw [hs.upcoming_idle j (List.mem_of_mem_take hj)]
      rfl
  · have hlisted := hs.idle_listed j hj hr hp
    rw [← htake, List.mem_append] at hlisted
    show j ∈ s.upcoming.drop n ∨ j ∈ s.ready ++ s.upcoming.take n
    rw [List.mem_append]
    tauto
  · have hsum : ((s.upcoming.take n).map fun j => (s.calls.phase j).turns).sum =
        4 * (s.upcoming.take n).length := sum_turns fun j hj => by
      rw [hs.upcoming_idle j (List.mem_of_mem_take hj), Phase.turns]
    have hlength := congrArg List.length htake
    rw [List.length_append] at hlength
    show 4 * (s.upcoming.drop n).length + ((s.ready ++ s.upcoming.take n).map
      fun j => (s.calls.phase j).turns).sum + 2 * s.timers.length + 3 * (line [] s).length = _
    rw [List.map_append, List.sum_append, hsum, cost]
    omega

/-- Time that passes until some generations have ended leaves less to do. -/
theorem Steady.wait (hs : Steady jobs [] s) (hready : s.ready = []) (hwait : s.wait = some t) :
    Steady jobs [] t ∧ cost [] t < cost [] s := by
  obtain ⟨due, hdue, ht⟩ := Option.map_eq_some_iff.1 hwait
  rw [List.partition_eq_filter_filter] at ht
  subst ht
  let ended : Nat × Nat → Bool := fun timer => decide (timer.1 ≤ due)
  have hperm : (s.timers.filter ended ++ s.timers.filter (not ∘ ended)).Perm s.timers :=
    List.filter_append_perm ended s.timers
  have hsplit : (s.timers.map Prod.snd).Perm
      ((s.timers.filter ended).map Prod.snd ++ (s.timers.filter (not ∘ ended)).map Prod.snd) := by
    rw [← List.map_append]
    exact (hperm.map Prod.snd).symm
  have hway : (underWay [] s).Perm ((s.timers.filter ended).map Prod.snd ++
      ((s.timers.filter (not ∘ ended)).map Prod.snd ++ line [] s)) := by
    rw [underWay, hready, List.nil_append, List.nil_append, ← List.append_assoc]
    exact hsplit.append_right _
  have hnone : (s.timers.filter ended) ≠ [] := fun hnil => by
    obtain ⟨⟨time, j⟩, hj, rfl⟩ := List.mem_map.1 (List.min?_mem hdue)
    have : (time, j) ∈ s.timers.filter ended := List.mem_filter.2 ⟨hj, by simp [ended]⟩
    simp [hnil] at this
  refine ⟨⟨hs.regular.run _, hs.length_eq, hs.of_perm (hway.append_left _),
    hs.active_eq.trans hway.length_eq, hs.upcoming_idle, fun j hj => ?_,
    fun j hj => hs.timed j (hsplit.mem_iff.2 (List.mem_append_right _ hj)), hs.unasked,
    fun j hj hr hp => ?_, fun j hj l hp => ?_, fun j hj l hp => ?_, hs.kept⟩, ?_⟩
  · obtain ⟨l, hl⟩ := hs.timed j (hsplit.mem_iff.2 (List.mem_append_left _ hj))
    show (s.calls.phase j).isOpen = true
    rw [hl]
    rfl
  · refine (hs.idle_listed j hj hr hp).imp_right fun h => ?_
    simp [hready] at h
  · have := hs.granted_listed j hj l hp
    simp [hready] at this
  · have := hs.generating_listed j hj l hp
    rw [hready] at this
    exact List.mem_append.1 (hsplit.mem_iff.1 (this.resolve_left List.not_mem_nil))
  · have hsum : (((s.timers.filter ended).map Prod.snd).map fun j => (s.calls.phase j).turns).sum =
        1 * ((s.timers.filter ended).map Prod.snd).length := sum_turns fun j hj => by
      obtain ⟨l, hl⟩ := hs.timed j (hsplit.mem_iff.2 (List.mem_append_left _ hj))
      rw [hl, Phase.turns]
    have hlength := hperm.length_eq
    have hpos := List.length_pos_iff.2 hnone
    rw [List.length_append] at hlength
    rw [List.length_map] at hsum
    show 4 * s.upcoming.length + (((s.timers.filter ended).map Prod.snd).map
      fun j => (s.calls.phase j).turns).sum + 2 * (s.timers.filter (not ∘ ended)).length +
        3 * (line [] s).length < _
    rw [hsum, cost]
    omega

theorem Steady.queue_eq_nil (hs : Steady jobs [] s) (hready : s.ready = []) (htimers : s.timers = []) :
    s.calls.queue = [] := by
  refine List.eq_nil_iff_forall_not_mem.2 fun j hj => ?_
  obtain ⟨l, hl⟩ := (hs.regular.queued_iff j).1 hj
  obtain ⟨k, hk⟩ := hs.regular.held j l hl
  cases hphase : s.calls.phase k with
  | granted l' => simpa [hready] using hs.granted_listed k (by simp) l' hphase
  | generating l' => simpa [hready, htimers] using hs.generating_listed k (by simp) l' hphase
  | _ => simp [hphase, Phase.holds] at hk

/-- The loop goes on until all jobs have ended, if it has more turns than there is to
do. -/
theorem loop_done (limit fuel : Nat) (hlimit : 0 < limit) (hs : Steady jobs [] s)
    (hfuel : cost [] s < fuel) :
    Steady jobs [] (loop jobs limit fuel s) ∧ (loop jobs limit fuel s).upcoming = [] ∧
      (loop jobs limit fuel s).ready = [] ∧ (loop jobs limit fuel s).timers = [] := by
  induction fuel generalizing s with
  | zero => omega
  | succ fuel ih =>
    obtain ⟨htaken, hcost⟩ := hs.admit (limit - s.active)
    change Steady jobs [] (s.takeUp limit) at htaken
    change cost [] (s.takeUp limit) = cost [] s at hcost
    rw [loop]
    split
    · rename_i i rest hready
      obtain ⟨hwork, hless⟩ := htaken.work hready
      exact ih hwork (by omega)
    · rename_i hready
      split
      · rename_i t hwait
        obtain ⟨hnext, hless⟩ := htaken.wait hready hwait
        exact ih hnext (by omega)
      · rename_i hwait
        have htimers : s.timers = [] := by
          simpa [Schedule.wait, Schedule.takeUp] using hwait
        obtain ⟨hready', htake⟩ := List.append_eq_nil_iff.1 hready
        -- Nobody is under way, so there was room for all that are upcoming.
        have hactive : s.active = 0 := by
          rw [hs.active_eq, underWay, line_nil, hs.queue_eq_nil hready' htimers, hready', htimers]
          rfl
        have hupcoming : s.upcoming = [] := by
          rw [hactive] at htake
          rcases List.take_eq_nil_iff.1 htake with h | h
          · omega
          · exact h
        refine ⟨htaken, ?_, hready, htimers⟩
        show s.upcoming.drop (limit - s.active) = []
        rw [hupcoming, List.drop_nil]

theorem steady_initial (cache : Cache) (now : Nat) (jobs : List (Option Request)) :
    Steady jobs [] (initial cache now jobs) ∧
      cost [] (initial cache now jobs) = 4 * jobs.length := by
  have hidle : ∀ j < jobs.length, (initial cache now jobs).calls.phase j = .idle := by
    intro j hj
    simp [initial, Calls.ofKeys, Calls.phase, hj]
  have hphase := Calls.phase_ofKeys cache now (jobs.map fun job => (job.map Request.key).getD "")
  have hlt : ∀ {j : Nat} {p : Phase}, (initial cache now jobs).calls.phase j = p →
      p = .idle ∨ p = .dropped := fun {j p} h => h ▸ hphase j
  refine ⟨⟨Calls.regular_ofKeys _ _ _, by simp [initial, Calls.ofKeys], ?_, rfl, ?_, ?_, ?_, ?_, ?_,
    ?_, ?_, ?_⟩, ?_⟩
  · simp [underWay, line, initial, Calls.ofKeys, endedJobs]
  · exact fun j hj => hidle j (List.mem_range.1 hj)
  · exact fun j hj => absurd hj List.not_mem_nil
  · exact fun j hj => absurd hj List.not_mem_nil
  · exact fun j hj _ => hidle j hj
  · intro j _ hr _
    refine .inl (List.mem_range.2 ?_)
    exact Nat.lt_of_not_le fun h => hr (by simp [List.getElem?_eq_none h])
  · intro j _ l hp
    rcases hlt hp with h | h <;> cases h
  · intro j _ l hp
    rcases hlt hp with h | h <;> cases h
  · intro j hj hp
    rw [hidle j hj] at hp
    cases hp
  · simp [cost, line, initial, Calls.ofKeys]

/-- A run goes on until all jobs have ended. -/
theorem run_done (cache : Cache) (now limit : Nat) (jobs : List (Option Request)) :
    Steady jobs [] (run cache now limit jobs) ∧ (run cache now limit jobs).upcoming = [] ∧
      (run cache now limit jobs).ready = [] ∧ (run cache now limit jobs).timers = [] := by
  obtain ⟨hsteady, hcost⟩ := steady_initial cache now jobs
  exact loop_done (max limit 1) (4 * jobs.length + 1) (by omega) hsteady (by omega)

/-- Every job ends, once. -/
theorem endedJobs_run (cache : Cache) (now limit : Nat) (jobs : List (Option Request)) :
    (run cache now limit jobs).endedJobs.Perm (List.range jobs.length) := by
  obtain ⟨hs, hupcoming, hready, htimers⟩ := run_done cache now limit jobs
  have hnone : underWay [] (run cache now limit jobs) = [] := by
    rw [underWay, line_nil, hs.queue_eq_nil hready htimers, hready, htimers]
    rfl
  have hlisted := hs.listed
  rwa [hupcoming, hnone, List.append_nil, List.append_nil] at hlisted

/-- Every job with a request gets a result. -/
theorem finished_run (cache : Cache) (now limit : Nat) {jobs : List (Option Request)} {i : Nat}
    (hi : jobs[i]?.join ≠ none) :
    ∃ result, (run cache now limit jobs).calls.phase i = .finished result := by
  obtain ⟨hs, hupcoming, hready, htimers⟩ := run_done cache now limit jobs
  have hlen : i < jobs.length :=
    Nat.lt_of_not_le fun h => hi (by simp [List.getElem?_eq_none h])
  cases hphase : (run cache now limit jobs).calls.phase i with
  | finished result => exact ⟨result, rfl⟩
  | idle =>
    have := hs.idle_listed i (by simp) hi hphase
    simp only [hupcoming, hready, List.not_mem_nil, or_self] at this
  | queued l =>
    have := (hs.regular.queued_iff i).2 ⟨l, hphase⟩
    simp [hs.queue_eq_nil hready htimers] at this
  | granted l =>
    have := hs.granted_listed i (by simp) l hphase
    simp only [hready, List.not_mem_nil] at this
  | generating l =>
    have := hs.generating_listed i (by simp) l hphase
    simp only [hready, htimers, List.map_nil, List.not_mem_nil, or_self] at this
  | dropped => exact absurd hphase (hs.kept i hlen)

end Schedule

/-! ## Events that go by the requests -/

/-- Whether an event goes by the requests of jobs: only who has a request calls, and
its generation brings the answer to it. -/
def Event.Follows (jobs : List (Option Request)) : Event → Prop
  | start i => jobs[i]?.join ≠ none
  | finish i outcome => ∀ request, jobs[i]?.join = some request → outcome = request.answer.outcome
  | _ => True

/-- Callers that can come from others by events that go by the requests. -/
def Calls.Reaches (jobs : List (Option Request)) (s t : Calls) : Prop :=
  ∃ events : List Event, (∀ e ∈ events, e.Follows jobs) ∧ t = s.run events

namespace Schedule

open Calls (Reaches)

variable {jobs : List (Option Request)} {s : Schedule} {i : Nat} {request : Request}

theorem reaches_refl (s : Calls) : Reaches jobs s s :=
  ⟨[], by simp, rfl⟩

theorem reaches_trans {s t u : Calls} (h : Reaches jobs s t) (h' : Reaches jobs t u) :
    Reaches jobs s u := by
  obtain ⟨events, hevents, rfl⟩ := h
  obtain ⟨events', hevents', rfl⟩ := h'
  refine ⟨events ++ events', fun e he => ?_, (List.foldl_append ..).symm⟩
  rcases List.mem_append.1 he with he | he
  · exact hevents e he
  · exact hevents' e he

theorem reaches_happen (s : Schedule) (events : List Event) (h : ∀ e ∈ events, e.Follows jobs) :
    Reaches jobs s.calls (s.happen events).calls :=
  ⟨events, h, rfl⟩

theorem follows_finish (hi : jobs[i]?.join = some request) :
    (Event.finish i request.answer.outcome).Follows jobs := fun r hr => by
  rw [hi] at hr
  cases hr
  rfl

theorem reaches_followUp (s : Schedule) (hi : jobs[i]?.join = some request) :
    Reaches jobs s.calls (s.followUp i request.answer).calls := by
  rw [followUp]
  split
  · exact reaches_refl _
  · split
    · exact reaches_happen (s.mark (.asked i)) _ (by simpa using follows_finish hi)
    · exact reaches_refl _
  · exact reaches_refl _

theorem reaches_work (s : Schedule) (i : Nat) : Reaches jobs s.calls (work jobs s i).calls := by
  rw [work]
  split
  · exact reaches_refl _
  · rename_i request hi
    split
    · have hcall : ∀ e ∈ Event.call i, e.Follows jobs := by
        simp [Event.call, Event.Follows, hi]
      exact reaches_trans (reaches_happen (s.mark (.started i)) _ hcall) (reaches_followUp _ hi)
    · exact reaches_trans (reaches_happen s [.resume i] (by simp [Event.Follows]))
        (reaches_followUp _ hi)
    · exact reaches_happen s _ (by simpa using follows_finish hi)
    · exact reaches_refl _

theorem reaches_loop (limit fuel : Nat) (s : Schedule) :
    Reaches jobs s.calls (loop jobs limit fuel s).calls := by
  induction fuel generalizing s with
  | zero => exact reaches_refl _
  | succ fuel ih =>
    rw [loop]
    split
    · rename_i i rest _
      exact reaches_trans (reaches_work { s.takeUp limit with ready := rest } i) (ih _)
    · split
      · rename_i t hwait
        obtain ⟨due, -, rfl⟩ := Option.map_eq_some_iff.1 hwait
        exact reaches_trans
          (reaches_happen (s.takeUp limit) [.pass _] (by simp [Event.Follows])) (ih _)
      · exact reaches_refl _

/-- The callers of a run come to their results by events that go by the requests. -/
theorem reaches_run (cache : Cache) (now limit : Nat) (jobs : List (Option Request)) :
    Reaches jobs (initial cache now jobs).calls (run cache now limit jobs).calls :=
  reaches_loop _ _ _

end Schedule
end Gloss.Cache
