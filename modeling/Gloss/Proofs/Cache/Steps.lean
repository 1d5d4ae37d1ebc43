import Gloss.Proofs.Cache.Locks
import Gloss.Proofs.Cache.Lookup

/-!
# What events do to callers

`Calls.Step` lists all that an event can do, with the conditions under which it
happens, and proofs about callers go by its cases: `Step.of_step` says that every
event that can happen is one of them. It relies on callers that are in order and
use locks exactly if the cache keeps anything (`Calls.Regular`), which each step
keeps (`Step.regular`), and so each run (`Regular.run`).
-/

namespace Gloss.Cache

open Gloss.Generation (Failure)

/-- The caller that moves in an event. -/
def Event.caller? : Event → Option Nat
  | start i | resume i | finish i _ | abandon i => some i
  | pass _ => none

namespace Calls

variable {s t : Calls} {i j lock : Nat} {event : Event}

/-- Callers that are in order, with locks exactly if the cache keeps anything. -/
structure Regular (s : Calls) : Prop extends Orderly s where
  unlocked : s.cache.enabled = false → ∀ j, (s.phase j).lock? = none
  locked : s.cache.enabled = true → ∀ j, s.phase j ≠ .generating none

/-! ## The cases of a step -/

/-- The callers after one of them has read a value. -/
def reading (s : Calls) (i : Nat) (entry : Entry) : Calls :=
  s.withCache (s.cache.put (s.key i) { entry with lastAccess := s.now })

/-- The callers after one of them has found no value. -/
def missing (s : Calls) (i : Nat) : Calls :=
  s.withCache (s.cache.erase (s.key i))

@[simp] theorem phase_reading (s : Calls) (i : Nat) (entry : Entry) (j : Nat) :
    (s.reading i entry).phase j = s.phase j := rfl

@[simp] theorem phase_missing (s : Calls) (i j : Nat) : (s.missing i).phase j = s.phase j := rfl

theorem Orderly.reading (hs : s.Orderly) (i : Nat) (entry : Entry) :
    (s.reading i entry).Orderly :=
  hs.withCache _

theorem Orderly.missing (hs : s.Orderly) (i : Nat) : (s.missing i).Orderly :=
  hs.withCache _

/-- What an event does. -/
inductive Step (s : Calls) : Event → Calls → Prop where
  /-- A caller calls and finds its value. -/
  | hit {i : Nat} {entry : Entry} (hphase : s.phase i = .idle) (he : s.cache.enabled = true)
      (hfind : s.cache.find? (s.key i) = some entry)
      (hfresh : s.cache.isFresh s.now entry = true) :
      Step s (.start i) ((s.reading i entry).setPhase i (.finished (.ok (entry.value, true))))
  /-- A caller calls, finds nothing, and makes a lock for its key. -/
  | claim {i : Nat} (hphase : s.phase i = .idle) (he : s.cache.enabled = true)
      (hstale : s.cache.Stale s.now (s.key i)) (hkey : s.inFlight.lookup (s.key i) = none) :
      Step s (.start i)
        (((s.missing i).newLock (s.key i)).setPhase i (.granted s.nextLock))
  /-- A caller calls, finds nothing, and waits for the lock of its key. -/
  | join {i lock : Nat} (hphase : s.phase i = .idle) (he : s.cache.enabled = true)
      (hstale : s.cache.Stale s.now (s.key i)) (hkey : s.inFlight.lookup (s.key i) = some lock) :
      Step s (.start i)
        { (s.missing i).setPhase i (.queued lock) with queue := s.queue ++ [i] }
  /-- A caller of a cache that keeps nothing generates at once. -/
  | bypass {i : Nat} (hphase : s.phase i = .idle) (he : s.cache.enabled = false) :
      Step s (.start i) (s.setPhase i (.generating none))
  /-- A caller that has its lock finds its value. -/
  | late {i lock : Nat} {entry : Entry} (hphase : s.phase i = .granted lock)
      (he : s.cache.enabled = true) (hfind : s.cache.find? (s.key i) = some entry)
      (hfresh : s.cache.isFresh s.now entry = true) :
      Step s (.resume i)
        (((s.reading i entry).setPhase i (.finished (.ok (entry.value, true)))).release lock)
  /-- A caller that has its lock finds nothing, and generates. -/
  | generate {i lock : Nat} (hphase : s.phase i = .granted lock) (he : s.cache.enabled = true)
      (hstale : s.cache.Stale s.now (s.key i)) :
      Step s (.resume i) ((s.missing i).setPhase i (.generating (some lock)))
  /-- A generation brings a value. -/
  | store {i : Nat} {lock : Option Nat} {value : String} (hphase : s.phase i = .generating lock) :
      Step s (.finish i (.ok value))
        (((s.withCache (s.cache.insert s.now (s.key i) value)).setPhase i
          (.finished (.ok (value, false)))).releaseAll lock)
  /-- A generation fails. -/
  | fail {i : Nat} {lock : Option Nat} {failure : Failure}
      (hphase : s.phase i = .generating lock) :
      Step s (.finish i (.error failure))
        ((s.setPhase i (.finished (.error failure))).releaseAll lock)
  /-- A caller that waits for a lock is given up. -/
  | leaveLine {i lock : Nat} (hphase : s.phase i = .queued lock) :
      Step s (.abandon i) { s.setPhase i .dropped with queue := s.queue.erase i }
  /-- A caller that holds a lock is given up. -/
  | leaveLock {i lock : Nat} (hholds : (s.phase i).holds lock = true) :
      Step s (.abandon i) ((s.setPhase i .dropped).release lock)
  /-- A caller that generates without a lock is given up. -/
  | leaveBypass {i : Nat} (hphase : s.phase i = .generating none) :
      Step s (.abandon i) (s.setPhase i .dropped)
  | pass (time : Nat) : Step s (.pass time) { s with now := s.now + time }

theorem Step.of_start (hs : s.Orderly) (hphase : s.phase i = .idle)
    (he : s.cache.enabled = true) : Step s (.start i) (s.start i) := by
  rcases fresh_or_stale s.cache s.now (s.key i) with ⟨entry, hfind, hfresh⟩ | hstale
  · have heq : s.start i =
        (s.reading i entry).setPhase i (.finished (.ok (entry.value, true))) := by
      simp [start, he, get_of_fresh he hfind hfresh, reading, withCache]
    exact heq ▸ .hit hphase he hfind hfresh
  · have heq : s.start i =
        if ((s.missing i).lockOf (s.key i)).2.isFree ((s.missing i).lockOf (s.key i)).1 then
          ((s.missing i).lockOf (s.key i)).2.setPhase i
            (.granted ((s.missing i).lockOf (s.key i)).1)
        else { ((s.missing i).lockOf (s.key i)).2.setPhase i
            (.queued ((s.missing i).lockOf (s.key i)).1) with
          queue := ((s.missing i).lockOf (s.key i)).2.queue ++ [i] } := by
      simp only [start, he, get_of_stale he hstale]
      rfl
    have hmissing : (s.missing i).Orderly := hs.withCache _
    rcases lockOf_cases (s.missing i) (s.key i) with ⟨lock, hkey, hlock⟩ | ⟨hkey, hlock⟩
    · rw [heq, hlock, if_neg (by simp [hmissing.isFree_eq_false hkey])]
      exact .join hphase he hstale hkey
    · rw [heq, hlock, if_pos (hmissing.isFree_nextLock (s.key i))]
      exact .claim hphase he hstale hkey

theorem Step.of_enter (hphase : s.phase i = .granted lock) (he : s.cache.enabled = true) :
    Step s (.resume i) (s.enter i lock) := by
  rcases fresh_or_stale s.cache s.now (s.key i) with ⟨entry, hfind, hfresh⟩ | hstale
  · have heq : s.enter i lock =
        ((s.reading i entry).setPhase i (.finished (.ok (entry.value, true)))).release lock := by
      simp [enter, get_of_fresh he hfind hfresh, reading, withCache]
    exact heq ▸ .late hphase he hfind hfresh
  · have heq : s.enter i lock = (s.missing i).setPhase i (.generating (some lock)) := by
      simp [enter, get_of_stale he hstale, missing, withCache]
    exact heq ▸ .generate hphase he hstale

/-- Nobody else holds the lock of a caller that waits or generates: it is left to
those in line. -/
theorem Step.of_abandon (hs : s.Orderly) (hclaimed : (s.phase i).isClaimed = true) :
    Step s (.abandon i) (s.abandon i) := by
  have hilen : i < s.callers.length := lt_of_phase fun h => by simp [h, Phase.isClaimed] at hclaimed
  let r : Calls := { s.setPhase i .dropped with queue := s.queue.erase i }
  have hr : ∀ k, r.phase k = (s.setPhase i .dropped).phase k := fun _ => rfl
  have hany : ∀ l, (r.callers.any (·.phase.holds l)) = true ↔
      ∃ k, k ≠ i ∧ (s.phase k).holds l = true := by
    intro l
    refine (any_phase_iff (s := r) (f := fun p => p.holds l) rfl).trans (exists_congr fun k => ?_)
    rw [hr, holds_setPhase hilen rfl]
  cases hlock : (s.phase i).lock? with
  | none =>
    have hphase : s.phase i = .generating none := by
      cases hp : s.phase i <;> simp_all [Phase.isClaimed, Phase.lock?]
    have hnot : i ∉ s.queue := fun h => by
      obtain ⟨l, hl⟩ := (hs.queued_iff i).1 h
      simp [hphase] at hl
    have heq : s.abandon i = s.setPhase i .dropped := by
      simp [abandon, hlock, List.erase_of_not_mem hnot, setPhase]
    exact heq ▸ .leaveBypass hphase
  | some lock =>
    have habandon : s.abandon i =
        if r.callers.any (·.phase.holds lock) then r.retire lock else r.release lock := by
      simp only [abandon, hlock]
      rfl
    rcases Phase.lock?_cases hlock with hphase | hholds
    · obtain ⟨j, hj⟩ := hs.held i lock hphase
      have hji : j ≠ i := by
        rintro rfl
        simp [hphase, Phase.holds] at hj
      have hjr : (r.phase j).lock? = some lock := by
        rw [hr, lock?_setPhase hilen rfl]
        exact ⟨hji, Phase.lock?_of_holds hj⟩
      rw [habandon, if_pos ((hany lock).2 ⟨j, hji, hj⟩), retire_of_lock? hjr]
      exact .leaveLine hphase
    · have hnot : i ∉ s.queue := fun h => by
        obtain ⟨l, hl⟩ := (hs.queued_iff i).1 h
        simp [hl, Phase.holds] at hholds
      have hrs : r = s.setPhase i .dropped := by
        simp only [r, List.erase_of_not_mem hnot]
        rfl
      rw [habandon, if_neg, hrs]
      · exact .leaveLock hholds
      · rw [hany]
        rintro ⟨k, hki, hk⟩
        exact hki (hs.exclusive k i lock hk hholds)

/-- Every event that can happen is one of the cases. -/
theorem Step.of_step (hs : s.Regular) (h : s.step event = some t) : Step s event t := by
  cases event with
  | start i =>
    rw [step] at h
    split at h
    · rename_i hphase
      cases h
      cases he : s.cache.enabled with
      | false =>
        have heq : s.start i = s.setPhase i (.generating none) := by simp [start, he]
        exact heq ▸ .bypass hphase he
      | true => exact of_start hs.toOrderly hphase he
    · cases h
  | resume i =>
    rw [step] at h
    split at h
    · rename_i lock hphase
      cases h
      have he : s.cache.enabled = true := by
        cases he : s.cache.enabled with
        | true => rfl
        | false => simpa [hphase, Phase.lock?] using hs.unlocked he i
      exact of_enter hphase he
    · cases h
  | finish i outcome =>
    rw [step] at h
    split at h
    · rename_i lock hphase
      cases h
      cases outcome with
      | ok value => exact .store hphase
      | error failure => exact .fail hphase
    · cases h
  | abandon i =>
    have hclaimed : (s.phase i).isClaimed = true ∧ t = s.abandon i := by
      rw [step] at h
      split at h <;> cases h <;> simp_all [Phase.isClaimed]
    rw [hclaimed.2]
    exact of_abandon hs.toOrderly hclaimed.1
  | pass time =>
    cases h
    exact .pass time

/-! ## What a step leaves alone -/

theorem release_frame (s : Calls) (lock : Nat) :
    (s.release lock).cache = s.cache ∧ (s.release lock).now = s.now ∧
      ∀ j, (s.release lock).key j = s.key j := by
  rcases release_cases s lock with ⟨j, -, hj, heq⟩ | ⟨-, heq⟩
  · rw [heq]
    exact ⟨rfl, rfl, key_setPhase s j _⟩
  · rw [heq, retire]
    split <;> exact ⟨rfl, rfl, fun _ => rfl⟩

theorem releaseAll_frame (s : Calls) (lock : Option Nat) :
    (s.releaseAll lock).cache = s.cache ∧ (s.releaseAll lock).now = s.now ∧
      ∀ j, (s.releaseAll lock).key j = s.key j := by
  cases lock with
  | none => exact ⟨rfl, rfl, fun _ => rfl⟩
  | some lock => exact release_frame s lock

/-- A lock that is passed on gives one caller its lock, and does no more. -/
theorem phase_release (s : Calls) (lock j : Nat) :
    (s.release lock).phase j = s.phase j ∨
      (s.phase j = .queued lock ∧ (s.release lock).phase j = .granted lock) := by
  rcases release_cases s lock with ⟨i, -, hi, heq⟩ | ⟨-, heq⟩
  · have hphase : (s.release lock).phase j = (s.setPhase i (.granted lock)).phase j := by
      rw [heq]
      rfl
    by_cases hj : j = i
    · right
      rw [hphase, hj, phase_setPhase_self (lt_of_phase (by simp [hi]))]
      exact ⟨hi, rfl⟩
    · left
      rw [hphase, phase_setPhase_of_ne hj]
  · left
    rw [heq, retire]
    split <;> rfl

theorem phase_releaseAll (s : Calls) (lock : Option Nat) (j : Nat) :
    (s.releaseAll lock).phase j = s.phase j ∨
      ∃ l, s.phase j = .queued l ∧ (s.releaseAll lock).phase j = .granted l := by
  cases lock with
  | none => exact .inl rfl
  | some lock => exact (phase_release s lock j).imp_right fun h => ⟨lock, h⟩

theorem Step.key_eq (h : Step s event t) (j : Nat) : t.key j = s.key j := by
  cases h with
  | hit | claim | bypass | generate | leaveBypass => exact key_setPhase _ _ _ j
  | join | leaveLine => exact key_setPhase _ _ _ j
  | late => exact ((release_frame _ _).2.2 j).trans (key_setPhase _ _ _ j)
  | store => exact ((releaseAll_frame _ _).2.2 j).trans (key_setPhase _ _ _ j)
  | fail => exact ((releaseAll_frame _ _).2.2 j).trans (key_setPhase _ _ _ j)
  | leaveLock => exact ((release_frame _ _).2.2 j).trans (key_setPhase _ _ _ j)
  | pass => rfl

/-- What a step does to the cache. -/
theorem Step.cache_cases (h : Step s event t) :
    t.cache = s.cache ∨
    (∃ i entry, s.cache.find? (s.key i) = some entry ∧
      t.cache = s.cache.put (s.key i) { entry with lastAccess := s.now }) ∨
    (∃ i, s.cache.Stale s.now (s.key i) ∧ t.cache = s.cache.erase (s.key i)) ∨
    (∃ i lock value, event = .finish i (.ok value) ∧ s.phase i = .generating lock ∧
      t.cache = s.cache.insert s.now (s.key i) value) := by
  cases h with
  | hit _ _ hfind => exact .inr (.inl ⟨_, _, hfind, rfl⟩)
  | late _ _ hfind => exact .inr (.inl ⟨_, _, hfind, (release_frame _ _).1⟩)
  | claim _ _ hstale | join _ _ hstale | generate _ _ hstale =>
    exact .inr (.inr (.inl ⟨_, hstale, rfl⟩))
  | store hphase => exact .inr (.inr (.inr ⟨_, _, _, rfl, hphase, (releaseAll_frame _ _).1⟩))
  | fail => exact .inl (releaseAll_frame _ _).1
  | leaveLock => exact .inl (release_frame _ _).1
  | bypass | leaveLine | leaveBypass | pass => exact .inl rfl

theorem Step.enabled_eq (h : Step s event t) : t.cache.enabled = s.cache.enabled := by
  rcases h.cache_cases with heq | ⟨_, _, -, heq⟩ | ⟨_, -, heq⟩ | ⟨_, _, _, -, -, heq⟩
  · rw [heq]
  · rw [heq]
    rfl
  · rw [heq]
    rfl
  · rw [heq, insert]
    split <;> rfl

/-! ## Who has moved -/

theorem phase_setPhase_cases {p q : Phase} (h : (s.setPhase i p).phase j = q) :
    (j = i ∧ p = q) ∨ s.phase j = q := by
  by_cases hj : j = i
  · by_cases hi : i < s.callers.length
    · exact .inl ⟨hj, by rw [← h, hj, phase_setPhase_self hi]⟩
    · right
      rw [← h, setPhase, List.modify_eq_self (Nat.le_of_not_lt hi)]
  · exact .inr ((phase_setPhase_of_ne hj p).symm.trans h)

theorem phase_of_release {q : Phase} (h : (s.release lock).phase j = q)
    (hq : ∀ l, q ≠ .granted l) : s.phase j = q := by
  rcases phase_release s lock j with heq | ⟨-, heq⟩
  · exact heq.symm.trans h
  · exact absurd (h.symm.trans heq) (hq lock)

theorem phase_of_releaseAll {l : Option Nat} {q : Phase} (h : (s.releaseAll l).phase j = q)
    (hq : ∀ l, q ≠ .granted l) : s.phase j = q := by
  cases l with
  | none => exact h
  | some l => exact phase_of_release h hq

theorem length_release (s : Calls) (lock : Nat) :
    (s.release lock).callers.length = s.callers.length := by
  rcases release_cases s lock with ⟨i, -, -, heq⟩ | ⟨-, heq⟩
  · rw [heq]
    exact length_setPhase s i _
  · rw [heq, retire]
    split <;> rfl

theorem length_releaseAll (s : Calls) (lock : Option Nat) :
    (s.releaseAll lock).callers.length = s.callers.length := by
  cases lock with
  | none => rfl
  | some lock => exact length_release s lock

theorem Step.length_eq (h : Step s event t) : t.callers.length = s.callers.length := by
  cases h with
  | hit | claim | bypass | generate | leaveBypass => exact length_setPhase _ _ _
  | join | leaveLine => exact length_setPhase _ _ _
  | late | leaveLock => exact (length_release _ _).trans (length_setPhase _ _ _)
  | store | fail => exact (length_releaseAll _ _).trans (length_setPhase _ _ _)
  | pass => rfl

/-- To other callers a step does no more than give one of them the lock for which it
waits. -/
theorem Step.phase_of_ne (h : Step s event t) (hj : event.caller? ≠ some j) :
    t.phase j = s.phase j ∨
      ∃ lock, s.phase j = .queued lock ∧ t.phase j = .granted lock := by
  have hset : ∀ {r : Calls} {i : Nat} {p : Phase}, some i ≠ some j →
      (r.setPhase i p).phase j = r.phase j :=
    fun hi => phase_setPhase_of_ne (fun heq => hi (congrArg some heq.symm)) _
  cases h with
  | hit | claim | bypass | generate | leaveBypass => exact .inl (hset hj)
  | join | leaveLine => exact .inl (hset hj)
  | late | leaveLock =>
    rw [← hset (r := s) hj]
    exact (phase_release _ _ j).imp_right fun h => ⟨_, h⟩
  | store | fail =>
    rw [← hset (r := s) hj]
    exact phase_releaseAll _ _ j
  | pass => exact .inl rfl

/-- A caller that ends has found a value, or its generation has ended. -/
theorem Step.finished_cases (h : Step s event t) {result : Result}
    (ht : t.phase j = .finished result) (hs : s.phase j ≠ .finished result) :
    (∃ entry, s.cache.find? (s.key j) = some entry ∧ s.cache.isFresh s.now entry = true ∧
      result = .ok (entry.value, true)) ∨
    (∃ lock outcome, event = .finish j outcome ∧ s.phase j = .generating lock ∧
      (result = outcome.map fun value => (value, false)) ∧
      ∀ value, outcome = .ok value → t.cache = s.cache.insert s.now (s.key j) value) := by
  have hq : ∀ l, Phase.finished result ≠ .granted l := fun l hl => by cases hl
  cases h with
  | hit _ _ hfind hfresh =>
    rcases phase_setPhase_cases ht with ⟨rfl, hp⟩ | hp
    · cases hp
      exact .inl ⟨_, hfind, hfresh, rfl⟩
    · exact absurd hp hs
  | late _ _ hfind hfresh =>
    rcases phase_setPhase_cases (phase_of_release ht hq) with ⟨rfl, hp⟩ | hp
    · cases hp
      exact .inl ⟨_, hfind, hfresh, rfl⟩
    · exact absurd hp hs
  | store hphase =>
    rcases phase_setPhase_cases (phase_of_releaseAll ht hq) with ⟨rfl, hp⟩ | hp
    · cases hp
      refine .inr ⟨_, _, rfl, hphase, rfl, fun value hvalue => ?_⟩
      cases hvalue
      exact (releaseAll_frame _ _).1
    · exact absurd hp hs
  | fail hphase =>
    rcases phase_setPhase_cases (phase_of_releaseAll ht hq) with ⟨rfl, hp⟩ | hp
    · cases hp
      refine .inr ⟨_, _, rfl, hphase, rfl, fun value hvalue => ?_⟩
      cases hvalue
    · exact absurd hp hs
  | claim | join | bypass | generate | leaveLine | leaveBypass =>
    rcases phase_setPhase_cases ht with ⟨-, hp⟩ | hp
    · cases hp
    · exact absurd hp hs
  | leaveLock =>
    rcases phase_setPhase_cases (phase_of_release ht hq) with ⟨-, hp⟩ | hp
    · cases hp
    · exact absurd hp hs
  | pass => exact absurd ht hs

/-- A caller that begins to generate has found nothing, unless nothing is kept. -/
theorem Step.generating_cases (h : Step s event t) {lock : Option Nat}
    (ht : t.phase j = .generating lock) (hs : s.phase j ≠ .generating lock) :
    (lock = none ∧ s.cache.enabled = false) ∨
    (∃ l, lock = some l ∧ event = .resume j ∧ s.phase j = .granted l ∧
      s.cache.enabled = true ∧ s.cache.Stale s.now (s.key j)) := by
  have hq : ∀ l, Phase.generating lock ≠ .granted l := fun l hl => by cases hl
  cases h with
  | bypass _ he =>
    rcases phase_setPhase_cases ht with ⟨-, hp⟩ | hp
    · cases hp
      exact .inl ⟨rfl, he⟩
    · exact absurd hp hs
  | generate hphase he hstale =>
    rcases phase_setPhase_cases ht with ⟨rfl, hp⟩ | hp
    · cases hp
      exact .inr ⟨_, rfl, rfl, hphase, he, hstale⟩
    · exact absurd hp hs
  | hit | claim | join | leaveLine | leaveBypass =>
    rcases phase_setPhase_cases ht with ⟨-, hp⟩ | hp
    · cases hp
    · exact absurd hp hs
  | late | leaveLock =>
    rcases phase_setPhase_cases (phase_of_release ht hq) with ⟨-, hp⟩ | hp
    · cases hp
    · exact absurd hp hs
  | store | fail =>
    rcases phase_setPhase_cases (phase_of_releaseAll ht hq) with ⟨-, hp⟩ | hp
    · cases hp
    · exact absurd hp hs
  | pass => exact absurd ht hs

/-! ## Runs -/

/-- A caller that has not called ends at once. -/
theorem Orderly.endAtOnce (hs : s.Orderly) (hphase : s.phase i = .idle) {p : Phase}
    (hp : p.lock? = none) : (s.setPhase i p).Orderly :=
  hs.setPhase_of_unlocked (lt_of_phase (by simp [hphase])) (by simp [hphase, Phase.lock?]) hp

/-- A caller that generates ends. -/
theorem Orderly.endGeneration (hs : s.Orderly) {lock : Option Nat}
    (hphase : s.phase i = .generating lock) {p : Phase} (hp : p.lock? = none) :
    ((s.setPhase i p).releaseAll lock).Orderly := by
  cases lock with
  | none =>
    exact hs.setPhase_of_unlocked (lt_of_phase (by simp [hphase])) (by simp [hphase, Phase.lock?]) hp
  | some lock => exact hs.leave (by simp [hphase, Phase.holds]) hp

theorem Step.orderly (h : Step s event t) (hs : s.Orderly) : t.Orderly := by
  cases h with
  | @hit i entry hphase => exact (hs.reading i entry).endAtOnce hphase rfl
  | @claim i hphase _ _ hkey => exact (hs.missing i).claim hphase hkey
  | @join i lock hphase _ _ hkey => exact (hs.missing i).join hphase hkey
  | bypass hphase => exact hs.endAtOnce hphase rfl
  | @late i lock entry hphase =>
    exact (hs.reading i entry).leave (by simp [hphase, Phase.holds]) rfl
  | @generate i lock hphase =>
    have hi : i < (s.missing i).callers.length := lt_of_phase (s := s) (by simp [hphase])
    exact (hs.missing i).setPhase hi (by simp [hphase, Phase.lock?]) (by simp [hphase, Phase.holds])
      (by simp [hphase])
  | @store i lock value hphase =>
    exact (hs.withCache (s.cache.insert s.now (s.key i) value)).endGeneration hphase rfl
  | fail hphase => exact hs.endGeneration hphase rfl
  | leaveLine hphase => exact hs.leave_line hphase rfl
  | leaveLock hholds => exact hs.leave hholds rfl
  | @leaveBypass i hphase => exact hs.endGeneration hphase (p := .dropped) rfl
  | pass time =>
    exact hs.congr (fun _ => rfl) (fun _ => rfl) (fun _ _ => rfl) (fun _ _ => .rfl) rfl rfl rfl

/-- Where nothing is kept, nobody comes to have a lock. -/
theorem Step.lock?_eq_none (h : Step s event t) (he : s.cache.enabled = false)
    (hs : ∀ j, (s.phase j).lock? = none) (j : Nat) : (t.phase j).lock? = none := by
  have hset : ∀ {i : Nat} {p : Phase}, p.lock? = none → ((s.setPhase i p).phase j).lock? = none := by
    intro i p hp
    rcases phase_setPhase_cases (s := s) (i := i) (p := p) (j := j) rfl with ⟨-, heq⟩ | heq
    · rw [← heq, hp]
    · rw [← heq, hs]
  have hnone : ∀ {i : Nat} {lock : Option Nat}, s.phase i = .generating lock → lock = none := by
    intro i lock hphase
    simpa [hphase, Phase.lock?] using hs i
  cases h with
  | hit _ he' | claim _ he' | join _ he' | late _ he' | generate _ he' =>
    rw [he] at he'
    cases he'
  | bypass => exact hset rfl
  | store hphase =>
    rw [hnone hphase]
    exact hset (p := .finished _) rfl
  | fail hphase =>
    rw [hnone hphase]
    exact hset rfl
  | @leaveLine i lock hphase =>
    have := hs i
    simp [hphase, Phase.lock?] at this
  | @leaveLock i lock hholds =>
    have := hs i
    simp [Phase.lock?_of_holds hholds] at this
  | leaveBypass => exact hset rfl
  | pass => exact hs j

theorem Step.regular (h : Step s event t) (hs : s.Regular) : t.Regular where
  toOrderly := h.orderly hs.toOrderly
  unlocked he := h.lock?_eq_none (h.enabled_eq ▸ he) (hs.unlocked (h.enabled_eq ▸ he))
  locked he j ht := by
    rw [h.enabled_eq] at he
    rcases h.generating_cases ht (hs.locked he j) with ⟨-, hoff⟩ | ⟨l, hl, -⟩
    · rw [he] at hoff
      cases hoff
    · cases hl

theorem phase_ofKeys (cache : Cache) (now : Nat) (keys : List String) (j : Nat) :
    (ofKeys cache now keys).phase j = .idle ∨ (ofKeys cache now keys).phase j = .dropped := by
  simp only [phase, ofKeys, List.getElem?_map]
  cases keys[j]? with
  | none => exact .inr rfl
  | some key => exact .inl rfl

theorem regular_ofKeys (cache : Cache) (now : Nat) (keys : List String) :
    (ofKeys cache now keys).Regular := by
  have hlock : ∀ j, ((ofKeys cache now keys).phase j).lock? = none := fun j => by
    rcases phase_ofKeys cache now keys j with h | h <;> rw [h] <;> rfl
  have hholds : ∀ j l, ((ofKeys cache now keys).phase j).holds l ≠ true := fun j l h => by
    simp [Phase.holds_of_lock? (hlock j)] at h
  have hqueued : ∀ j l, (ofKeys cache now keys).phase j ≠ .queued l := fun j l h => by
    simpa [h, Phase.lock?] using hlock j
  refine ⟨⟨fun j l h => ?_, fun p hp => ?_, fun p hp => ?_, .nil, .nil, fun j _ l h => ?_,
    fun j l h => ?_, fun j => ?_, .nil⟩, fun _ => hlock, fun _ j h => ?_⟩
  · simp [hlock] at h
  · cases hp
  · cases hp
  · exact absurd h (hholds j l)
  · exact absurd h (hqueued j l)
  · constructor
    · intro h
      cases h
    · rintro ⟨l, h⟩
      exact absurd h (hqueued j l)
  · rcases phase_ofKeys cache now keys j with h' | h' <;> rw [h'] at h <;> cases h

/-- What every step of callers keeps holds after each run of theirs. -/
theorem Regular.run_induction {motive : Calls → Prop} (hs : s.Regular) (hstart : motive s)
    (events : List Event)
    (hstep : ∀ {s t : Calls}, ∀ event ∈ events, s.Regular → Step s event t → motive s → motive t) :
    (s.run events).Regular ∧ motive (s.run events) := by
  induction events generalizing s with
  | nil => exact ⟨hs, hstart⟩
  | cons event events ih =>
    show ((s.attempt event).run events).Regular ∧ motive ((s.attempt event).run events)
    have hrest : ∀ {s t : Calls}, ∀ event ∈ events, s.Regular → Step s event t → motive s → motive t :=
      fun e he => hstep e (List.mem_cons_of_mem event he)
    cases h : s.step event with
    | none =>
      rw [attempt, h]
      exact ih hs hstart hrest
    | some t =>
      have ht := Step.of_step hs h
      rw [attempt, h]
      exact ih (ht.regular hs) (hstep event List.mem_cons_self hs ht hstart) hrest

theorem Regular.run (hs : s.Regular) (events : List Event) : (s.run events).Regular :=
  (hs.run_induction (motive := fun _ => True) trivial events fun _ _ _ _ _ => trivial).1

end Calls
end Gloss.Cache
