import Gloss.Cache.Calls
import Mathlib.Data.List.Nodup

/-!
# Locks of the callers

Callers keep order (`Calls.Orderly`): those that have claimed a lock find it
under their key, every lock in use is claimed, and no two callers hold one. What
a caller can do to its lock keeps this order: it makes a lock (`Orderly.claim`),
joins the line for one (`Orderly.join`), leaves the line (`Orderly.leave_line`),
or leaves its lock, which is then passed on or forgotten (`Orderly.leave`).
-/

namespace Gloss.Cache

namespace Calls

variable {s : Calls} {i j lock : Nat} {p : Phase}

/-! ## Phases -/

theorem lt_of_phase (h : s.phase i ≠ .dropped) : i < s.callers.length := by
  refine Decidable.byContradiction fun hi => h ?_
  rw [phase, List.getElem?_eq_none (Nat.le_of_not_lt hi)]
  rfl

theorem phase_setPhase_self (hi : i < s.callers.length) (p : Phase) :
    (s.setPhase i p).phase i = p := by
  simp [phase, setPhase, hi]

theorem phase_setPhase_of_ne (h : j ≠ i) (p : Phase) : (s.setPhase i p).phase j = s.phase j := by
  simp [phase, setPhase, Ne.symm h]

@[simp] theorem key_setPhase (s : Calls) (i : Nat) (p : Phase) (j : Nat) :
    (s.setPhase i p).key j = s.key j := by
  simp only [key, setPhase, List.getElem?_modify]
  cases s.callers[j]? with
  | none => rfl
  | some c => by_cases h : i = j <;> simp [h]

@[simp] theorem length_setPhase (s : Calls) (i : Nat) (p : Phase) :
    (s.setPhase i p).callers.length = s.callers.length := by
  simp [setPhase]

@[simp] theorem inFlight_setPhase (s : Calls) (i : Nat) (p : Phase) :
    (s.setPhase i p).inFlight = s.inFlight := rfl

@[simp] theorem nextLock_setPhase (s : Calls) (i : Nat) (p : Phase) :
    (s.setPhase i p).nextLock = s.nextLock := rfl

@[simp] theorem cache_setPhase (s : Calls) (i : Nat) (p : Phase) :
    (s.setPhase i p).cache = s.cache := rfl

@[simp] theorem now_setPhase (s : Calls) (i : Nat) (p : Phase) :
    (s.setPhase i p).now = s.now := rfl

@[simp] theorem queue_setPhase (s : Calls) (i : Nat) (p : Phase) :
    (s.setPhase i p).queue = s.queue := rfl

/-- A test of phases that fails for dropped callers is met by a caller of the list
if it is met by the phase of a number. -/
theorem any_phase_iff {f : Phase → Bool} (h : f .dropped = false) :
    (s.callers.any fun c => f c.phase) = true ↔ ∃ j, f (s.phase j) = true := by
  rw [List.any_eq_true]
  constructor
  · rintro ⟨c, hc, hf⟩
    obtain ⟨j, hj⟩ := List.mem_iff_getElem?.1 hc
    exact ⟨j, by simpa [phase, hj] using hf⟩
  · rintro ⟨j, hf⟩
    have hj : j < s.callers.length :=
      lt_of_phase fun hdropped => by simp [hdropped, h] at hf
    refine ⟨s.callers[j], List.getElem_mem hj, ?_⟩
    simpa [phase, hj] using hf

theorem isFree_iff :
    s.isFree lock = true ↔
      ∀ j, (s.phase j).holds lock = false ∧ (s.phase j).awaits lock = false := by
  have hany : s.isFree lock = !s.callers.any fun c => c.phase.holds lock || c.phase.awaits lock := by
    simp [isFree, List.not_any_eq_all_not]
  rw [hany, Bool.not_eq_true', ← Bool.not_eq_true,
    any_phase_iff (f := fun p => p.holds lock || p.awaits lock) rfl]
  simp

end Calls

/-- Whether a caller has claimed a lock, or generates, and has not finished. -/
def Phase.isClaimed : Phase → Bool
  | queued _ | granted _ | generating _ => true
  | _ => false

theorem Phase.isClaimed_of_lock? {p : Phase} {lock : Nat} (h : p.lock? = some lock) :
    p.isClaimed = true := by
  cases p <;> first | rfl | cases h

theorem Phase.lock?_of_holds {p : Phase} {lock : Nat} (h : p.holds lock = true) :
    p.lock? = some lock := by
  cases p with
  | granted l => simpa [holds, lock?] using h
  | generating l => simpa [holds, lock?] using h
  | _ => cases h

theorem Phase.eq_of_holds {p : Phase} {l l' : Nat} (h : p.holds l = true)
    (h' : p.holds l' = true) : l = l' :=
  Option.some.inj ((Phase.lock?_of_holds h).symm.trans (Phase.lock?_of_holds h'))

/-- Who has claimed a lock waits for it or holds it. -/
theorem Phase.lock?_cases {p : Phase} {lock : Nat} (h : p.lock? = some lock) :
    p = .queued lock ∨ p.holds lock = true := by
  cases p with
  | queued l => exact .inl (by simpa [lock?] using h)
  | granted l => simpa [lock?, holds] using h
  | generating l => simpa [lock?, holds] using h
  | _ => cases h

theorem Phase.eq_of_awaits {p : Phase} {lock : Nat} (h : p.awaits lock = true) :
    p = .queued lock := by
  cases p with
  | queued l => simpa [awaits] using h
  | _ => cases h

theorem Phase.holds_of_lock? {p : Phase} (h : p.lock? = none) (lock : Nat) :
    p.holds lock = false := by
  rw [← Bool.not_eq_true]
  intro hholds
  rw [lock?_of_holds hholds] at h
  cases h

namespace Calls

variable {s : Calls} {i lock : Nat}

/-- The callers with another cache. -/
def withCache (s : Calls) (cache : Cache) : Calls :=
  { s with cache := cache }

@[simp] theorem phase_withCache (s : Calls) (cache : Cache) (j : Nat) :
    (s.withCache cache).phase j = s.phase j := rfl

@[simp] theorem key_withCache (s : Calls) (cache : Cache) (j : Nat) :
    (s.withCache cache).key j = s.key j := rfl

/-! ## Passing a lock on -/

/-- Either the first caller in line is given the lock, or nobody is. -/
theorem release_cases (s : Calls) (lock : Nat) :
    (∃ j ∈ s.queue, s.phase j = .queued lock ∧
      s.release lock = { s.setPhase j (.granted lock) with queue := s.queue.erase j }) ∨
    ((∀ j ∈ s.queue, s.phase j ≠ .queued lock) ∧ s.release lock = s.retire lock) := by
  cases hfind : s.queue.find? fun j => (s.phase j).awaits lock with
  | some j =>
    left
    have hawaits : (s.phase j).awaits lock = true := by simpa using List.find?_some hfind
    have hj := Phase.eq_of_awaits hawaits
    refine ⟨j, List.mem_of_find?_eq_some hfind, hj, ?_⟩
    have hgrant : s.grantNext lock =
        { s.setPhase j (.granted lock) with queue := s.queue.erase j } := by
      simp [grantNext, hfind]
    have hphase : (s.grantNext lock).phase j = .granted lock := by
      rw [hgrant]
      exact phase_setPhase_self (lt_of_phase (by rw [hj]; simp)) _
    rw [release, retire, if_pos, hgrant]
    exact (any_phase_iff (f := fun p => p.lock? == some lock) rfl).2
      ⟨j, by rw [hphase]; simp [Phase.lock?]⟩
  | none =>
    right
    refine ⟨fun j hj hphase => ?_, ?_⟩
    · simpa [hphase, Phase.awaits] using List.find?_eq_none.1 hfind j hj
    · simp [release, grantNext, hfind]

/-- A lock that some caller has is kept. -/
theorem retire_of_lock? (h : (s.phase i).lock? = some lock) : s.retire lock = s :=
  if_pos ((any_phase_iff (f := fun p => p.lock? == some lock) rfl).2 ⟨i, by simp [h]⟩)

/-- A lock that no caller has is forgotten. -/
theorem retire_of_unused (h : ∀ j, (s.phase j).lock? ≠ some lock) :
    s.retire lock = { s with inFlight := s.inFlight.filter fun p => p.2 != lock } := by
  refine if_neg fun hany => ?_
  obtain ⟨j, hj⟩ := (any_phase_iff (f := fun p => p.lock? == some lock) rfl).1 hany
  exact h j (by simpa using hj)

/-! ## Order among the callers -/

/-- Callers that have claimed a lock find it under their key. Each lock in use is
claimed, under one key. A lock has one holder at most, and one at least while
somebody waits for it. -/
structure Orderly (s : Calls) : Prop where
  listed : ∀ i lock, (s.phase i).lock? = some lock → (s.key i, lock) ∈ s.inFlight
  claimed : ∀ p ∈ s.inFlight, ∃ i, (s.phase i).lock? = some p.2
  named : ∀ p ∈ s.inFlight, p.2 < s.nextLock
  keys_nodup : (s.inFlight.map Prod.fst).Nodup
  locks_nodup : (s.inFlight.map Prod.snd).Nodup
  exclusive : ∀ i j lock, (s.phase i).holds lock = true → (s.phase j).holds lock = true → i = j
  held : ∀ i lock, s.phase i = .queued lock → ∃ j, (s.phase j).holds lock = true
  queued_iff : ∀ i, i ∈ s.queue ↔ ∃ lock, s.phase i = .queued lock
  queue_nodup : s.queue.Nodup

/-- The order depends on the locks of the callers alone. -/
theorem Orderly.congr {s t : Calls} (hs : s.Orderly) (hkey : ∀ j, t.key j = s.key j)
    (hlock : ∀ j, (t.phase j).lock? = (s.phase j).lock?)
    (hholds : ∀ j l, (t.phase j).holds l = (s.phase j).holds l)
    (hqueued : ∀ j l, t.phase j = .queued l ↔ s.phase j = .queued l)
    (hinFlight : t.inFlight = s.inFlight) (hnext : t.nextLock = s.nextLock)
    (hqueue : t.queue = s.queue) : t.Orderly := by
  obtain ⟨h1, h2, h3, h4, h5, h6, h7, h8, h9⟩ := hs
  constructor <;> simpa only [hkey, hlock, hholds, hqueued, hinFlight, hnext, hqueue]

theorem Orderly.withCache (hs : s.Orderly) (cache : Cache) : (s.withCache cache).Orderly :=
  hs.congr (fun _ => rfl) (fun _ => rfl) (fun _ _ => rfl) (fun _ _ => .rfl) rfl rfl rfl

/-- Under one key there is one lock, and under one lock one key. -/
theorem Orderly.key_eq {s : Calls} (hs : s.Orderly) {k k' : String} {l l' : Nat}
    (h : (k, l) ∈ s.inFlight) (h' : (k', l') ∈ s.inFlight) : k = k' ↔ l = l' := by
  constructor
  · intro hk
    exact congrArg Prod.snd (List.inj_on_of_nodup_map hs.keys_nodup h h' hk)
  · intro hl
    exact congrArg Prod.fst (List.inj_on_of_nodup_map hs.locks_nodup h h' hl)

/-- A caller goes on without a change to its lock. -/
theorem Orderly.setPhase (hs : s.Orderly) (hi : i < s.callers.length) {p : Phase}
    (hlock : p.lock? = (s.phase i).lock?) (hholds : ∀ l, p.holds l = (s.phase i).holds l)
    (hqueued : ∀ l, p = .queued l ↔ s.phase i = .queued l) : (s.setPhase i p).Orderly := by
  refine hs.congr (key_setPhase s i p) (fun j => ?_) (fun j l => ?_) (fun j l => ?_) rfl rfl rfl <;>
    by_cases hj : j = i
  · rw [hj, phase_setPhase_self hi, hlock]
  · rw [phase_setPhase_of_ne hj]
  · rw [hj, phase_setPhase_self hi, hholds]
  · rw [phase_setPhase_of_ne hj]
  · rw [hj, phase_setPhase_self hi, hqueued]
  · rw [phase_setPhase_of_ne hj]

/-- A caller without a lock comes to an end. -/
theorem Orderly.setPhase_of_unlocked (hs : s.Orderly) (hi : i < s.callers.length) {p : Phase}
    (hlock : (s.phase i).lock? = none) (hp : p.lock? = none) : (s.setPhase i p).Orderly := by
  refine hs.setPhase hi (hp.trans hlock.symm) (fun l => ?_) fun l => ?_
  · rw [Phase.holds_of_lock? hp, Phase.holds_of_lock? hlock]
  · constructor <;> rintro h <;> simp [h, Phase.lock?] at hlock hp

/-- What is left of the locks when a caller has ended. -/
theorem lock?_setPhase (hi : i < s.callers.length) {p : Phase} (hp : p.lock? = none) (k l : Nat) :
    ((s.setPhase i p).phase k).lock? = some l ↔ k ≠ i ∧ (s.phase k).lock? = some l := by
  by_cases hk : k = i
  · simp [hk, phase_setPhase_self hi, hp]
  · simp [hk, phase_setPhase_of_ne hk]

theorem holds_setPhase (hi : i < s.callers.length) {p : Phase} (hp : p.lock? = none) (k l : Nat) :
    ((s.setPhase i p).phase k).holds l = true ↔ k ≠ i ∧ (s.phase k).holds l = true := by
  by_cases hk : k = i
  · simp [hk, phase_setPhase_self hi, Phase.holds_of_lock? hp]
  · simp [hk, phase_setPhase_of_ne hk]

theorem queued_setPhase (hi : i < s.callers.length) {p : Phase} (hp : p.lock? = none) (k l : Nat) :
    (s.setPhase i p).phase k = .queued l ↔ k ≠ i ∧ s.phase k = .queued l := by
  by_cases hk : k = i
  · have hne : p ≠ .queued l := by
      rintro rfl
      cases hp
    simp [hk, phase_setPhase_self hi, hne]
  · simp [hk, phase_setPhase_of_ne hk]

/-- A caller that holds a lock leaves, and the lock goes to one that waits for it. -/
theorem Orderly.pass_on (hs : s.Orderly) (hi : (s.phase i).holds lock = true) {p : Phase}
    (hp : p.lock? = none) {j : Nat} (hj : s.phase j = .queued lock) :
    Orderly { (s.setPhase i p).setPhase j (.granted lock) with queue := s.queue.erase j } := by
  have hilen : i < s.callers.length := lt_of_phase fun h => by simp [h, Phase.holds] at hi
  have hjlen : j < (s.setPhase i p).callers.length := by
    simpa using lt_of_phase (s := s) (i := j) (by simp [hj])
  have hji : j ≠ i := by
    rintro rfl
    simp [hj, Phase.holds] at hi
  have hjlock : (s.phase j).lock? = some lock := by simp [hj, Phase.lock?]
  let t : Calls := { (s.setPhase i p).setPhase j (.granted lock) with queue := s.queue.erase j }
  have hkey : ∀ k, t.key k = s.key k := fun k =>
    (key_setPhase _ j _ k).trans (key_setPhase s i p k)
  have htj : t.phase j = .granted lock := phase_setPhase_self hjlen _
  have hto : ∀ {k}, k ≠ j → t.phase k = (s.setPhase i p).phase k := fun hk =>
    phase_setPhase_of_ne hk _
  have hlock : ∀ k l, (t.phase k).lock? = some l ↔ k ≠ i ∧ (s.phase k).lock? = some l := by
    intro k l
    by_cases hk : k = j
    · rw [hk, htj, hjlock]
      simp [hji, Phase.lock?]
    · rw [hto hk, lock?_setPhase hilen hp]
  have hholds : ∀ k l, (t.phase k).holds l = true ↔
      (k = j ∧ l = lock) ∨ (k ≠ i ∧ (s.phase k).holds l = true) := by
    intro k l
    by_cases hk : k = j
    · rw [hk, htj, hj]
      simp [Phase.holds, Eq.comm (a := lock)]
    · simp [hk, hto hk, holds_setPhase hilen hp]
  have hqueued : ∀ k l, t.phase k = .queued l ↔ k ≠ j ∧ s.phase k = .queued l := by
    intro k l
    by_cases hk : k = j
    · simp [hk, htj]
    · rw [hto hk, queued_setPhase hilen hp]
      refine ⟨fun h => ⟨hk, h.2⟩, fun h => ⟨?_, h.2⟩⟩
      rintro rfl
      simp [h.2, Phase.holds] at hi
  have hexclusive : ∀ {k l}, k ≠ i → (s.phase k).holds l = true → l ≠ lock := by
    rintro k l hk h rfl
    exact hk (hs.exclusive k i l h hi)
  refine ⟨fun k l h => ?_, fun e he => ?_, hs.named, hs.keys_nodup, hs.locks_nodup,
    fun a b l ha hb => ?_, fun k l h => ?_, fun k => ?_, hs.queue_nodup.erase j⟩
  · rw [hkey]
    exact hs.listed k l ((hlock k l).1 h).2
  · obtain ⟨k, hk⟩ := hs.claimed e he
    by_cases hki : k = i
    · have : e.2 = lock := by
        rw [hki, Phase.lock?_of_holds hi] at hk
        exact (Option.some.inj hk).symm
      exact ⟨j, (hlock j _).2 ⟨hji, this ▸ hjlock⟩⟩
    · exact ⟨k, (hlock k _).2 ⟨hki, hk⟩⟩
  · rcases (hholds a l).1 ha with ⟨haj, hal⟩ | ⟨hai, ha'⟩ <;>
      rcases (hholds b l).1 hb with ⟨hbj, hbl⟩ | ⟨hbi, hb'⟩
    · rw [haj, hbj]
    · exact absurd hal (hexclusive hbi hb')
    · exact absurd hbl (hexclusive hai ha')
    · exact hs.exclusive a b l ha' hb'
  · obtain ⟨-, h⟩ := (hqueued k l).1 h
    obtain ⟨a, ha⟩ := hs.held k l h
    by_cases hai : a = i
    · exact ⟨j, (hholds j l).2 (.inl ⟨rfl, Phase.eq_of_holds (hai ▸ ha) hi⟩)⟩
    · exact ⟨a, (hholds a l).2 (.inr ⟨hai, ha⟩)⟩
  · simp only [hs.queue_nodup.mem_erase_iff, hs.queued_iff, ← exists_and_left]
    exact exists_congr fun l => (hqueued k l).symm

/-- A caller that holds a lock leaves, and nobody waits for it. -/
theorem Orderly.give_up (hs : s.Orderly) (hi : (s.phase i).holds lock = true) {p : Phase}
    (hp : p.lock? = none) (hnone : ∀ k, s.phase k ≠ .queued lock) :
    ((s.setPhase i p).retire lock).Orderly := by
  have hilen : i < s.callers.length := lt_of_phase fun h => by simp [h, Phase.holds] at hi
  have hother : ∀ {k l}, k ≠ i → (s.phase k).lock? = some l → l ≠ lock := by
    rintro k l hk h rfl
    rcases Phase.lock?_cases h with hq | hholds
    · exact hnone k hq
    · exact hk (hs.exclusive k i l hholds hi)
  have hlock := lock?_setPhase hilen hp
  have hholds := holds_setPhase hilen hp
  rw [retire_of_unused fun k h => hother ((hlock k lock).1 h).1 ((hlock k lock).1 h).2 rfl]
  have hsub : (s.inFlight.filter fun p => p.2 != lock).Sublist s.inFlight := List.filter_sublist
  refine ⟨fun k l h => ?_, fun e he => ?_, fun e he => hs.named e (hsub.subset he),
    hs.keys_nodup.sublist (hsub.map _), hs.locks_nodup.sublist (hsub.map _),
    fun a b l ha hb => ?_, fun k l h => ?_, fun k => ?_, hs.queue_nodup⟩
  · obtain ⟨hki, h⟩ := (hlock k l).1 h
    have hlisted := hs.listed k l h
    rw [← key_setPhase s i p k] at hlisted
    exact List.mem_filter.2 ⟨hlisted, by simpa using hother hki h⟩
  · obtain ⟨he, hne⟩ := List.mem_filter.1 he
    obtain ⟨k, hk⟩ := hs.claimed e he
    refine ⟨k, (hlock k _).2 ⟨?_, hk⟩⟩
    rintro rfl
    rw [Phase.lock?_of_holds hi, Option.some.injEq] at hk
    simp [hk] at hne
  · exact hs.exclusive a b l ((hholds a l).1 ha).2 ((hholds b l).1 hb).2
  · obtain ⟨-, hq⟩ := (queued_setPhase hilen hp k l).1 h
    obtain ⟨a, ha⟩ := hs.held k l hq
    refine ⟨a, (hholds a l).2 ⟨?_, ha⟩⟩
    rintro rfl
    exact hnone k (Phase.eq_of_holds ha hi ▸ hq)
  · refine (hs.queued_iff k).trans (exists_congr fun l => ?_)
    refine (Iff.trans (queued_setPhase hilen hp k l) ⟨And.right, fun h => ⟨?_, h⟩⟩).symm
    rintro rfl
    simp [h, Phase.holds] at hi

/-- A caller that holds a lock leaves, and the lock is passed on. -/
theorem Orderly.leave (hs : s.Orderly) (hi : (s.phase i).holds lock = true) {p : Phase}
    (hp : p.lock? = none) : ((s.setPhase i p).release lock).Orderly := by
  have hilen : i < s.callers.length := lt_of_phase fun h => by simp [h, Phase.holds] at hi
  have hqueued := queued_setPhase hilen hp
  rcases release_cases (s.setPhase i p) lock with ⟨j, -, hj, heq⟩ | ⟨hnone, heq⟩
  · rw [heq]
    exact hs.pass_on hi hp ((hqueued j lock).1 hj).2
  · rw [heq]
    refine hs.give_up hi hp fun k hk => hnone k ((hs.queued_iff k).2 ⟨lock, hk⟩) ?_
    refine (hqueued k lock).2 ⟨?_, hk⟩
    rintro rfl
    simp [hk, Phase.holds] at hi

/-- A caller that waits for a lock leaves the line. -/
theorem Orderly.leave_line (hs : s.Orderly) (hi : s.phase i = .queued lock) {p : Phase}
    (hp : p.lock? = none) : Orderly { s.setPhase i p with queue := s.queue.erase i } := by
  have hilen : i < s.callers.length := lt_of_phase (by simp [hi])
  have hlock := lock?_setPhase hilen hp
  have hholds := holds_setPhase hilen hp
  obtain ⟨j, hj⟩ := hs.held i lock hi
  have hholder : ∀ {a l}, (s.phase a).holds l = true → a ≠ i := by
    rintro a l ha rfl
    simp [hi, Phase.holds] at ha
  refine ⟨fun k l h => ?_, fun e he => ?_, hs.named, hs.keys_nodup, hs.locks_nodup,
    fun a b l ha hb => ?_, fun k l h => ?_, fun k => ?_, hs.queue_nodup.erase i⟩
  · have hlisted := hs.listed k l ((hlock k l).1 h).2
    rwa [← key_setPhase s i p k] at hlisted
  · obtain ⟨k, hk⟩ := hs.claimed e he
    by_cases hki : k = i
    · have : e.2 = lock := by simpa [hki, hi, Phase.lock?, eq_comm] using hk
      exact ⟨j, (hlock j _).2 ⟨hholder hj, this ▸ Phase.lock?_of_holds hj⟩⟩
    · exact ⟨k, (hlock k _).2 ⟨hki, hk⟩⟩
  · exact hs.exclusive a b l ((hholds a l).1 ha).2 ((hholds b l).1 hb).2
  · obtain ⟨a, ha⟩ := hs.held k l ((queued_setPhase hilen hp k l).1 h).2
    exact ⟨a, (hholds a l).2 ⟨hholder ha, ha⟩⟩
  · simp only [hs.queue_nodup.mem_erase_iff, hs.queued_iff, ← exists_and_left]
    exact exists_congr fun l => (queued_setPhase hilen hp k l).symm

/-! ## Claiming a lock -/

theorem lock?_setPhase_of_some (hi : i < s.callers.length) {p : Phase} (hp : p.lock? = some lock)
    (hidle : (s.phase i).lock? = none) (k l : Nat) :
    ((s.setPhase i p).phase k).lock? = some l ↔
      (k = i ∧ l = lock) ∨ (s.phase k).lock? = some l := by
  by_cases hk : k = i
  · rw [hk, phase_setPhase_self hi, hp, hidle]
    simp [Eq.comm (a := lock)]
  · simp [hk, phase_setPhase_of_ne hk]

theorem holds_setPhase_of_ne (hi : i < s.callers.length) (hidle : (s.phase i).lock? = none)
    {p : Phase} (k l : Nat) :
    ((s.setPhase i p).phase k).holds l = true ↔
      (k = i ∧ p.holds l = true) ∨ (s.phase k).holds l = true := by
  by_cases hk : k = i
  · simp [hk, phase_setPhase_self hi, Phase.holds_of_lock? hidle]
  · simp [hk, phase_setPhase_of_ne hk]

/-- The callers with a new lock for a key. -/
def newLock (s : Calls) (key : String) : Calls :=
  { s with inFlight := (key, s.nextLock) :: s.inFlight, nextLock := s.nextLock + 1 }

@[simp] theorem phase_newLock (s : Calls) (key : String) (j : Nat) :
    (s.newLock key).phase j = s.phase j := rfl

@[simp] theorem key_newLock (s : Calls) (key : String) (j : Nat) :
    (s.newLock key).key j = s.key j := rfl

/-- The lock of a key is the one in use, or a new one. -/
theorem lockOf_cases (s : Calls) (key : String) :
    (∃ lock, s.inFlight.lookup key = some lock ∧ s.lockOf key = (lock, s)) ∨
      (s.inFlight.lookup key = none ∧ s.lockOf key = (s.nextLock, s.newLock key)) := by
  cases h : s.inFlight.lookup key with
  | some lock => exact .inl ⟨lock, rfl, by simp [lockOf, h]⟩
  | none => exact .inr ⟨rfl, by simp [lockOf, h, newLock]⟩

/-- A new lock is nobody's. -/
theorem Orderly.lock?_ne_nextLock (hs : s.Orderly) (k : Nat) :
    (s.phase k).lock? ≠ some s.nextLock := fun h =>
  absurd (hs.named _ (hs.listed k _ h)) (Nat.lt_irrefl _)

/-- A lock in use is not free. -/
theorem Orderly.isFree_eq_false (hs : s.Orderly) {k : String}
    (h : s.inFlight.lookup k = some lock) : s.isFree lock = false := by
  obtain ⟨l₁, l₂, heq, -⟩ := List.lookup_eq_some_iff.1 h
  obtain ⟨j, hj⟩ := hs.claimed (k, lock) (by simp [heq])
  rw [← Bool.not_eq_true]
  intro hfree
  obtain ⟨hholds, hawaits⟩ := isFree_iff.1 hfree j
  rcases Phase.lock?_cases hj with hq | hh
  · simp [hq, Phase.awaits] at hawaits
  · simp [hh] at hholds

/-- A new lock is free. -/
theorem Orderly.isFree_nextLock (hs : s.Orderly) (key : String) :
    (s.newLock key).isFree s.nextLock = true := by
  refine isFree_iff.2 fun j => ⟨?_, ?_⟩ <;> rw [← Bool.not_eq_true] <;> intro h
  · exact hs.lock?_ne_nextLock j (Phase.lock?_of_holds h)
  · refine hs.lock?_ne_nextLock j ?_
    rw [phase_newLock] at h
    rw [Phase.eq_of_awaits h]
    rfl

/-- A caller makes a lock for a key that has none. -/
theorem Orderly.claim (hs : s.Orderly) (hi : s.phase i = .idle)
    (hkey : s.inFlight.lookup (s.key i) = none) :
    ((s.newLock (s.key i)).setPhase i (.granted s.nextLock)).Orderly := by
  have hilen : i < (s.newLock (s.key i)).callers.length := lt_of_phase (s := s) (by simp [hi])
  have hidle : ((s.newLock (s.key i)).phase i).lock? = none := by simp [hi, Phase.lock?]
  have hlock := lock?_setPhase_of_some hilen (p := .granted s.nextLock) rfl hidle
  have hholds := holds_setPhase_of_ne hilen hidle (p := .granted s.nextLock)
  have hnew : ∀ {k}, (s.phase k).holds s.nextLock ≠ true := fun h =>
    hs.lock?_ne_nextLock _ (Phase.lock?_of_holds h)
  have hqueued : ∀ k l, ((s.newLock (s.key i)).setPhase i (.granted s.nextLock)).phase k =
      .queued l ↔ s.phase k = .queued l := by
    intro k l
    by_cases hk : k = i
    · simp [hk, phase_setPhase_self hilen, hi]
    · rw [phase_setPhase_of_ne hk, phase_newLock]
  have hmem : ∀ l, (s.key i, l) ∉ s.inFlight := fun l hl => by
    simpa using List.lookup_eq_none_iff.1 hkey _ hl
  refine ⟨fun k l h => ?_, fun e he => ?_, fun e he => ?_, ?_, ?_, fun a b l ha hb => ?_,
    fun k l h => ?_, fun k => ?_, hs.queue_nodup⟩
  · rw [key_setPhase, key_newLock]
    rcases (hlock k l).1 h with ⟨rfl, rfl⟩ | h
    · exact List.mem_cons_self
    · exact List.mem_cons_of_mem _ (hs.listed k l h)
  · rcases List.mem_cons.1 he with rfl | he
    · exact ⟨i, (hlock i _).2 (.inl ⟨rfl, rfl⟩)⟩
    · obtain ⟨k, hk⟩ := hs.claimed e he
      exact ⟨k, (hlock k _).2 (.inr hk)⟩
  · rcases List.mem_cons.1 he with rfl | he
    · exact Nat.lt_succ_self _
    · exact Nat.lt_succ_of_lt (hs.named e he)
  · refine List.nodup_cons.2 ⟨fun h => ?_, hs.keys_nodup⟩
    obtain ⟨⟨k, l⟩, he, rfl⟩ := List.mem_map.1 h
    exact hmem l he
  · refine List.nodup_cons.2 ⟨fun h => ?_, hs.locks_nodup⟩
    obtain ⟨e, he, heq⟩ := List.mem_map.1 h
    exact absurd (hs.named e he) (by rw [heq]; exact Nat.lt_irrefl _)
  · rcases (hholds a l).1 ha with ⟨rfl, hl⟩ | ha' <;> rcases (hholds b l).1 hb with ⟨rfl, hl'⟩ | hb'
    · rfl
    · obtain rfl : s.nextLock = l := by simpa [Phase.holds] using hl
      exact absurd hb' hnew
    · obtain rfl : s.nextLock = l := by simpa [Phase.holds] using hl'
      exact absurd ha' hnew
    · exact hs.exclusive a b l ha' hb'
  · obtain ⟨a, ha⟩ := hs.held k l ((hqueued k l).1 h)
    exact ⟨a, (hholds a l).2 (.inr ha)⟩
  · exact (hs.queued_iff k).trans (exists_congr fun l => (hqueued k l).symm)

/-- A caller joins the line for the lock of its key. -/
theorem Orderly.join (hs : s.Orderly) (hi : s.phase i = .idle)
    (hkey : s.inFlight.lookup (s.key i) = some lock) :
    Orderly { s.setPhase i (.queued lock) with queue := s.queue ++ [i] } := by
  have hilen : i < s.callers.length := lt_of_phase (by simp [hi])
  have hidle : (s.phase i).lock? = none := by simp [hi, Phase.lock?]
  have hlock := lock?_setPhase_of_some hilen (p := .queued lock) rfl hidle
  have hholds : ∀ k l, ((s.setPhase i (.queued lock)).phase k).holds l = true ↔
      (s.phase k).holds l = true := by
    simpa [Phase.holds] using fun k l => holds_setPhase_of_ne hilen hidle (p := .queued lock) k l
  have hqueued : ∀ k l, (s.setPhase i (.queued lock)).phase k = .queued l ↔
      (k = i ∧ lock = l) ∨ s.phase k = .queued l := by
    intro k l
    by_cases hk : k = i
    · simp [hk, phase_setPhase_self hilen, hi]
    · simp [hk, phase_setPhase_of_ne hk]
  obtain ⟨l₁, l₂, heq, -⟩ := List.lookup_eq_some_iff.1 hkey
  have hmem : (s.key i, lock) ∈ s.inFlight := by simp [heq]
  have hheld : ∃ j, (s.phase j).holds lock = true := by
    obtain ⟨j, hj⟩ := hs.claimed _ hmem
    rcases Phase.lock?_cases hj with hq | hh
    · exact hs.held j lock hq
    · exact ⟨j, hh⟩
  refine ⟨fun k l h => ?_, fun e he => ?_, hs.named, hs.keys_nodup, hs.locks_nodup,
    fun a b l ha hb => ?_, fun k l h => ?_, fun k => ?_, ?_⟩
  · have hlisted : (s.key k, l) ∈ s.inFlight := by
      rcases (hlock k l).1 h with ⟨rfl, rfl⟩ | h
      · exact hmem
      · exact hs.listed k l h
    rwa [← key_setPhase s i (.queued lock) k] at hlisted
  · obtain ⟨k, hk⟩ := hs.claimed e he
    exact ⟨k, (hlock k _).2 (.inr hk)⟩
  · exact hs.exclusive a b l ((hholds a l).1 ha) ((hholds b l).1 hb)
  · have hheld' : ∃ j, (s.phase j).holds l = true := by
      rcases (hqueued k l).1 h with ⟨-, rfl⟩ | h
      · exact hheld
      · exact hs.held k l h
    obtain ⟨j, hj⟩ := hheld'
    exact ⟨j, (hholds j l).2 hj⟩
  · have hiff : k ∈ s.queue ++ [i] ↔ (∃ l, s.phase k = .queued l) ∨ k = i := by
      rw [List.mem_append, List.mem_singleton, hs.queued_iff]
    refine hiff.trans ⟨?_, ?_⟩
    · rintro (⟨l, h⟩ | rfl)
      · exact ⟨l, (hqueued k l).2 (.inr h)⟩
      · exact ⟨lock, (hqueued k lock).2 (.inl ⟨rfl, rfl⟩)⟩
    · rintro ⟨l, h⟩
      rcases (hqueued k l).1 h with ⟨rfl, -⟩ | h
      · exact .inr rfl
      · exact .inl ⟨l, h⟩
  · refine List.nodup_append.2 ⟨hs.queue_nodup, List.nodup_singleton i, fun a ha b hb => ?_⟩
    rw [List.mem_singleton.1 hb]
    rintro rfl
    obtain ⟨l, hl⟩ := (hs.queued_iff a).1 ha
    simp [hi] at hl

end Calls
end Gloss.Cache
