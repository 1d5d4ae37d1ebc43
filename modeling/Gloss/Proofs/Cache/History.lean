import Gloss.Proofs.Cache.Lookup
import Mathlib.Data.List.Basic

/-!
# A cache and its history

A cache is used at times that do not decrease: values are inserted and read, and
expired ones purged. What it holds and answers then follows from the record of
what was done (`history`), without looking at the cache:

* a value is read exactly if it was inserted last under its key, and was inserted
  or read less than `ttl` ago (`Remembered`);
* an entry is stored exactly if it was inserted and no operation has found it
  expired (`Kept`).

One operation keeps the cache in step with the record (`Tracks.step`), so any run
does (`Tracks.run`). Records of other keys and of purges do not matter for what is
remembered (`remembered_filter`), so a run may leave them out (`history_filter`).
`history_determines` puts this together.
-/

namespace Gloss.Cache

/-! ## Runs -/

/-- What can be done to a cache. -/
inductive Op where
  | insert (key value : String)
  | get (key : String)
  | purge
  deriving DecidableEq, Repr

/-- What a cache gives back. -/
inductive Reply where
  | stored
  | read (value : Option String)
  | purged (count : Nat)
  deriving DecidableEq, Repr

/-- An operation at some time. -/
structure Access where
  time : Nat
  op : Op
  deriving DecidableEq, Repr

/-- An operation, when it was done and what came of it. -/
structure Record extends Access where
  reply : Reply
  deriving DecidableEq, Repr

/-- Whether an operation inserts or reads a key. -/
def Op.concerns (key : String) : Op → Bool
  | insert k _ | get k => k == key
  | purge => false

/-- Whether an operation forgets a key that has expired. -/
def Op.looksAt (key : String) : Op → Bool
  | insert _ _ => false
  | get k => k == key
  | purge => true

/-- Whether an operation purges the cache. -/
def Op.isPurge : Op → Bool
  | purge => true
  | _ => false

/-- Whether a value was read. -/
def Reply.isHit : Reply → Bool
  | read value => value.isSome
  | _ => false

/-- Whether a key was read and found. -/
def Record.hits (key : String) (r : Record) : Bool :=
  r.op == .get key && r.reply.isHit

/-- What an operation gives back. -/
def reply (cache : Cache) (now : Nat) : Op → Reply
  | .insert _ _ => .stored
  | .get key => .read (cache.get now key).1
  | .purge => .purged (cache.expired now)

/-- The cache after an operation. -/
def perform (cache : Cache) (now : Nat) : Op → Cache
  | .insert key value => cache.insert now key value
  | .get key => (cache.get now key).2
  | .purge => cache.purge now

/-- The record of operations done one after the other. -/
def history (cache : Cache) : List Access → List Record
  | [] => []
  | a :: accesses =>
    ⟨a, cache.reply a.time a.op⟩ :: (cache.perform a.time a.op).history accesses

/-- The cache after operations done one after the other. -/
def performAll (cache : Cache) (accesses : List Access) : Cache :=
  accesses.foldl (fun c a => c.perform a.time a.op) cache

/-- Times do not decrease. -/
def InOrder (accesses : List Access) : Prop :=
  accesses.Pairwise fun a b => a.time ≤ b.time

instance (accesses : List Access) : Decidable (InOrder accesses) :=
  inferInstanceAs (Decidable (accesses.Pairwise _))

/-! ## What a record says of a key -/

/-- The last insertion of a key in a record, when it was, and what came after it. -/
structure Latest (past : List Record) (key value : String) (since : Nat) (later : List Record) :
    Prop where
  found : ∃ earlier, past = earlier ++ ⟨⟨since, .insert key value⟩, .stored⟩ :: later
  last : ∀ r ∈ later, ∀ v, r.op ≠ .insert key v

/-- The later of an insertion and the last time the key was read after it. -/
def lastUse (key : String) (since : Nat) (later : List Record) : Nat :=
  ((later.filter (Record.hits key)).map (·.time)).foldl max since

/-- A value was inserted last under a key, and less than `ttl` has passed since it was
inserted or last read. -/
def Remembered (ttl : Nat) (past : List Record) (now : Nat) (key value : String) : Prop :=
  ∃ since later, Latest past key value since later ∧ now - lastUse key since later < ttl

/-- An entry was made by the last insertion of a key and used since then, and no
operation has found it expired. -/
def Kept (ttl : Nat) (past : List Record) (key : String) (entry : Entry) : Prop :=
  ∃ later, Latest past key entry.value entry.createdAt later ∧
    entry.lastAccess = lastUse key entry.createdAt later ∧
    ∀ r ∈ later, r.op.looksAt key = true → r.time - entry.lastAccess < ttl

variable {past later : List Record} {key value : String} {since now ttl : Nat} {r : Record}

theorem Latest.unique {value' : String} {since' : Nat} {later' : List Record}
    (h : Latest past key value since later) (h' : Latest past key value' since' later') :
    value = value' ∧ since = since' ∧ later = later' := by
  obtain ⟨⟨earlier, heq⟩, hlast⟩ := h
  obtain ⟨⟨earlier', heq'⟩, hlast'⟩ := h'
  rcases List.append_eq_append_iff.1 (heq.symm.trans heq') with ⟨w, -, hw⟩ | ⟨w, -, hw⟩
  · cases w with
    | nil =>
      cases hw
      exact ⟨rfl, rfl, rfl⟩
    | cons x w =>
      cases hw
      exact absurd rfl (hlast _ (List.mem_append_right _ List.mem_cons_self) value')
  · cases w with
    | nil =>
      cases hw
      exact ⟨rfl, rfl, rfl⟩
    | cons x w =>
      cases hw
      exact absurd rfl (hlast' _ (List.mem_append_right _ List.mem_cons_self) value)

theorem latest_insert (past : List Record) (key value : String) (now : Nat) :
    Latest (past ++ [⟨⟨now, .insert key value⟩, .stored⟩]) key value now [] :=
  ⟨⟨past, rfl⟩, by simp⟩

/-- Other operations leave the last insertion as it was. -/
theorem latest_concat (h : ∀ v, r.op ≠ .insert key v) :
    Latest (past ++ [r]) key value since later ↔
      ∃ before, later = before ++ [r] ∧ Latest past key value since before := by
  constructor
  · rintro ⟨⟨earlier, heq⟩, hlast⟩
    rcases List.eq_nil_or_concat later with rfl | ⟨before, r', rfl⟩
    · obtain ⟨-, hr⟩ := List.append_inj' heq rfl
      cases hr
      exact absurd rfl (h value)
    · rw [List.concat_eq_append] at heq hlast ⊢
      rw [← List.cons_append, ← List.append_assoc] at heq
      obtain ⟨hpast, hr⟩ := List.append_inj' heq rfl
      cases hr
      exact ⟨before, rfl, ⟨earlier, hpast⟩, fun x hx => hlast x (List.mem_append_left _ hx)⟩
  · rintro ⟨before, rfl, ⟨earlier, rfl⟩, hlast⟩
    refine ⟨⟨earlier, by simp⟩, fun x hx => ?_⟩
    rcases List.mem_append.1 hx with hx | hx
    · exact hlast x hx
    · rw [List.mem_singleton.1 hx]
      exact h

theorem Latest.subset (h : Latest past key value since later) : later ⊆ past := by
  obtain ⟨⟨earlier, rfl⟩, -⟩ := h
  exact fun x hx => List.mem_append_right _ (List.mem_cons_of_mem _ hx)

/-! ## Times of use -/

theorem lastUse_concat (key : String) (since : Nat) (later : List Record) (r : Record) :
    lastUse key since (later ++ [r]) =
      if r.hits key then max (lastUse key since later) r.time else lastUse key since later := by
  unfold lastUse
  rw [List.filter_append]
  by_cases h : r.hits key = true
  · simp [h]
  · simp [h]

theorem lastUse_le (hsince : since ≤ now) (h : ∀ r ∈ later, r.time ≤ now) (key : String) :
    lastUse key since later ≤ now := by
  unfold lastUse
  have hfilter : ∀ r ∈ later.filter (Record.hits key), r.time ≤ now :=
    fun r hr => h r (List.mem_of_mem_filter hr)
  generalize later.filter (Record.hits key) = hits at hfilter
  induction hits generalizing since with
  | nil => exact hsince
  | cons r hits ih =>
    rw [List.map_cons, List.foldl_cons]
    exact ih (Nat.max_le.2 ⟨hsince, hfilter r (by simp)⟩)
      fun x hx => hfilter x (List.mem_cons_of_mem r hx)

theorem Latest.lastUse_le (h : Latest past key value since later)
    (hpast : ∀ r ∈ past, r.time ≤ now) : lastUse key since later ≤ now := by
  refine Cache.lastUse_le ?_ (fun r hr => hpast r (h.subset hr)) key
  obtain ⟨earlier, rfl⟩ := h.found
  exact hpast ⟨⟨since, .insert key value⟩, .stored⟩ (by simp)

/-! ## What is kept after one more operation -/

theorem Kept.unique {entry entry' : Entry} (h : Kept ttl past key entry)
    (h' : Kept ttl past key entry') : entry = entry' := by
  obtain ⟨later, hlatest, huse, -⟩ := h
  obtain ⟨later', hlatest', huse', -⟩ := h'
  obtain ⟨hvalue, hsince, rfl⟩ := hlatest.unique hlatest'
  cases entry
  cases entry'
  simp_all

theorem kept_insert {entry : Entry} :
    Kept ttl (past ++ [⟨⟨now, .insert key value⟩, .stored⟩]) key entry ↔
      entry = ⟨value, now, now⟩ := by
  have hnew : Kept ttl (past ++ [⟨⟨now, .insert key value⟩, .stored⟩]) key ⟨value, now, now⟩ :=
    ⟨[], latest_insert past key value now, rfl, by simp⟩
  exact ⟨fun h => h.unique hnew, fun h => h ▸ hnew⟩

/-- An operation that neither inserts the key nor reads its value can only find it
expired. -/
theorem kept_idle {entry : Entry} (hinsert : ∀ v, r.op ≠ .insert key v)
    (hmiss : r.hits key = false) :
    Kept ttl (past ++ [r]) key entry ↔
      Kept ttl past key entry ∧
        (r.op.looksAt key = true → r.time - entry.lastAccess < ttl) := by
  constructor
  · rintro ⟨later, hlatest, huse, hfresh⟩
    obtain ⟨before, rfl, hbefore⟩ := (latest_concat hinsert).1 hlatest
    rw [lastUse_concat, hmiss, if_neg Bool.false_ne_true] at huse
    exact ⟨⟨before, hbefore, huse, fun x hx => hfresh x (List.mem_append_left _ hx)⟩,
      hfresh r (by simp)⟩
  · rintro ⟨⟨later, hlatest, huse, hfresh⟩, hnow⟩
    refine ⟨later ++ [r], (latest_concat hinsert).2 ⟨later, rfl, hlatest⟩, ?_, fun x hx => ?_⟩
    · rw [lastUse_concat, hmiss, if_neg Bool.false_ne_true, huse]
    · rcases List.mem_append.1 hx with hx | hx
      · exact hfresh x hx
      · rw [List.mem_singleton.1 hx]
        exact hnow

/-- A value that is read is used at that time. -/
theorem kept_hit {entry used : Entry} (hused : Kept ttl past key used)
    (hpast : ∀ r ∈ past, r.time ≤ now) (hfresh : now - used.lastAccess < ttl) :
    Kept ttl (past ++ [⟨⟨now, .get key⟩, .read (some value)⟩]) key entry ↔
      entry = { used with lastAccess := now } := by
  have hnew : Kept ttl (past ++ [⟨⟨now, .get key⟩, .read (some value)⟩]) key
      { used with lastAccess := now } := by
    obtain ⟨later, hlatest, -, -⟩ := hused
    have hle := hlatest.lastUse_le hpast
    refine ⟨later ++ [⟨⟨now, .get key⟩, .read (some value)⟩],
      (latest_concat fun v h => by cases h).2 ⟨later, rfl, hlatest⟩, ?_, fun r hr _ => ?_⟩
    · rw [lastUse_concat, if_pos (by simp [Record.hits, Reply.isHit])]
      exact (Nat.max_eq_right hle).symm
    · -- Nothing in the record is later than this reading.
      have htime : r.time ≤ now := by
        rcases List.mem_append.1 hr with hr | hr
        · exact hpast r (hlatest.subset hr)
        · exact Nat.le_of_eq (congrArg (fun x : Record => x.time) (List.mem_singleton.1 hr))
      show r.time - now < ttl
      omega
  exact ⟨fun h => h.unique hnew, fun h => h ▸ hnew⟩

/-! ## What is found in a cache -/

variable {cache : Cache} {entry : Entry}

/-- Each key has one entry. -/
def Distinct (cache : Cache) : Prop :=
  (cache.entries.map (·.1)).Nodup

theorem Distinct.erase (h : cache.Distinct) (key : String) : (cache.erase key).Distinct :=
  h.sublist (List.filter_sublist.map _)

theorem Distinct.purge (h : cache.Distinct) (now : Nat) : (cache.purge now).Distinct :=
  h.sublist (List.filter_sublist.map _)

theorem Distinct.put (h : cache.Distinct) (key : String) (entry : Entry) :
    (cache.put key entry).Distinct := by
  refine List.nodup_cons.2 ⟨fun hmem => ?_, h.erase key⟩
  obtain ⟨p, hp, hkey⟩ := List.mem_map.1 hmem
  have hne : (p.1 != key) = true := (List.mem_filter.1 hp).2
  simp [hkey] at hne

theorem Distinct.find?_eq_some_iff (h : cache.Distinct) :
    cache.find? key = some entry ↔ (key, entry) ∈ cache.entries := by
  unfold find?
  unfold Distinct at h
  generalize cache.entries = entries at h
  induction entries with
  | nil => simp
  | cons p entries ih =>
    obtain ⟨k, e⟩ := p
    obtain ⟨hnot, hrest⟩ := List.nodup_cons.1 h
    by_cases hk : key = k
    · subst hk
      have hother : (key, entry) ∉ entries := fun hmem => hnot (List.mem_map.2 ⟨_, hmem, rfl⟩)
      simp [hother, eq_comm]
    · have hne : (key == k) = false := by simpa using hk
      rw [List.lookup_cons, hne, ih hrest]
      simp [hk]

theorem Distinct.find?_purge (h : cache.Distinct) :
    (cache.purge now).find? key = some entry ↔
      cache.find? key = some entry ∧ cache.isFresh now entry = true := by
  rw [(h.purge now).find?_eq_some_iff, h.find?_eq_some_iff]
  exact List.mem_filter

/-! ## Keeping a record -/

/-- A cache holds what the record says is kept. -/
structure Tracks (ttl : Nat) (past : List Record) (cache : Cache) : Prop where
  enabled : cache.enabled = true
  ttl_eq : cache.ttl = ttl
  distinct : cache.Distinct
  find?_iff : ∀ key entry, cache.find? key = some entry ↔ Kept ttl past key entry

theorem tracks_empty (ttl : Nat) : Tracks ttl [] { ttl := ttl } := by
  refine ⟨rfl, rfl, List.nodup_nil, fun key entry => ⟨fun h => ?_, ?_⟩⟩
  · cases h
  · rintro ⟨later, ⟨⟨earlier, heq⟩, -⟩, -⟩
    simp at heq

theorem Tracks.isFresh_iff (h : Tracks ttl past cache) :
    cache.isFresh now entry = true ↔ now - entry.lastAccess < ttl := by
  rw [isFresh, h.ttl_eq, decide_eq_true_iff]

/-- An operation on one key leaves what is kept of the others. -/
theorem kept_of_ne {k : String} {op : Op} {answer : Reply} (hk : k ≠ key)
    (hop : (∃ v, op = .insert k v) ∨ op = .get k) :
    Kept ttl (past ++ [⟨⟨now, op⟩, answer⟩]) key entry ↔ Kept ttl past key entry := by
  have hne : (k == key) = false := by simpa using hk
  have hinsert : ∀ v, op ≠ .insert key v := by
    rintro v rfl
    rcases hop with ⟨v', h⟩ | h
    · cases h
      exact hk rfl
    · cases h
  have hget : op ≠ .get key := by
    rintro rfl
    rcases hop with ⟨v', h⟩ | h
    · cases h
    · cases h
      exact hk rfl
  have hlooks : op.looksAt key = false := by
    rcases hop with ⟨v', rfl⟩ | rfl
    · rfl
    · exact hne
  rw [kept_idle hinsert (by simp [Record.hits, hget])]
  simp [hlooks]

theorem Tracks.insert (h : Tracks ttl past cache) (now : Nat) (key value : String) :
    Tracks ttl (past ++ [⟨⟨now, .insert key value⟩, .stored⟩]) (cache.insert now key value) := by
  rw [Cache.insert, if_pos h.enabled]
  refine ⟨h.enabled, h.ttl_eq, h.distinct.put _ _, fun k entry => ?_⟩
  by_cases hk : k = key
  · subst hk
    rw [find?_put_self, kept_insert, Option.some.injEq, eq_comm]
  · rw [find?_put_of_ne _ _ hk, h.find?_iff, kept_of_ne (Ne.symm hk) (.inl ⟨value, rfl⟩)]

theorem Tracks.get (h : Tracks ttl past cache) (hpast : ∀ r ∈ past, r.time ≤ now) (key : String) :
    Tracks ttl (past ++ [⟨⟨now, .get key⟩, .read (cache.get now key).1⟩])
      (cache.get now key).2 := by
  rcases cache.fresh_or_stale now key with ⟨used, hfind, hfresh⟩ | hstale
  · have hkept := (h.find?_iff key used).1 hfind
    rw [get_of_fresh h.enabled hfind hfresh]
    refine ⟨h.enabled, h.ttl_eq, h.distinct.put _ _, fun k entry => ?_⟩
    by_cases hk : k = key
    · subst hk
      rw [find?_put_self, kept_hit hkept hpast (h.isFresh_iff.1 hfresh), Option.some.injEq,
        eq_comm]
    · rw [find?_put_of_ne _ _ hk, h.find?_iff, kept_of_ne (Ne.symm hk) (.inr rfl)]
  · rw [get_of_stale h.enabled hstale]
    refine ⟨h.enabled, h.ttl_eq, h.distinct.erase _, fun k entry => ?_⟩
    by_cases hk : k = key
    · subst hk
      have hmiss : Record.hits k ⟨⟨now, .get k⟩, .read none⟩ = false := by
        simp [Record.hits, Reply.isHit]
      rw [find?_erase_self, kept_idle (fun v heq => by cases heq) hmiss]
      refine ⟨fun heq => (by cases heq), fun hkept => ?_⟩
      have hstill := hstale entry ((h.find?_iff k entry).2 hkept.1)
      rw [h.isFresh_iff.2 (hkept.2 (by simp [Op.looksAt]))] at hstill
      cases hstill
    · rw [find?_erase_of_ne _ hk, h.find?_iff, kept_of_ne (Ne.symm hk) (.inr rfl)]

theorem Tracks.purge (h : Tracks ttl past cache) (now count : Nat) :
    Tracks ttl (past ++ [⟨⟨now, .purge⟩, .purged count⟩]) (cache.purge now) := by
  refine ⟨h.enabled, h.ttl_eq, h.distinct.purge now, fun key entry => ?_⟩
  have hmiss : Record.hits key ⟨⟨now, .purge⟩, .purged count⟩ = false := by
    simp [Record.hits]
  rw [h.distinct.find?_purge, h.find?_iff, h.isFresh_iff,
    kept_idle (fun v heq => by cases heq) hmiss]
  simp [Op.looksAt]

/-- Every operation keeps the cache in step with the record. -/
theorem Tracks.step (h : Tracks ttl past cache) {a : Access} (hpast : ∀ r ∈ past, r.time ≤ a.time) :
    Tracks ttl (past ++ [⟨a, cache.reply a.time a.op⟩]) (cache.perform a.time a.op) := by
  obtain ⟨now, op⟩ := a
  cases op with
  | insert key value => exact h.insert now key value
  | get key => exact h.get hpast key
  | purge => exact h.purge now _

/-- A record goes on with operations that are not earlier than any in it. -/
def Precedes (past : List Record) (accesses : List Access) : Prop :=
  ∀ r ∈ past, ∀ a ∈ accesses, r.time ≤ a.time

theorem Precedes.cons {a : Access} {accesses : List Access} {answer : Reply}
    (h : Precedes past (a :: accesses)) (horder : InOrder (a :: accesses)) :
    Precedes (past ++ [⟨a, answer⟩]) accesses := by
  intro r hr b hb
  rcases List.mem_append.1 hr with hr | hr
  · exact h r hr b (List.mem_cons_of_mem a hb)
  · rw [List.mem_singleton.1 hr]
    exact (List.pairwise_cons.1 horder).1 b hb

/-- Any run keeps the cache in step with the record. -/
theorem Tracks.run (h : Tracks ttl past cache) {accesses : List Access}
    (hpast : Precedes past accesses) (horder : InOrder accesses) :
    Tracks ttl (past ++ cache.history accesses) (cache.performAll accesses) := by
  induction accesses generalizing past cache with
  | nil => simpa [history, performAll] using h
  | cons a accesses ih =>
    have hstep := h.step fun r hr => hpast r hr a (by simp)
    have hrun := ih hstep (hpast.cons horder) (List.pairwise_cons.1 horder).2
    rw [List.append_assoc, List.singleton_append] at hrun
    exact hrun

theorem tracks_history (ttl : Nat) {accesses : List Access} (h : InOrder accesses) :
    Tracks ttl (history { ttl := ttl } accesses) (performAll { ttl := ttl } accesses) :=
  (tracks_empty ttl).run (fun r hr => by cases hr) h

theorem time_of_mem_history {accesses : List Access} (h : ∀ a ∈ accesses, a.time ≤ now)
    (cache : Cache) : ∀ r ∈ cache.history accesses, r.time ≤ now := by
  induction accesses generalizing cache with
  | nil => simp [history]
  | cons a accesses ih =>
    intro r hr
    rcases List.mem_cons.1 hr with rfl | hr
    · exact h a (by simp)
    · exact ih (fun b hb => h b (List.mem_cons_of_mem a hb)) _ r hr

/-! ## Answers from the record -/

/-- A value is read exactly if it is remembered. An operation that would have found it
expired since its last use was not later than `now`, when it has not expired. -/
theorem Tracks.get_eq_some_iff (h : Tracks ttl past cache) (hpast : ∀ r ∈ past, r.time ≤ now) :
    (cache.get now key).1 = some value ↔ Remembered ttl past now key value := by
  constructor
  · intro hget
    rcases cache.fresh_or_stale now key with ⟨entry, hfind, hfresh⟩ | hstale
    · rw [get_of_fresh h.enabled hfind hfresh] at hget
      cases hget
      obtain ⟨later, hlatest, huse, -⟩ := (h.find?_iff key entry).1 hfind
      exact ⟨entry.createdAt, later, hlatest, huse ▸ h.isFresh_iff.1 hfresh⟩
    · rw [get_of_stale h.enabled hstale] at hget
      cases hget
  · rintro ⟨since, later, hlatest, hnow⟩
    have hkept : Kept ttl past key ⟨value, since, lastUse key since later⟩ := by
      refine ⟨later, hlatest, rfl, fun r hr _ => ?_⟩
      have htime := hpast r (hlatest.subset hr)
      show r.time - lastUse key since later < ttl
      omega
    rw [get_of_fresh h.enabled ((h.find?_iff _ _).2 hkept) (h.isFresh_iff.2 hnow)]

/-- A purge drops as many entries as keys are kept whose value has expired. -/
theorem Tracks.expired_eq (h : Tracks ttl past cache) (now : Nat) :
    ∃ keys : List String, keys.Nodup ∧
      (∀ key, key ∈ keys ↔ ∃ entry, Kept ttl past key entry ∧ ttl ≤ now - entry.lastAccess) ∧
      cache.expired now = keys.length := by
  let stale := cache.entries.filter fun p => !cache.isFresh now p.2
  have hsub : (stale.map (·.1)).Sublist (cache.entries.map (·.1)) := List.filter_sublist.map _
  refine ⟨stale.map (·.1), hsub.nodup h.distinct, fun key => ?_, ?_⟩
  · have hstale : ∀ entry, (key, entry) ∈ stale ↔
        Kept ttl past key entry ∧ ttl ≤ now - entry.lastAccess := by
      intro entry
      rw [List.mem_filter, ← h.distinct.find?_eq_some_iff, h.find?_iff, Bool.not_eq_true',
        ← Bool.not_eq_true, h.isFresh_iff, Nat.not_lt]
    constructor
    · intro hmem
      obtain ⟨p, hp, rfl⟩ := List.mem_map.1 hmem
      exact ⟨p.2, (hstale p.2).1 hp⟩
    · rintro ⟨entry, hentry⟩
      exact List.mem_map.2 ⟨(key, entry), (hstale entry).2 hentry, rfl⟩
  · have hsplit : cache.size = (cache.purge now).size + stale.length :=
      List.length_eq_length_filter_add _
    rw [expired, List.length_map]
    omega

/-! ## Operations that do not matter -/

/-- The record of a key may be read without the other operations. -/
theorem lastUse_filter {keep : Op → Bool} (hget : keep (.get key) = true) (since : Nat)
    (later : List Record) :
    lastUse key since (later.filter fun r => keep r.op) = lastUse key since later := by
  have hkeep : ∀ r ∈ later, (r.hits key && keep r.op) = r.hits key := by
    intro r _
    by_cases h : r.op = .get key
    · simp [h, hget]
    · simp [Record.hits, h]
  rw [lastUse, List.filter_filter, List.filter_congr hkeep, lastUse]

/-- What is remembered of a key follows from any part of the record that holds all
insertions and readings of it. -/
theorem remembered_filter {keep : Op → Bool} (hget : keep (.get key) = true)
    (hinsert : ∀ v, keep (.insert key v) = true) :
    Remembered ttl (past.filter fun r => keep r.op) now key value ↔
      Remembered ttl past now key value := by
  constructor
  · rintro ⟨since, kept, ⟨⟨earlier, heq⟩, hlast⟩, hnow⟩
    obtain ⟨front, back, rfl, -, hback⟩ := List.filter_eq_append_iff.1 heq
    obtain ⟨between, later, rfl, -, -, rfl⟩ := List.filter_eq_cons_iff.1 hback
    refine ⟨since, later, ⟨⟨front ++ between, by simp⟩, fun r hr v hop => ?_⟩, ?_⟩
    · exact hlast r (List.mem_filter.2 ⟨hr, hop ▸ hinsert v⟩) v hop
    · rwa [lastUse_filter hget] at hnow
  · rintro ⟨since, later, ⟨⟨earlier, rfl⟩, hlast⟩, hnow⟩
    have hlast' : ∀ r ∈ later.filter fun r => keep r.op, ∀ v, r.op ≠ .insert key v :=
      fun r hr => hlast r (List.mem_of_mem_filter hr)
    refine ⟨since, later.filter fun r => keep r.op,
      ⟨⟨earlier.filter fun r => keep r.op, ?_⟩, hlast'⟩, ?_⟩
    · rw [List.filter_append,
        List.filter_cons_of_pos (p := fun r : Record => keep r.op) (hinsert value)]
    · rwa [lastUse_filter hget]

/-- Two caches that keep a record and a part of it answer alike. -/
theorem Tracks.get_eq {cache' : Cache} {keep : Op → Bool} (h : Tracks ttl past cache)
    (h' : Tracks ttl (past.filter fun r => keep r.op) cache')
    (hpast : ∀ r ∈ past, r.time ≤ now) (hget : keep (.get key) = true)
    (hinsert : ∀ v, keep (.insert key v) = true) :
    (cache'.get now key).1 = (cache.get now key).1 := by
  refine Option.ext fun value => ?_
  rw [h.get_eq_some_iff hpast, ← remembered_filter hget hinsert]
  exact h'.get_eq_some_iff fun r hr => hpast r (List.mem_of_mem_filter hr)

/-- A run may leave out purges and keys: the record of the rest is the same. -/
theorem history_filter {cache' : Cache} {keep : Op → Bool} (hpurge : keep .purge = false)
    (hkey : ∀ key, keep (.get key) = true → ∀ v, keep (.insert key v) = true)
    (h : Tracks ttl past cache) (h' : Tracks ttl (past.filter fun r => keep r.op) cache')
    {accesses : List Access} (hpast : Precedes past accesses) (horder : InOrder accesses) :
    (cache.history accesses).filter (fun r => keep r.op) =
      cache'.history (accesses.filter fun a => keep a.op) := by
  induction accesses generalizing past cache cache' with
  | nil => rfl
  | cons a accesses ih =>
    have htimes : ∀ r ∈ past, r.time ≤ a.time := fun r hr => hpast r hr a (by simp)
    have hstep := h.step htimes
    have hrest : Precedes (past ++ [Record.mk a (cache.reply a.time a.op)]) accesses :=
      hpast.cons horder
    have htail := (List.pairwise_cons.1 horder).2
    by_cases hkeep : keep a.op = true
    · have hreply : cache'.reply a.time a.op = cache.reply a.time a.op := by
        obtain ⟨time, op⟩ := a
        cases op with
        | insert key value => rfl
        | get key =>
          exact congrArg Reply.read (h.get_eq h' htimes hkeep (hkey key hkeep))
        | purge => cases hpurge.symm.trans hkeep
      have hstep' := h'.step fun r hr => htimes r (List.mem_of_mem_filter hr)
      rw [hreply] at hstep'
      have hpart : (past ++ [Record.mk a (cache.reply a.time a.op)]).filter (fun r => keep r.op) =
          (past.filter fun r => keep r.op) ++ [Record.mk a (cache.reply a.time a.op)] := by
        simp [List.filter_append, hkeep]
      rw [← hpart] at hstep'
      simp only [history, List.filter_cons, hkeep, if_true, hreply]
      rw [ih hstep hstep' hrest htail]
    · have hpart : (past ++ [Record.mk a (cache.reply a.time a.op)]).filter (fun r => keep r.op) =
          past.filter fun r => keep r.op := by
        simp [List.filter_append, hkeep]
      rw [← hpart] at h'
      simp only [history, List.filter_cons, hkeep]
      exact ih hstep h' hrest htail

/-- Runs that agree in what matters to the kept operations have the same record of them. -/
theorem history_congr (keep : Op → Bool) (hpurge : keep .purge = false)
    (hkey : ∀ key, keep (.get key) = true → ∀ v, keep (.insert key v) = true) (ttl : Nat)
    {accesses accesses' : List Access} (h : InOrder accesses) (h' : InOrder accesses')
    (heq : (accesses'.filter fun a => keep a.op) = accesses.filter fun a => keep a.op) :
    (history { ttl := ttl } accesses').filter (fun r => keep r.op) =
      (history { ttl := ttl } accesses).filter fun r => keep r.op := by
  have hempty := tracks_empty ttl
  rw [history_filter hpurge hkey hempty hempty (fun r hr => by cases hr) h, ← heq,
    history_filter hpurge hkey hempty hempty (fun r hr => by cases hr) h']

/-! ## Runs of a new cache -/

/-- What a new cache holds and answers after any run follows from the record of it. A
value is read exactly if it was inserted last under its key, and inserted or read less
than `ttl` ago. Neither purges nor the operations on other keys change what is read. A
purge drops exactly the entries that are stored and have expired. -/
theorem history_determines (ttl : Nat) {accesses : List Access} (h : InOrder accesses) :
    (∀ now key value, (∀ a ∈ accesses, a.time ≤ now) →
      (((performAll { ttl := ttl } accesses).get now key).1 = some value ↔
        Remembered ttl (history { ttl := ttl } accesses) now key value)) ∧
    (∀ accesses', InOrder accesses' →
      (accesses'.filter fun a => !a.op.isPurge) = (accesses.filter fun a => !a.op.isPurge) →
      ((history { ttl := ttl } accesses').filter fun r => !r.op.isPurge) =
        (history { ttl := ttl } accesses).filter fun r => !r.op.isPurge) ∧
    (∀ key accesses', InOrder accesses' →
      (accesses'.filter fun a => a.op.concerns key) =
        (accesses.filter fun a => a.op.concerns key) →
      ((history { ttl := ttl } accesses').filter fun r => r.op.concerns key) =
        (history { ttl := ttl } accesses).filter fun r => r.op.concerns key) ∧
    (∀ key entry, (performAll { ttl := ttl } accesses).find? key = some entry ↔
      Kept ttl (history { ttl := ttl } accesses) key entry) ∧
    ∀ now, ∃ keys : List String, keys.Nodup ∧
      (∀ key, key ∈ keys ↔ ∃ entry, Kept ttl (history { ttl := ttl } accesses) key entry ∧
        ttl ≤ now - entry.lastAccess) ∧
      (performAll { ttl := ttl } accesses).expired now = keys.length := by
  have htracks := tracks_history ttl h
  refine ⟨fun now key value hnow => ?_, fun accesses' h' heq => ?_, fun key accesses' h' heq => ?_,
    htracks.find?_iff, htracks.expired_eq⟩
  · exact htracks.get_eq_some_iff (time_of_mem_history hnow _)
  · exact history_congr (fun op => !op.isPurge) rfl (fun _ _ _ => rfl) ttl h h' heq
  · exact history_congr (Op.concerns key) rfl (fun k hk _ => hk) ttl h h' heq

/-- Two keys, one of which is read just before it would expire. -/
def twoKeys : List Access :=
  [⟨0, .insert "a" "x"⟩, ⟨10, .insert "b" "y"⟩, ⟨29, .get "a"⟩]

theorem history_determines_twoKeys :
    let past := history { ttl := 30 } twoKeys
    let cache := performAll { ttl := 30 } twoKeys
    InOrder twoKeys ∧ (∀ a ∈ twoKeys, a.time ≤ 58) ∧
      Remembered 30 past 58 "a" "x" ∧ (cache.get 58 "a").1 = some "x" ∧
      ¬ Remembered 30 past 59 "a" "x" ∧ (cache.get 59 "a").1 = none ∧
      ((history { ttl := 30 } (twoKeys ++ [⟨40, .purge⟩])).filter fun r => !r.op.isPurge) = past ∧
      cache.expired 40 = 1 ∧ ∃ entry, Kept 30 past "b" entry ∧ 30 ≤ 40 - entry.lastAccess := by
  intro past cache
  have horder : InOrder twoKeys := by decide
  have htimes : ∀ a ∈ twoKeys, a.time ≤ 58 := by decide
  obtain ⟨hread, hpurges, -, hkept, -⟩ := history_determines 30 horder
  have hhit : (cache.get 58 "a").1 = some "x" := by decide +kernel
  have hmiss : (cache.get 59 "a").1 = none := by decide +kernel
  refine ⟨horder, htimes, (hread 58 "a" "x" htimes).1 hhit, hhit, fun hremembered => ?_, hmiss,
    (hpurges _ (by decide) (by decide)).trans (by decide +kernel), by decide +kernel,
    ⟨"y", 10, 10⟩, (hkept "b" _).1 (by decide +kernel), by decide⟩
  have hlater : ∀ a ∈ twoKeys, a.time ≤ 59 := by decide
  cases hmiss.symm.trans ((hread 59 "a" "x" hlater).2 hremembered)

end Gloss.Cache
