import Gloss.Cache.Basic

/-!
# What is found in a cache

A cache is seen through `find?`: what each operation does to the entry of a key,
and that it leaves those of other keys alone. `get_of_fresh` and `get_of_stale`
say all that reading a value does.
-/

namespace Gloss.Cache

variable {cache : Cache} {key k : String}

theorem find?_erase_self (cache : Cache) (key : String) : (cache.erase key).find? key = none := by
  rw [find?, erase, List.lookup_eq_none_iff]
  intro p hp
  have hne : (p.1 != key) = true := (List.mem_filter.1 hp).2
  simpa using Ne.symm (bne_iff_ne.1 hne)

theorem find?_erase_of_ne (cache : Cache) (h : k ≠ key) :
    (cache.erase key).find? k = cache.find? k := by
  unfold find? erase
  induction cache.entries with
  | nil => rfl
  | cons p entries ih =>
    obtain ⟨k', entry⟩ := p
    by_cases hk : k' = key
    · have hne : (k == k') = false := by simp [hk, h]
      rw [List.lookup_cons, hne, ← ih]
      simp [hk]
    · have hkeep : (k' != key) = true := by simpa using hk
      rw [List.filter_cons_of_pos (by simpa using hkeep), List.lookup_cons, List.lookup_cons, ih]

theorem find?_put_self (cache : Cache) (key : String) (entry : Entry) :
    (cache.put key entry).find? key = some entry := by
  simp [find?, put]

theorem find?_put_of_ne (cache : Cache) (entry : Entry) (h : k ≠ key) :
    (cache.put key entry).find? k = cache.find? k := by
  have hne : (k == key) = false := by simpa using h
  rw [← find?_erase_of_ne cache h]
  simp only [find?, put, List.lookup_cons, hne]

/-- A key that is not found has nothing to erase. -/
theorem erase_of_find?_eq_none (h : cache.find? key = none) : cache.erase key = cache := by
  have hkeep : cache.entries.filter (fun p => p.1 != key) = cache.entries := by
    rw [List.filter_eq_self]
    intro p hp
    have hne : ¬ key = p.1 := by simpa using List.lookup_eq_none_iff.1 h p hp
    exact bne_iff_ne.2 (Ne.symm hne)
  exact congrArg (fun entries => { cache with entries := entries }) hkeep

/-! ## Reading -/

/-- A value that has not expired is read, and kept for another while. -/
theorem get_of_fresh {entry : Entry} {now : Nat} (he : cache.enabled = true)
    (hfind : cache.find? key = some entry) (hfresh : cache.isFresh now entry = true) :
    cache.get now key = (some entry.value, cache.put key { entry with lastAccess := now }) := by
  simp [get, he, hfind, hfresh]

/-- Nothing to read: there is no entry, or it has expired. -/
def Stale (cache : Cache) (now : Nat) (key : String) : Prop :=
  ∀ entry, cache.find? key = some entry → cache.isFresh now entry = false

/-- Where there is nothing to read, the key is forgotten. -/
theorem get_of_stale {now : Nat} (he : cache.enabled = true) (h : cache.Stale now key) :
    cache.get now key = (none, cache.erase key) := by
  cases hfind : cache.find? key with
  | none => simp [get, he, hfind, erase_of_find?_eq_none hfind]
  | some entry => simp [get, he, hfind, h entry hfind]

theorem fresh_or_stale (cache : Cache) (now : Nat) (key : String) :
    (∃ entry, cache.find? key = some entry ∧ cache.isFresh now entry = true) ∨
      cache.Stale now key := by
  by_cases h : ∃ entry, cache.find? key = some entry ∧ cache.isFresh now entry = true
  · exact .inl h
  · exact .inr fun entry hfind => by
      rw [← Bool.not_eq_true]
      exact fun hfresh => h ⟨entry, hfind, hfresh⟩

end Gloss.Cache
