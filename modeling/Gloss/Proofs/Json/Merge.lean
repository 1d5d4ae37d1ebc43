import Gloss.Json.Read
import Mathlib.Data.List.Nodup

/-!
# Values laid over others

What stands below some keys when one value is laid over another (`at?_merge`): what the
upper value has there, laid over what the lower one has, and the latter if the upper one
has nothing there. The upper value has to be made of objects with distinct keys down
these keys (`Opens`). So are all values that are read, as far as they are objects
(`distinct_of_read?`).
-/

namespace Gloss.Json

/-! ## Merging -/

/-- Whether a value is an object. -/
def isObject : Json → Bool
  | object _ => true
  | _ => false

theorem isObject_iff {j : Json} : j.isObject = true ↔ ∃ fields, j = object fields := by
  cases j <;> simp [isObject]

/-- The value below some keys. -/
def at? : List String → Json → Option Json
  | [], j => some j
  | key :: keys, j => (j.get? key).bind (at? keys)

theorem at?_singleton (key : String) (j : Json) : at? [key] j = j.get? key := by
  rw [at?]
  cases j.get? key <;> rfl

/-- What one place holds when a value is laid over another. -/
def overlay : Option Json → Option Json → Option Json
  | some under, some top => some (under.merge top)
  | none, top => top
  | under, none => under

@[simp] theorem overlay_none_left (top : Option Json) : overlay none top = top := by
  cases top <;> rfl

@[simp] theorem overlay_none_right (under : Option Json) : overlay under none = under := by
  cases under <;> rfl

/-- Whether a value is made of objects with distinct keys down some keys, as far as there
is anything. -/
def Opens : List String → Json → Prop
  | [], _ => True
  | key :: keys, j => ∃ fields, j = object fields ∧ (fields.map Prod.fst).Nodup ∧
      ∀ value, fields.lookup key = some value → Opens keys value

section

variable {under fields : List (String × Json)} {key k : String} {value : Json}

theorem lookup_eq_none_of_not_mem (h : key ∉ fields.map Prod.fst) : fields.lookup key = none := by
  refine List.lookup_eq_none_iff.2 fun p hp => ?_
  have hne : key ≠ p.1 := fun heq => h (heq ▸ List.mem_map_of_mem hp)
  simpa using hne

theorem lookup_cons_ite (p : String × Json) (fields : List (String × Json)) (k : String) :
    (p :: fields).lookup k = if k = p.1 then some p.2 else fields.lookup k := by
  obtain ⟨key, value⟩ := p
  rw [List.lookup_cons]
  by_cases hk : k = key
  · simp [hk]
  · simp [hk, beq_false_of_ne hk]

theorem lookup_setField (key k : String) (value : Json) (fields : List (String × Json)) :
    (setField key value fields).lookup k = if k = key then some value else fields.lookup k := by
  induction fields with
  | nil => exact lookup_cons_ite (key, value) [] k
  | cons p fields ih =>
    rw [setField]
    split
    · rename_i heq
      subst heq
      rw [lookup_cons_ite, lookup_cons_ite]
      split <;> rfl
    · rename_i hne
      rw [lookup_cons_ite, lookup_cons_ite, ih]
      by_cases hk : k = p.1
      · rw [if_pos hk, if_pos hk, if_neg (hk ▸ hne)]
      · rw [if_neg hk, if_neg hk]

theorem mem_keys_setField :
    k ∈ (setField key value fields).map Prod.fst ↔ k = key ∨ k ∈ fields.map Prod.fst := by
  induction fields with
  | nil => simp [setField]
  | cons p fields ih =>
    rw [setField]
    split
    · rename_i heq
      simp [heq]
    · rw [List.map_cons, List.mem_cons, ih, List.map_cons, List.mem_cons]
      exact or_left_comm

theorem nodup_setField (h : (fields.map Prod.fst).Nodup) (key : String) (value : Json) :
    ((setField key value fields).map Prod.fst).Nodup := by
  induction fields with
  | nil => simp [setField]
  | cons p fields ih =>
    obtain ⟨hp, hfields⟩ := List.nodup_cons.1 h
    rw [setField]
    split
    · exact List.nodup_cons.2 ⟨hp, hfields⟩
    · rename_i hne
      refine List.nodup_cons.2 ⟨fun hmem => ?_, ih hfields⟩
      rcases mem_keys_setField.1 hmem with heq | hmem
      · exact hne heq
      · exact hp hmem

theorem nodup_mergeFields (h : (under.map Prod.fst).Nodup) (fields : List (String × Json)) :
    ((mergeFields under fields).map Prod.fst).Nodup := by
  induction fields generalizing under with
  | nil => rwa [mergeFields]
  | cons p fields ih =>
    rw [mergeFields]
    exact ih (nodup_setField h _ _)

/-- A field of two objects, one laid over the other. -/
theorem lookup_mergeFields (h : (fields.map Prod.fst).Nodup) (under : List (String × Json))
    (k : String) :
    (mergeFields under fields).lookup k = overlay (under.lookup k) (fields.lookup k) := by
  induction fields generalizing under with
  | nil => simp [mergeFields]
  | cons p fields ih =>
    obtain ⟨hkey, hfields⟩ := List.nodup_cons.1 h
    rw [mergeFields, ih hfields, lookup_setField, lookup_cons_ite]
    by_cases hk : k = p.1
    · rw [if_pos hk, if_pos hk, hk, lookup_eq_none_of_not_mem hkey, overlay_none_right]
      cases under.lookup p.1 <;> rfl
    · rw [if_neg hk, if_neg hk]

end

variable {keys : List String} {under top : Json}

theorem merge_of_not_object (h : ∀ fields, top ≠ object fields) (under : Json) :
    under.merge top = top := by
  cases top with
  | object fields => exact absurd rfl (h fields)
  | _ => rw [merge]; exact h

theorem merge_over_not_object (h : ∀ fields, under ≠ object fields) (top : Json) :
    under.merge top = top := by
  cases top with
  | object fields =>
    cases under with
    | object old => exact absurd rfl (h old)
    | _ => rw [merge]; exact h
  | _ => exact merge_of_not_object (by simp) under

theorem overlay_eq_or {under top : Option Json}
    (h : (∀ j, under = some j → ∀ fields, j ≠ object fields) ∨
      ∀ j, top = some j → ∀ fields, j ≠ object fields) : overlay under top = top.or under := by
  match under, top with
  | none, top => rw [overlay_none_left, Option.or_none]
  | some j, none => rfl
  | some j, some j' =>
    refine congrArg some ?_
    rcases h with h | h
    · exact merge_over_not_object (h j rfl) j'
    · exact merge_of_not_object (h j' rfl) j

theorem at?_of_not_object (h : ∀ fields, under ≠ object fields) (key : String)
    (keys : List String) : at? (key :: keys) under = none := by
  cases under with
  | object fields => exact absurd rfl (h fields)
  | _ => rfl

/-- What is below some keys in a value laid over another. -/
theorem at?_merge (h : Opens keys top) (under : Json) :
    at? keys (under.merge top) = overlay (at? keys under) (at? keys top) := by
  induction keys generalizing under top with
  | nil => rfl
  | cons key keys ih =>
    obtain ⟨fields, rfl, hnodup, hopens⟩ := h
    by_cases hunder : ∃ old, under = object old
    · obtain ⟨old, rfl⟩ := hunder
      rw [merge]
      simp only [at?, get?, lookup_mergeFields hnodup]
      cases hvalue : fields.lookup key with
      | none => simp
      | some value =>
        cases old.lookup key with
        | none => simp
        | some below => exact ih (hopens value hvalue) below
    · have hnone : ∀ old, under ≠ object old := fun old heq => hunder ⟨old, heq⟩
      rw [merge_over_not_object hnone, at?_of_not_object hnone, overlay_none_left]

theorem Opens.merge (hunder : Opens keys under) (htop : Opens keys top) :
    Opens keys (under.merge top) := by
  induction keys generalizing under top with
  | nil => trivial
  | cons key keys ih =>
    obtain ⟨old, rfl, hold, hbelow⟩ := hunder
    obtain ⟨fields, rfl, hnodup, hopens⟩ := htop
    rw [Json.merge]
    refine ⟨_, rfl, nodup_mergeFields hold fields, fun value hvalue => ?_⟩
    rw [lookup_mergeFields hnodup] at hvalue
    cases hold : old.lookup key with
    | none =>
      rw [hold, overlay_none_left] at hvalue
      exact hopens value hvalue
    | some below =>
      cases hfield : fields.lookup key with
      | none =>
        rw [hfield, overlay_none_right] at hvalue
        exact hbelow value hvalue
      | some above =>
        rw [hold, hfield] at hvalue
        cases hvalue
        exact ih (hbelow below hold) (hopens above hfield)

/-! ## Reading -/

/-- Whether the keys of an object, and of the objects in its fields, are distinct. -/
inductive Distinct : Json → Prop where
  | object {fields : List (String × Json)} (nodup : (fields.map Prod.fst).Nodup)
      (values : ∀ p ∈ fields, Distinct p.2) : Distinct (.object fields)
  | other {j : Json} (h : ∀ fields, j ≠ .object fields) : Distinct j

theorem Distinct.addField {fields : List (String × Json)} {value : Json} (key : String)
    (hvalue : Distinct value) (h : Distinct (.object fields)) :
    Distinct (.object (addField key value fields)) := by
  cases h with
  | other h => exact absurd rfl (h fields)
  | object hnodup hvalues =>
    rw [Json.addField]
    split
    · exact .object hnodup hvalues
    · rename_i hnone
      refine .object (List.nodup_cons.2 ⟨fun hmem => hnone ?_, hnodup⟩)
        (List.forall_mem_cons.2 ⟨hvalue, hvalues⟩)
      obtain ⟨p, hp, heq⟩ := List.mem_map.1 hmem
      exact List.any_eq_true.2 ⟨p, hp, by simpa using heq⟩

theorem distinct_singleton {value : Json} (key : String) (hvalue : Distinct value) :
    Distinct (.object [(key, value)]) :=
  .object (List.nodup_singleton key) (by simpa using hvalue)

theorem numberOf_ne_object (text : List Char) (fields : List (String × Json)) :
    numberOf text ≠ some (.object fields) := by
  unfold numberOf
  split
  · split <;> simp
  · split
    · split <;> simp
    · simp

theorem distinct_of_fieldsFrom {fuel depth : Nat} {cs rest : List Char}
    {fields : List (String × Json)}
    (hvalue : ∀ {cs j rest}, valueFrom fuel depth cs = some (j, rest) → Distinct j)
    (hfields : ∀ {cs fields rest}, fieldsFrom fuel depth cs = some (fields, rest) →
      Distinct (.object fields))
    (h : fieldsFrom (fuel + 1) depth cs = some (fields, rest)) : Distinct (.object fields) := by
  rw [fieldsFrom] at h
  split at h
  · obtain ⟨⟨key, behind⟩, -, h⟩ := Option.bind_eq_some_iff.1 h
    dsimp only at h
    split at h
    · obtain ⟨⟨value, behind⟩, hread, h⟩ := Option.bind_eq_some_iff.1 h
      dsimp only at h
      split at h
      · cases h
        exact distinct_singleton _ (hvalue hread)
      · obtain ⟨⟨more, behind⟩, hmore, h⟩ := Option.bind_eq_some_iff.1 h
        cases h
        exact .addField _ (hvalue hread) (hfields hmore)
      · cases h
    · cases h
  · cases h

theorem distinct_of_valueFrom {fuel depth : Nat} {cs rest : List Char} {j : Json}
    (hfields : ∀ {depth cs fields rest}, fieldsFrom fuel depth cs = some (fields, rest) →
      Distinct (.object fields))
    (h : valueFrom (fuel + 1) depth cs = some (j, rest)) : Distinct j := by
  by_cases hobject : ∃ fields, j = .object fields
  · obtain ⟨fields, rfl⟩ := hobject
    rw [valueFrom] at h
    split at h
    · obtain ⟨_, -, heq⟩ := Option.map_eq_some_iff.1 h
      cases heq
    · split at h
      · cases h
      · split at h
        · cases h
        · obtain ⟨_, -, heq⟩ := Option.map_eq_some_iff.1 h
          cases heq
    · split at h
      · cases h
      · split at h
        · cases h
          exact .object List.nodup_nil (by simp)
        · obtain ⟨⟨found, behind⟩, hread, heq⟩ := Option.map_eq_some_iff.1 h
          cases heq
          exact hfields hread
    · split at h
      · cases h
      · cases h
      · cases h
      · obtain ⟨value, hnumber, heq⟩ := Option.map_eq_some_iff.1 h
        cases heq
        exact absurd hnumber (numberOf_ne_object _ _)
  · exact .other fun fields heq => hobject ⟨fields, heq⟩

/-- All values that are read have distinct keys. -/
theorem distinct_from (fuel : Nat) :
    (∀ {depth cs j rest}, valueFrom fuel depth cs = some (j, rest) → Distinct j) ∧
    ∀ {depth cs fields rest}, fieldsFrom fuel depth cs = some (fields, rest) →
      Distinct (.object fields) := by
  induction fuel with
  | zero => exact ⟨fun h => by (cases h), fun h => by (cases h)⟩
  | succ fuel ih => exact ⟨distinct_of_valueFrom ih.2, distinct_of_fieldsFrom ih.1 ih.2⟩

theorem distinct_of_read? {text : String} {j : Json} (h : read? text = some j) : Distinct j := by
  unfold read? at h
  split at h
  · rename_i value rest hread
    split at h
    · cases h
      exact (distinct_from _).1 hread
    · cases h
  · cases h

theorem Distinct.opens {fields : List (String × Json)} {key : String}
    (h : Distinct (.object fields))
    (hbelow : ∀ value, fields.lookup key = some value → Distinct value → Opens keys value) :
    Opens (key :: keys) (.object fields) := by
  cases h with
  | other h => exact absurd rfl (h fields)
  | object hnodup hvalues =>
    refine ⟨fields, rfl, hnodup, fun value hvalue => hbelow value hvalue ?_⟩
    obtain ⟨pre, post, rfl, -⟩ := List.lookup_eq_some_iff.1 hvalue
    exact hvalues (key, value) (by simp)

end Gloss.Json
