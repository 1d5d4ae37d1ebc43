import Gloss.Config.Variable
import Gloss.Proofs.Config.Fields
import Gloss.Proofs.Text.Lowercase
import Mathlib.Data.List.Induction

/-!
# Fields in the environment

A variable spells a field if its name is `QUILL_` and the keys of the field, with two
underscores between them, in any case (`Field.isNamedBy`). It sets the field only if these
keys have no capital letter, as the name is read in small letters (`Field.isSetBy`). Of
variables that set one field the last counts: `at?_layer` says so of variables none of which
sets a whole section or something below a field (`Unmixed`).
-/

namespace Gloss.Config

open Json (at? Opens overlay)
open Variable (keys? valueOf nest layer)

/-! ## Names -/

/-- A text in small letters. -/
def lowered (s : String) : String :=
  String.ofList (s.toList.map Char.toLower)

namespace Field

/-- The name of the variable for a field. -/
def variableName (f : Field) : String :=
  "QUILL_" ++ "__".intercalate f.path

/-- Whether a variable spells a field, in any case. -/
def isNamedBy (f : Field) (name : String) : Bool :=
  lowered name == lowered f.variableName

/-- Whether a variable sets a field. -/
def isSetBy (f : Field) (name : String) : Bool :=
  f.path.map lowered == f.path && f.isNamedBy name

/-- What the environment gives for a field: the value of the last variable that sets it. -/
def inEnvironment (f : Field) (env : List (String × String)) : Option Json :=
  (env.reverse.find? fun p => f.isSetBy p.1).map fun p => valueOf p.2

/-- Whether one of two ways from the root is a part of the other. -/
def meets (f : Field) (keys : List String) : Bool :=
  keys.isPrefixOf f.path || f.path.isPrefixOf keys

end Field

/-- Whether variables touch fields by their names only: none sets a whole section or
something below a field. -/
def Unmixed (env : List (String × String)) : Prop :=
  ∀ f : Field, (env.all fun p =>
    (keys? p.1).all fun keys => !f.meets keys || f.isNamedBy p.1) = true

/-- The case of a name does not matter. -/
theorem keys?_lowered (name : String) : keys? (lowered name) = keys? name := by
  have hupper : ((name.toList.map Char.toLower).take Variable.mark.length).map Char.toUpper =
      (name.toList.take Variable.mark.length).map Char.toUpper := by
    rw [← List.map_take, List.map_map]
    exact List.map_congr_left fun c _ => Text.toUpper_toLower c
  have hlower : ((name.toList.map Char.toLower).drop Variable.mark.length).map Char.toLower =
      (name.toList.drop Variable.mark.length).map Char.toLower := by
    rw [← List.map_drop, List.map_map]
    exact List.map_congr_left fun c _ => Text.toLower_toLower c
  simp only [keys?, lowered, String.toList_ofList, hupper, hlower]

namespace Field

variable {f : Field} {name : String} {keys : List String}

theorem keys?_variableName (f : Field) : keys? f.variableName = some (f.path.map lowered) := by
  cases f <;> decide +kernel

theorem keys?_of_isNamedBy (h : f.isNamedBy name = true) :
    keys? name = some (f.path.map lowered) := by
  rw [← keys?_lowered, eq_of_beq h, keys?_lowered, keys?_variableName]

theorem keys?_of_isSetBy (h : f.isSetBy name = true) : keys? name = some f.path := by
  obtain ⟨hpath, hname⟩ := Bool.and_eq_true_iff.1 h
  rw [keys?_of_isNamedBy hname, eq_of_beq hpath]

/-- A variable that does not set a field leads elsewhere, if it meets the field only by
its name. -/
theorem meets_eq_false (h : keys? name = some keys)
    (hunmixed : (!f.meets keys || f.isNamedBy name) = true) (hset : f.isSetBy name = false) :
    f.meets keys = false := by
  by_contra hmeets
  rw [Bool.not_eq_false] at hmeets
  have hname : f.isNamedBy name = true := by simpa [hmeets] using hunmixed
  have hkeys : keys = f.path.map lowered :=
    Option.some.inj (h.symm.trans (keys?_of_isNamedBy hname))
  -- Both have the same length, so if one is a part of the other they are equal.
  have hlength : keys.length = f.path.length := by rw [hkeys, List.length_map]
  have heq : keys = f.path := by
    rcases Bool.or_eq_true_iff.1 hmeets with hpre | hpre
    · exact (List.isPrefixOf_iff_prefix.1 hpre).eq_of_length hlength
    · exact ((List.isPrefixOf_iff_prefix.1 hpre).eq_of_length hlength.symm).symm
  have hpath : (f.path.map lowered == f.path) = true := beq_iff_eq.2 (hkeys.symm.trans heq)
  rw [isSetBy, hpath, hname] at hset
  cases hset

end Field

/-! ## Values -/

/-- Whether a value is not null and has no field that is. -/
def NullFree : Json → Prop
  | .null => False
  | .object fields => ∀ p ∈ fields, p.2 ≠ .null
  | _ => True

theorem NullFree.ne_null {j : Json} (h : NullFree j) : j ≠ .null := by
  rintro rfl
  exact h

theorem nullFree_plain (cs : List Char) : NullFree (Variable.plain cs) := by
  unfold Variable.plain
  dsimp only
  repeat' split
  all_goals trivial

theorem nullFree_of_valueFrom {fuel : Nat} {cs rest : List Char} {j : Json}
    (hfields : ∀ {cs fields rest}, Variable.fieldsFrom fuel cs = some (fields, rest) →
      NullFree (.object fields))
    (h : Variable.valueFrom (fuel + 1) cs = some (j, rest)) : NullFree j := by
  rw [Variable.valueFrom] at h
  dsimp only at h
  split at h
  · cases h
    trivial
  · cases h
    trivial
  · split at h
    · obtain ⟨⟨fields, behind⟩, hread, heq⟩ := Option.map_eq_some_iff.1 h
      cases heq
      exact hfields hread
    · obtain ⟨_, -, heq⟩ := Option.map_eq_some_iff.1 h
      cases heq
      trivial
    · obtain ⟨_, -, heq⟩ := Option.map_eq_some_iff.1 h
      cases heq
      trivial
    · cases h
      trivial
    · cases h
    · cases h
      exact nullFree_plain _

theorem nullFree_of_fieldsFrom {fuel : Nat} {cs rest : List Char} {fields : List (String × Json)}
    (hvalue : ∀ {cs j rest}, Variable.valueFrom fuel cs = some (j, rest) → NullFree j)
    (hfields : ∀ {cs fields rest}, Variable.fieldsFrom fuel cs = some (fields, rest) →
      NullFree (.object fields))
    (h : Variable.fieldsFrom (fuel + 1) cs = some (fields, rest)) : NullFree (.object fields) := by
  unfold Variable.fieldsFrom at h
  split at h
  · cases h
    exact fun p hp => absurd hp List.not_mem_nil
  · obtain ⟨⟨key, behind⟩, -, h⟩ := Option.bind_eq_some_iff.1 h
    dsimp only at h
    split at h
    · obtain ⟨⟨value, behind⟩, hread, h⟩ := Option.bind_eq_some_iff.1 h
      dsimp only at h
      split at h
      · obtain ⟨⟨more, behind⟩, hmore, h⟩ := Option.bind_eq_some_iff.1 h
        cases h
        rw [Json.addField]
        split
        · exact hfields hmore
        · exact List.forall_mem_cons.2 ⟨(hvalue hread).ne_null, hfields hmore⟩
      · cases h
        exact List.forall_mem_singleton.2 (hvalue hread).ne_null
      · cases h
    · cases h

theorem nullFree_from (fuel : Nat) :
    (∀ {cs j rest}, Variable.valueFrom fuel cs = some (j, rest) → NullFree j) ∧
    ∀ {cs fields rest}, Variable.fieldsFrom fuel cs = some (fields, rest) →
      NullFree (.object fields) := by
  induction fuel with
  | zero => exact ⟨fun h => by (cases h), fun h => by (cases h)⟩
  | succ fuel ih => exact ⟨nullFree_of_valueFrom ih.2, nullFree_of_fieldsFrom ih.1 ih.2⟩

theorem nullFree_valueOf (text : String) : NullFree (valueOf text) := by
  unfold valueOf
  split
  · rename_i value hvalue
    exact (nullFree_from _).1 hvalue
  · trivial

theorem mem_of_firstField {fields : List (String × Json)} {p : String × Json}
    (h : firstField fields = some p) : p ∈ fields := by
  induction fields generalizing p with
  | nil => cases h
  | cons q fields ih =>
    rw [firstField] at h
    split at h
    · rename_i other hother
      obtain rfl := Option.some.inj h
      split
      · exact List.mem_cons_of_mem _ (ih hother)
      · exact List.mem_cons_self
    · cases h
      exact List.mem_cons_self

/-- A value of a field that a variable can give is no table. -/
theorem Field.valueOf_ne_object {f : Field} {text : String}
    (h : (f.read (valueOf text)).isSome = true) (fields : List (String × Json)) :
    valueOf text ≠ .object fields := by
  intro hobject
  rw [hobject] at h
  cases f
  case generator =>
    simp only [Field.read, Generator.ofJson?] at h
    split at h
    · rename_i key hfirst
      exact (hobject ▸ nullFree_valueOf text : NullFree (.object fields)) _
        (mem_of_firstField hfirst) rfl
    · cases h
  all_goals cases h

/-! ## Layers -/

variable {keys path : List String} {value : Json}

theorem at?_nest (value : Json) (keys : List String) : at? keys (nest value keys) = some value := by
  induction keys with
  | nil => rfl
  | cons key keys ih => simpa [nest, at?, Json.get?, List.lookup_cons] using ih

theorem at?_nest_of_apart (h : ¬ keys <+: path) (h' : ¬ path <+: keys) :
    at? path (nest value keys) = none := by
  induction keys generalizing path with
  | nil => exact absurd (List.nil_prefix) h
  | cons key keys ih =>
    cases path with
    | nil => exact absurd (List.nil_prefix) h'
    | cons k path =>
      rw [nest, at?, Json.get?, Json.lookup_cons_ite]
      split
      · rename_i heq
        subst heq
        rw [List.cons_prefix_cons] at h h'
        exact ih (fun hpre => h ⟨rfl, hpre⟩) (fun hpre => h' ⟨rfl, hpre⟩)
      · rfl

theorem opens_nest (h : ¬ keys <+: path ∨ keys = path) : Opens path (nest value keys) := by
  induction keys generalizing path with
  | nil =>
    rcases h with h | rfl
    · exact absurd (List.nil_prefix) h
    · trivial
  | cons key keys ih =>
    cases path with
    | nil => trivial
    | cons k path =>
      refine ⟨_, rfl, List.nodup_singleton key, fun found hfound => ?_⟩
      rw [Json.lookup_cons_ite] at hfound
      split at hfound
      · rename_i heq
        subst heq
        cases hfound
        rw [List.cons_prefix_cons, List.cons.injEq] at h
        exact ih (h.imp (fun hpre hpre' => hpre ⟨rfl, hpre'⟩) And.right)
      · cases hfound

theorem layer_append (env : List (String × String)) (p : String × String) :
    layer (env ++ [p]) = match keys? p.1 with
      | some keys => (layer env).merge (nest (valueOf p.2) keys)
      | none => layer env := by
  rw [layer, List.foldl_append]
  rfl

theorem Unmixed.left {env : List (String × String)} {p : String × String}
    (h : Unmixed (env ++ [p])) : Unmixed env := fun f => by
  have hall := h f
  rw [List.all_append, Bool.and_eq_true] at hall
  exact hall.1

namespace Field

variable {f : Field} {env : List (String × String)} {p : String × String}

theorem inEnvironment_append (f : Field) (env : List (String × String)) (p : String × String) :
    f.inEnvironment (env ++ [p]) =
      if f.isSetBy p.1 then some (valueOf p.2) else f.inEnvironment env := by
  rw [inEnvironment, List.reverse_append, List.reverse_singleton, List.singleton_append,
    List.find?_cons]
  cases f.isSetBy p.1 <;> rfl

/-- What one more variable does at a field. -/
theorem at?_layer_append (f : Field) (h : Unmixed (env ++ [p]))
    (hopens : Opens f.path (layer env)) :
    Opens f.path (layer (env ++ [p])) ∧
      at? f.path (layer (env ++ [p])) =
        if f.isSetBy p.1 then overlay (at? f.path (layer env)) (some (valueOf p.2))
        else at? f.path (layer env) := by
  rw [layer_append]
  cases hkeys : keys? p.1 with
  | none =>
    have hset : f.isSetBy p.1 = false := by
      by_contra hset
      rw [Bool.not_eq_false] at hset
      cases hkeys.symm.trans (keys?_of_isSetBy hset)
    rw [hset]
    exact ⟨hopens, rfl⟩
  | some keys =>
    cases hset : f.isSetBy p.1 with
    | true =>
      obtain rfl := Option.some.inj (hkeys.symm.trans (keys?_of_isSetBy hset))
      have hnest : Opens f.path (nest (valueOf p.2) f.path) := opens_nest (.inr rfl)
      refine ⟨hopens.merge hnest, ?_⟩
      rw [Json.at?_merge hnest, at?_nest]
      rfl
    | false =>
      have hunmixed : (!f.meets keys || f.isNamedBy p.1) = true := by
        have hall := h f
        rw [List.all_append, Bool.and_eq_true] at hall
        simpa [hkeys] using hall.2
      have hmeets := meets_eq_false hkeys hunmixed hset
      obtain ⟨hpre, hpre'⟩ := Bool.or_eq_false_iff.1 hmeets
      rw [← Bool.not_eq_true, List.isPrefixOf_iff_prefix] at hpre hpre'
      have hnest : Opens f.path (nest (valueOf p.2) keys) := opens_nest (.inl hpre)
      refine ⟨hopens.merge hnest, ?_⟩
      rw [Json.at?_merge hnest, at?_nest_of_apart hpre hpre', Json.overlay_none_right]
      rfl

theorem opens_layer (f : Field) (h : Unmixed env) : Opens f.path (layer env) := by
  induction env using List.reverseRecOn with
  | nil =>
    have hempty : ∀ key keys, Opens (key :: keys) (.object []) := fun key keys =>
      ⟨[], rfl, List.nodup_nil, fun _ hvalue => by (cases hvalue)⟩
    rcases f.path_cases with ⟨key, hpath⟩ | ⟨key, hpath⟩ <;> rw [hpath] <;> exact hempty _ _
  | append_singleton env p ih => exact (at?_layer_append f h (ih h.left)).1

/-- The layer of the environment holds at a field what the environment gives for it. -/
theorem at?_layer (f : Field) (h : Unmixed env)
    (hvalid : (f.inEnvironment env).all (fun j => (f.read j).isSome) = true) :
    at? f.path (layer env) = f.inEnvironment env := by
  induction env using List.reverseRecOn with
  | nil => cases f <;> rfl
  | append_singleton env p ih =>
    rw [inEnvironment_append] at hvalid ⊢
    rw [(at?_layer_append f h (f.opens_layer h.left)).2]
    split
    · rename_i hset
      rw [if_pos hset] at hvalid
      -- A value laid over another is what is there, as it is no table.
      have hvalue := Json.merge_of_not_object (valueOf_ne_object hvalid)
      cases at? f.path (layer env) with
      | none => rfl
      | some under => exact congrArg some (hvalue under)
    · rename_i hset
      rw [if_neg hset] at hvalid
      exact ih h.left hvalid

end Field

end Gloss.Config
