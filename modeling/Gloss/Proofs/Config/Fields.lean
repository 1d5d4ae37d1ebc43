import Gloss.Config.Basic
import Gloss.Proofs.Json.Merge

/-!
# The fields of a configuration

All that can be configured, field by field: the keys that lead to a field, how its values
are read and written, and what is accepted. A value from which all fields can be read is a
configuration of these fields (`ofJson?_of_values`), and one whose fields are accepted is
valid (`validate_of_accepts`).
-/

namespace Gloss.Config

open Json (at? Opens)

/-- What can be configured. -/
inductive Field where
  | generator
  | fallback
  | backup
  | constFieldsOnly
  | concurrency
  | provider
  | model
  | url
  | cacheEnabled
  | cacheTtlSeconds
  | timeoutSeconds
  deriving DecidableEq, Repr

namespace Field

/-- All fields. -/
def all : List Field :=
  [generator, fallback, backup, constFieldsOnly, concurrency, provider, model, url, cacheEnabled,
    cacheTtlSeconds, timeoutSeconds]

theorem mem_all (f : Field) : f ∈ all := by
  cases f <;> decide

instance {p : Field → Prop} [DecidablePred p] : Decidable (∀ f, p f) :=
  decidable_of_iff (∀ f ∈ all, p f) ⟨fun h f => h f (mem_all f), fun h f _ => h f⟩

/-- The keys that lead to a field. -/
def path : Field → List String
  | generator => ["generator"]
  | fallback => ["fallback"]
  | backup => ["backup"]
  | constFieldsOnly => ["constFieldsOnly"]
  | concurrency => ["concurrency"]
  | provider => ["llm", "provider"]
  | model => ["llm", "model"]
  | url => ["llm", "url"]
  | cacheEnabled => ["llm", "cacheEnabled"]
  | cacheTtlSeconds => ["llm", "cacheTtlSeconds"]
  | timeoutSeconds => ["llm", "timeoutSeconds"]

theorem path_cases (f : Field) : (∃ key, f.path = [key]) ∨ ∃ key, f.path = ["llm", key] := by
  cases f <;> simp [path]

/-- The values of a field. -/
abbrev Value : Field → Type
  | generator => Generator
  | fallback | backup | constFieldsOnly | cacheEnabled => Bool
  | concurrency | cacheTtlSeconds | timeoutSeconds => Nat
  | provider | model | url => String

/-- The value of a field that a JSON value holds. -/
def read : (f : Field) → Json → Option f.Value
  | generator => Generator.ofJson?
  | fallback => boolOf?
  | backup => boolOf?
  | constFieldsOnly => boolOf?
  | concurrency => naturalOf?
  | provider => textOf?
  | model => textOf?
  | url => textOf?
  | cacheEnabled => boolOf?
  | cacheTtlSeconds => naturalOf?
  | timeoutSeconds => naturalOf?

/-- A value of a field as JSON. -/
def write : (f : Field) → f.Value → Json
  | generator => fun g => .string g.label
  | fallback => .bool
  | backup => .bool
  | constFieldsOnly => .bool
  | concurrency => .natural
  | provider => .string
  | model => .string
  | url => .string
  | cacheEnabled => .bool
  | cacheTtlSeconds => .natural
  | timeoutSeconds => .natural

/-- The value of a field in a configuration. -/
def get : (f : Field) → Config → f.Value
  | generator => Config.generator
  | fallback => Config.fallback
  | backup => Config.backup
  | constFieldsOnly => Config.constFieldsOnly
  | concurrency => Config.concurrency
  | provider => fun config => config.llm.provider
  | model => fun config => config.llm.model
  | url => fun config => config.llm.url
  | cacheEnabled => fun config => config.llm.cacheEnabled
  | cacheTtlSeconds => fun config => config.llm.cacheTtlSeconds
  | timeoutSeconds => fun config => config.llm.timeoutSeconds

/-- The value of a field that is given on the command line. -/
def override : (f : Field) → Overrides → Option f.Value
  | generator => Overrides.generator
  | fallback => Overrides.fallback
  | backup => Overrides.backup
  | constFieldsOnly => Overrides.constFieldsOnly
  | concurrency => Overrides.concurrency
  | model => Overrides.model
  | url => Overrides.url
  | provider => fun _ => none
  | cacheEnabled => fun _ => none
  | cacheTtlSeconds => fun _ => none
  | timeoutSeconds => fun _ => none

/-- Whether a value may be given to a field. -/
def accepts : (f : Field) → f.Value → Bool
  | generator => fun _ => true
  | fallback => fun _ => true
  | backup => fun _ => true
  | constFieldsOnly => fun _ => true
  | cacheEnabled => fun _ => true
  | concurrency => fun n => n != 0
  | provider => fun provider => provider == "ollama"
  | model => fun model => !model.isEmpty
  | url => fun url => !url.isEmpty
  | cacheTtlSeconds => fun n => n != 0
  | timeoutSeconds => fun n => n != 0

theorem read_write (f : Field) (value : f.Value) : f.read (f.write value) = some value := by
  cases f
  case generator => cases value <;> decide
  all_goals rfl

theorem write_ne_object (f : Field) (value : f.Value) (fields : List (String × Json)) :
    f.write value ≠ .object fields := by
  cases f <;> simp [write]

end Field

/-! ## Configurations -/

/-- The configuration with some values. -/
def ofValues (value : (f : Field) → f.Value) : Config where
  generator := value .generator
  fallback := value .fallback
  backup := value .backup
  constFieldsOnly := value .constFieldsOnly
  concurrency := value .concurrency
  llm :=
    { provider := value .provider
      model := value .model
      url := value .url
      cacheEnabled := value .cacheEnabled
      cacheTtlSeconds := value .cacheTtlSeconds
      timeoutSeconds := value .timeoutSeconds }

theorem get_ofValues (value : (f : Field) → f.Value) (f : Field) :
    f.get (ofValues value) = value f := by
  cases f <;> rfl

theorem validate_of_accepts {config : Config} (h : ∀ f : Field, f.accepts (f.get config) = true) :
    config.validate = .ok () := by
  have hconcurrency : config.concurrency ≠ 0 := bne_iff_ne.1 (h .concurrency)
  have hprovider : config.llm.provider = "ollama" := eq_of_beq (h .provider)
  have hmodel : config.llm.model.isEmpty = false := Bool.not_eq_true' _ ▸ h .model
  have hurl : config.llm.url.isEmpty = false := Bool.not_eq_true' _ ▸ h .url
  have htimeout : config.llm.timeoutSeconds ≠ 0 := bne_iff_ne.1 (h .timeoutSeconds)
  have httl : config.llm.cacheTtlSeconds ≠ 0 := bne_iff_ne.1 (h .cacheTtlSeconds)
  have hsettings : config.llm.validate = .ok () := by
    simp [Generation.Settings.validate, hprovider, hmodel, hurl, htimeout, httl]
  rw [validate, if_neg hconcurrency, hsettings]
  split <;> rfl

theorem fieldOr_of_read {α : Type} {j : Json} {key : String} {read : Json → Option α} {value : α}
    (h : (at? [key] j).bind read = some value) (missing : α) :
    fieldOr j key missing read = some value := by
  rw [Json.at?_singleton] at h
  obtain ⟨found, hfound, hread⟩ := Option.bind_eq_some_iff.1 h
  rw [fieldOr, hfound]
  exact hread

/-- A value from which all fields can be read is a configuration. -/
theorem ofJson?_of_values {j : Json} {value : (f : Field) → f.Value}
    (hopens : ∀ f : Field, Opens f.path j)
    (hvalue : ∀ f : Field, (at? f.path j).bind f.read = some (value f)) :
    ofJson? j = some (ofValues value) := by
  -- The section of the generation is there, as one of its fields is.
  obtain ⟨inner, hllm⟩ : ∃ inner, j.get? "llm" = some (.object inner) := by
    obtain ⟨_, hmodel, -⟩ := Option.bind_eq_some_iff.1 (hvalue .model)
    obtain ⟨section', hsection, -⟩ := Option.bind_eq_some_iff.1 hmodel
    obtain ⟨fields, rfl, -, hbelow⟩ := hopens .model
    obtain ⟨inner, rfl, -⟩ := hbelow section' hsection
    exact ⟨inner, hsection⟩
  have hinner : ∀ {α : Type} {key : String} {read : Json → Option α} {value : α},
      (at? ["llm", key] j).bind read = some value →
        ∀ missing, fieldOr (.object inner) key missing read = some value := by
    intro α key read value h missing
    refine fieldOr_of_read ?_ missing
    rw [at?, hllm] at h
    exact h
  have hsettings : settingsOf? (.object inner) = some (ofValues value).llm := by
    have hprovider : ∀ missing, fieldOr (.object inner) "provider" missing textOf? =
      some (value .provider) := hinner (hvalue .provider)
    have hmodel : ∀ missing, fieldOr (.object inner) "model" missing textOf? =
      some (value .model) := hinner (hvalue .model)
    have hurl : ∀ missing, fieldOr (.object inner) "url" missing textOf? =
      some (value .url) := hinner (hvalue .url)
    have henabled : ∀ missing, fieldOr (.object inner) "cacheEnabled" missing boolOf? =
      some (value .cacheEnabled) := hinner (hvalue .cacheEnabled)
    have httl : ∀ missing, fieldOr (.object inner) "cacheTtlSeconds" missing naturalOf? =
      some (value .cacheTtlSeconds) := hinner (hvalue .cacheTtlSeconds)
    have htimeout : ∀ missing, fieldOr (.object inner) "timeoutSeconds" missing naturalOf? =
      some (value .timeoutSeconds) := hinner (hvalue .timeoutSeconds)
    rw [settingsOf?, settingsOfObject?, hprovider, hmodel, hurl, henabled, httl, htimeout]
    rfl
  have hgenerator : ∀ missing, fieldOr j "generator" missing Generator.ofJson? =
    some (value .generator) := fieldOr_of_read (hvalue .generator)
  have hfallback : ∀ missing, fieldOr j "fallback" missing boolOf? =
    some (value .fallback) := fieldOr_of_read (hvalue .fallback)
  have hbackup : ∀ missing, fieldOr j "backup" missing boolOf? =
    some (value .backup) := fieldOr_of_read (hvalue .backup)
  have hconst : ∀ missing, fieldOr j "constFieldsOnly" missing boolOf? =
    some (value .constFieldsOnly) := fieldOr_of_read (hvalue .constFieldsOnly)
  have hconcurrency : ∀ missing, fieldOr j "concurrency" missing naturalOf? =
    some (value .concurrency) := fieldOr_of_read (hvalue .concurrency)
  have hsection : ∀ missing, fieldOr j "llm" missing settingsOf? = some (ofValues value).llm := by
    intro missing
    rw [fieldOr, hllm]
    exact hsettings
  rw [ofJson?, hgenerator, hfallback, hbackup, hconst, hconcurrency, hsection]
  rfl

/-! ## The lowest and the highest layer -/

theorem opens_toJson (config : Config) (f : Field) : Opens f.path config.toJson := by
  have houter : ∀ key keys, (∀ value, config.toJson.get? key = some value → Opens keys value) →
      Opens (key :: keys) config.toJson := fun key keys h => ⟨_, rfl, by simp, h⟩
  rcases f.path_cases with ⟨key, hpath⟩ | ⟨key, hpath⟩ <;> rw [hpath]
  · exact houter key [] fun _ _ => trivial
  · refine houter "llm" [key] fun value hvalue => ?_
    obtain rfl : settingsJson config.llm = value := Option.some.inj hvalue
    exact ⟨_, rfl, by simp, fun _ _ => trivial⟩

theorem at?_toJson (config : Config) (f : Field) :
    at? f.path config.toJson = some (f.write (f.get config)) := by
  cases f <;> rfl

theorem lookup_optionalField {α : Type} (key k : String) (write : α → Json) (value : Option α) :
    (optionalField key write value).lookup k = if k = key then value.map write else none := by
  cases value with
  | none => simp [optionalField]
  | some v => exact Json.lookup_cons_ite (key, write v) [] k

theorem keys_optionalField {α : Type} (key : String) (write : α → Json) (value : Option α) :
    ((optionalField key write value).map Prod.fst).Sublist [key] := by
  cases value <;> simp [optionalField]

theorem lookup_section (fields : List (String × Json)) (k : String) :
    (if fields.isEmpty then [] else [("llm", Json.object fields)]).lookup k =
      if k = "llm" ∧ fields ≠ [] then some (.object fields) else none := by
  cases fields with
  | nil => simp
  | cons p fields =>
    rw [List.isEmpty_cons, if_neg Bool.false_ne_true, Json.lookup_cons_ite]
    simp

/-- What overrides say of the generation. -/
def Overrides.inner (o : Overrides) : List (String × Json) :=
  optionalField "model" .string o.model ++ optionalField "url" .string o.url

/-- The section of the generation is there only if it holds something. -/
theorem get?_overrides_llm (o : Overrides) :
    o.toJson.get? "llm" = if o.inner ≠ [] then some (.object o.inner) else none := by
  simp only [Overrides.toJson, Json.get?, List.lookup_append, lookup_optionalField, lookup_section]
  simp [Overrides.inner]

theorem at?_overrides_inner (o : Overrides) (key : String) :
    at? ["llm", key] o.toJson = o.inner.lookup key := by
  rw [at?, get?_overrides_llm]
  split
  · exact Json.at?_singleton key (.object o.inner)
  · rename_i hnil
    rw [not_not.1 hnil]
    rfl

/-- Overrides hold what is given on the command line and no more. -/
theorem at?_overrides (o : Overrides) (f : Field) :
    at? f.path o.toJson = (f.override o).map f.write := by
  cases f
  case provider | model | url | cacheEnabled | cacheTtlSeconds | timeoutSeconds =>
    rw [Field.path, at?_overrides_inner, Overrides.inner, List.lookup_append,
      lookup_optionalField, lookup_optionalField]
    simp [Field.override, Field.write]
  all_goals
    rw [Field.path, Json.at?_singleton]
    simp only [Overrides.toJson, Json.get?, List.lookup_append, lookup_optionalField,
      lookup_section]
    simp [Field.override, Field.write]

theorem nodup_overrides (o : Overrides) :
    ∃ fields, o.toJson = .object fields ∧ (fields.map Prod.fst).Nodup := by
  refine ⟨_, rfl, ?_⟩
  have hsection : ((if o.inner.isEmpty then [] else [("llm", Json.object o.inner)]).map
      Prod.fst).Sublist ["llm"] := by
    split <;> simp
  have hkeys := (((((keys_optionalField "generator" (fun g : Generator => .string g.label)
    o.generator).append (keys_optionalField "fallback" .bool o.fallback)).append
    (keys_optionalField "backup" .bool o.backup)).append
    (keys_optionalField "constFieldsOnly" .bool o.constFieldsOnly)).append
    (keys_optionalField "concurrency" .natural o.concurrency)).append hsection
  simp only [← List.map_append] at hkeys
  exact hkeys.nodup (by decide)

theorem opens_overrides (o : Overrides) (f : Field) : Opens f.path o.toJson := by
  obtain ⟨fields, hfields, hnodup⟩ := nodup_overrides o
  have hinner : (o.inner.map Prod.fst).Nodup := by
    have hkeys := (keys_optionalField "model" .string o.model).append
      (keys_optionalField "url" .string o.url)
    rw [← List.map_append] at hkeys
    exact hkeys.nodup (by decide)
  have hllm : ∀ key, Opens ["llm", key] o.toJson := by
    intro key
    refine ⟨fields, hfields, hnodup, fun value hvalue => ?_⟩
    have hget := get?_overrides_llm o
    rw [hfields, Json.get?, hvalue] at hget
    split at hget
    · cases hget
      exact ⟨_, rfl, hinner, fun _ _ => trivial⟩
    · cases hget
  have houter : ∀ key, Opens [key] o.toJson := fun key =>
    ⟨fields, hfields, hnodup, fun _ _ => trivial⟩
  rcases f.path_cases with ⟨key, hpath⟩ | ⟨key, hpath⟩ <;> rw [hpath]
  · exact houter key
  · exact hllm key

end Gloss.Config
