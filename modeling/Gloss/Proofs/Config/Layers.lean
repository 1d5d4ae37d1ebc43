import Gloss.Config.Load
import Gloss.Proofs.Config.Environment
import Gloss.Proofs.Outcome

/-!
# Layers of a configuration

A configuration is loaded field by field: a field has the value that is given for it on the
command line, and else in the environment, in the file, or by default (`Field.chosen`).
`load_chooses` says so where all that is given for fields can be read. In the environment
only variables count that set a field, so one that spells a field with a capital letter in its
keys is not heard (`load_unheard`).
-/

namespace Gloss.Config

open Json (at? Opens overlay)

variable {tree : FileTree} {asked : Option String} {file : Option Json}
  {env : List (String × String)} {overrides : Overrides}

/-! ## What is given -/

/-- Whether a file with a value is there to be loaded, or none is and none was asked for. -/
inductive IsFile (tree : FileTree) : Option String → Option Json → Prop where
  | absent (h : tree.read? fileName = none) : IsFile tree none none
  | found {asked : Option String} {bytes : ByteArray} {j : Json}
      (h : tree.read? (asked.getD fileName) = some bytes) (hlayer : fileLayer bytes = .ok j) :
      IsFile tree asked (some j)

/-- What a file gives for a field. -/
def Field.inFile (f : Field) (file : Option Json) : Option Json :=
  file.bind (at? f.path)

/-- The value of a field that the sources lead to: the command line goes before the
environment, this before the file, and this before the default. -/
def Field.chosen (f : Field) (file : Option Json) (env : List (String × String))
    (overrides : Overrides) : f.Value :=
  (f.override overrides).getD (((f.inEnvironment env).bind f.read).getD
    (((f.inFile file).bind f.read).getD (f.get {})))

/-- Whether what a file and the environment give for fields can be read. -/
structure Readable (file : Option Json) (env : List (String × String)) : Prop where
  inFile : ∀ f : Field, (f.inFile file).all (fun j => (f.read j).isSome) = true
  inEnvironment : ∀ f : Field, (f.inEnvironment env).all (fun j => (f.read j).isSome) = true
  /-- The section of the generation is an object. -/
  llm : (file.bind (at? ["llm"])).all Json.isObject = true
  unmixed : Unmixed env

/-! ## The file -/

theorem distinct_of_fileLayer {bytes : ByteArray} {j : Json} (h : fileLayer bytes = .ok j) :
    j.Distinct ∧ ∃ fields, j = .object fields := by
  unfold fileLayer at h
  split at h
  · rename_i fields hread
    cases h
    obtain ⟨text, -, htext⟩ := Option.bind_eq_some_iff.1 hread
    exact ⟨Json.distinct_of_read? htext, fields, rfl⟩
  · cases h

/-- A file is laid over the defaults. -/
def base (file : Option Json) : Json :=
  (file.map ({} : Config).toJson.merge).getD ({} : Config).toJson

theorem opens_file {fields : List (String × Json)} (h : Json.Distinct (.object fields))
    (hllm : (fields.lookup "llm").all Json.isObject = true) (f : Field) :
    Opens f.path (.object fields) := by
  rcases f.path_cases with ⟨key, hpath⟩ | ⟨key, hpath⟩ <;> rw [hpath]
  · exact h.opens fun _ _ _ => trivial
  · refine h.opens fun value hvalue hdistinct => ?_
    rw [hvalue] at hllm
    obtain ⟨inner, rfl⟩ := Json.isObject_iff.1 hllm
    exact hdistinct.opens fun _ _ _ => trivial

theorem load_of_isFile (hfile : IsFile tree asked file) (dir : String)
    (env : List (String × String)) (overrides : Overrides) :
    load tree dir env asked overrides =
      match ofJson? (((base file).merge (Variable.layer env)).merge overrides.toJson) with
      | none => .error .malformed
      | some config => config.validate.map fun _ => config := by
  cases hfile with
  | absent hnone =>
    simp only [load, filePath, Option.getD_none, hnone]
    rfl
  | found hread hlayer =>
    have hpath : ∃ path, filePath tree dir asked = .ok path := by
      cases asked with
      | none => exact ⟨_, rfl⟩
      | some path =>
        rw [Option.getD_some] at hread
        exact ⟨_, by rw [filePath, hread]; rfl⟩
    obtain ⟨path, hpath⟩ := hpath
    simp only [load, hpath, hread, hlayer]
    rfl

theorem at?_base (hfile : IsFile tree asked file)
    (hllm : (file.bind (at? ["llm"])).all Json.isObject = true) (f : Field) :
    Opens f.path (base file) ∧
      at? f.path (base file) = (f.inFile file).or (some (f.write (f.get {}))) := by
  have hdefault := at?_toJson {} f
  cases hfile with
  | absent => exact ⟨opens_toJson {} f, hdefault⟩
  | found _ hlayer =>
    obtain ⟨hdistinct, fields, rfl⟩ := distinct_of_fileLayer hlayer
    rw [Option.bind_some, Json.at?_singleton] at hllm
    have hopens : Opens f.path (.object fields) := opens_file hdistinct hllm f
    refine ⟨(opens_toJson {} f).merge hopens, ?_⟩
    show at? f.path (({} : Config).toJson.merge (.object fields)) =
      (at? f.path (.object fields)).or _
    rw [Json.at?_merge hopens, hdefault]
    refine Json.overlay_eq_or (.inl fun j hj => ?_)
    cases hj
    exact f.write_ne_object _

/-! ## Loading -/

/-- What all layers hold at a field. -/
theorem read_merged (hfile : IsFile tree asked file) (h : Readable file env)
    (overrides : Overrides) (f : Field) :
    let merged := ((base file).merge (Variable.layer env)).merge overrides.toJson
    Opens f.path merged ∧
      (at? f.path merged).bind f.read = some (f.chosen file env overrides) := by
  intro merged
  obtain ⟨hopens, hbase⟩ := at?_base hfile h.llm f
  have henv := f.at?_layer h.unmixed (h.inEnvironment f)
  have hopensEnv := f.opens_layer h.unmixed
  refine ⟨(hopens.merge hopensEnv).merge (opens_overrides overrides f), ?_⟩
  have hvariable : ∀ j, f.inEnvironment env = some j → ∀ fields, j ≠ .object fields := by
    intro j hj
    have hread := h.inEnvironment f
    obtain ⟨p, -, rfl⟩ := Option.map_eq_some_iff.1 hj
    rw [hj] at hread
    exact Field.valueOf_ne_object hread
  have hoverride : ∀ j, (f.override overrides).map f.write = some j →
      ∀ fields, j ≠ .object fields := by
    intro j hj
    obtain ⟨value, -, rfl⟩ := Option.map_eq_some_iff.1 hj
    exact f.write_ne_object value
  have hwritten : ((f.override overrides).map f.write).bind f.read = f.override overrides := by
    cases f.override overrides with
    | none => rfl
    | some value => exact f.read_write value
  have hall : ((f.override overrides).map f.write).all (fun j => (f.read j).isSome) = true := by
    cases f.override overrides with
    | none => rfl
    | some value => simp [f.read_write]
  rw [Json.at?_merge (opens_overrides overrides f), Json.at?_merge hopensEnv, hbase, henv,
    at?_overrides, Json.overlay_eq_or (.inr hvariable), Json.overlay_eq_or (.inr hoverride),
    bind_or hall, bind_or (h.inEnvironment f), bind_or (h.inFile f), hwritten, Option.bind_some,
    f.read_write, Option.or_some, Option.or_some, Option.or_some]
  rfl

/-- Each field of a configuration that is loaded has the value that is chosen for it from the
sources, whatever they give for other fields. It is loaded if all values that are chosen are
accepted. -/
theorem load_chooses (hfile : IsFile tree asked file) (h : Readable file env) (dir : String)
    (overrides : Overrides) :
    ∃ config : Config, (∀ f : Field, f.get config = f.chosen file env overrides) ∧
      load tree dir env asked overrides = (config.validate.map fun _ => config) ∧
      ((∀ f : Field, f.accepts (f.chosen file env overrides) = true) →
        load tree dir env asked overrides = .ok config) := by
  let config := ofValues fun f => f.chosen file env overrides
  have hget : ∀ f : Field, f.get config = f.chosen file env overrides := get_ofValues _
  have hconfig := ofJson?_of_values (fun f => (read_merged hfile h overrides f).1)
    (fun f => (read_merged hfile h overrides f).2)
  have hload : load tree dir env asked overrides = (config.validate.map fun _ => config) := by
    rw [load_of_isFile hfile, hconfig]
  refine ⟨config, hget, hload, fun haccepts => ?_⟩
  rw [hload, validate_of_accepts fun f => (hget f).symm ▸ haccepts f]
  rfl

/-- A file that sets two fields. -/
def sampleFile : ByteArray :=
  "\x7b\"generator\":\x7b\"llm\":null\x7d,\"llm\":\x7b\"timeoutSeconds\":9\x7d\x7d".toUTF8

/-- What the file holds. -/
def sampleLayer : Json :=
  (fileLayer sampleFile).toOption.getD .null

/-- Variables of which the third spells a field that it does not set. -/
def sampleEnv : List (String × String) :=
  [("Quill_Concurrency", "3"), ("QUILL_LLM__MODEL", "b"), ("QUILL_LLM__TIMEOUTSECONDS", "5"),
    ("QUILL_LLM__URL", "http://b")]

theorem load_chooses_sample :
    ∃ config : Config,
      load { files := [([fileName], sampleFile)] } "." sampleEnv none { model := some "c" } =
        .ok config ∧
      config.generator = .llm ∧ config.concurrency = 3 ∧ config.llm.model = "c" ∧
      config.llm.url = "http://b" ∧ config.llm.timeoutSeconds = 9 := by
  have hlayer : fileLayer sampleFile = .ok sampleLayer := ok_getD_of_isSome (by decide +kernel) _
  have hfile : IsFile { files := [([fileName], sampleFile)] } none (some sampleLayer) :=
    @IsFile.found _ none sampleFile _ (by decide +kernel) hlayer
  have hunmixed : Unmixed sampleEnv := by
    unfold Unmixed
    decide +kernel
  have hreadable : Readable (some sampleLayer) sampleEnv :=
    ⟨by decide +kernel, by decide +kernel, by decide +kernel, hunmixed⟩
  have haccepts : ∀ f : Field,
      f.accepts (f.chosen (some sampleLayer) sampleEnv { model := some "c" }) = true := by
    decide +kernel
  obtain ⟨config, hget, -, hload⟩ := load_chooses hfile hreadable "." { model := some "c" }
  refine ⟨config, hload haccepts, (hget .generator).trans ?_, (hget .concurrency).trans ?_,
    (hget .model).trans ?_, (hget .url).trans ?_, (hget .timeoutSeconds).trans ?_⟩
  all_goals decide +kernel

/-- A variable that spells a field and has a value for it, and is not heard. -/
theorem load_unheard :
    Field.constFieldsOnly.isNamedBy "QUILL_CONSTFIELDSONLY" = true ∧
      Field.constFieldsOnly.read (Variable.valueOf "true") = some true ∧
      (load {} "." [("QUILL_CONSTFIELDSONLY", "true")] none {}).toOption.map
        Config.constFieldsOnly = some false := by
  refine ⟨?_, ?_, ?_⟩ <;> decide +kernel

end Gloss.Config
