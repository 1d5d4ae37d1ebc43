import Gloss.Proofs.Template
import Gloss.Proofs.TypeShape

/-!
# Comments that conform

The built-in templates fail on a declaration only if its result has no description.
Any comment that they build fits the declaration: it has a summary, the parameters in
their order, and the result if there is one. It is well formed, so that the registry
gives it out, and it may be put in front of the declaration. All of this is
`build_conforms`, for declarations that are `Describable`.
-/

namespace Gloss

open Gloss.Text Comment

/-! ## Checks that pass -/

theorem checkText_of_not_infix {tag text : String}
    (h : ¬ closingTag tag.toList <:+: text.toList) : checkText tag text = .ok () := by
  rw [checkText, occursIn_eq_false_iff.2 h, if_neg Bool.false_ne_true]

/-- A name that a described parameter can have. -/
structure Nameable (name : String) : Prop where
  not_blank : isBlankText name.toList = false
  not_quoted : '"' ∉ name.toList
  bare : Bare name

/-- Parameters with distinct names that were not met before pass the checks. -/
theorem checkSegments_params {parameters : List Parameter} {seen : List String}
    {rest : List Segment} (hnames : ∀ p ∈ parameters, Nameable p.name)
    (hdistinct : (parameters.map (·.name)).Nodup) (hseen : ∀ p ∈ parameters, p.name ∉ seen)
    (hrest : ∀ seen, checkSegments seen rest = .ok ()) :
    checkSegments seen
      (parameters.map (fun p => .param p.name (Phrase.parameter p.name p.shape)) ++ rest) =
        .ok () := by
  induction parameters generalizing seen with
  | nil => exact hrest seen
  | cons p parameters ih =>
    obtain ⟨hp, hnames⟩ := List.forall_mem_cons.1 hnames
    obtain ⟨hfresh, hseen⟩ := List.forall_mem_cons.1 hseen
    obtain ⟨hnew, hdistinct⟩ := List.nodup_cons.1 hdistinct
    have htext : checkText "param" (Phrase.parameter p.name p.shape) = .ok () :=
      checkText_of_not_infix
        (not_closingTag_of_bare ((composed_parameter p.name p.shape).bare hp.bare) _)
    -- The names met so far grow by one, from which the later ones differ.
    have hseen' : ∀ q ∈ parameters, q.name ∉ p.name :: seen := by
      intro q hq hmem
      rcases List.mem_cons.1 hmem with heq | hmem
      · exact hnew (List.mem_map.2 ⟨q, hq, heq⟩)
      · exact hseen q hq hmem
    rw [List.map_cons, List.cons_append, checkSegments, if_neg (by simp [hp.not_blank]),
      if_neg (by simpa using hp.not_quoted), if_neg (by simpa using hfresh), htext]
    exact ih hnames hdistinct hseen'

/-! ## Segments of a description -/

section

variable (d : Declaration) (result : Option String)

theorem params_described : (d.described result).params =
    d.describedParameters.map fun p => (p.name, Phrase.parameter p.name p.shape) := by
  have hparams : ∀ rest : List Segment, Comment.params
      ⟨d.describedParameters.map (fun p => .param p.name (Phrase.parameter p.name p.shape)) ++
        rest⟩ = d.describedParameters.map (fun p => (p.name, Phrase.parameter p.name p.shape)) ++
          Comment.params ⟨rest⟩ := by
    intro rest
    induction d.describedParameters with
    | nil => rfl
    | cons p parameters ih => exact congrArg _ ih
  cases result with
  | none => exact (hparams []).trans (List.append_nil _)
  | some text => exact (hparams [.returns text]).trans (List.append_nil _)

theorem returns?_described : (d.described result).returns? = result := by
  have hparams : ∀ rest : List Segment, Comment.returns?
      ⟨d.describedParameters.map (fun p => .param p.name (Phrase.parameter p.name p.shape)) ++
        rest⟩ = Comment.returns? ⟨rest⟩ := by
    intro rest
    induction d.describedParameters with
    | nil => rfl
    | cons p parameters ih => exact ih
  cases result with
  | none => exact hparams []
  | some text => exact hparams [.returns text]

theorem countP_described {f : Segment → Bool} (hparam : ∀ name text, f (.param name text) = false) :
    (d.described result).segments.countP f =
      (if f (.summary d.summaryText) then 1 else 0) + (result.toList.map .returns).countP f := by
  have hparams : (d.describedParameters.map fun p =>
      Segment.param p.name (Phrase.parameter p.name p.shape)).countP f = 0 := by
    refine List.countP_eq_zero.2 fun s hs => ?_
    obtain ⟨p, -, rfl⟩ := List.mem_map.1 hs
    simp [hparam]
  rw [Declaration.described, List.countP_append, List.countP_cons, hparams, Nat.zero_add]

theorem checkCounts_described : checkCounts (d.described result).segments = .ok () := by
  have hsummaries : (d.described result).segments.countP Segment.isSummary = 1 := by
    rw [countP_described d result fun _ _ => rfl]
    cases result <;> rfl
  have hinheritDocs : (d.described result).segments.count .inheritDoc = 0 := by
    rw [List.count, countP_described d result fun _ _ => rfl]
    cases result <;> rfl
  have hreturns : (d.described result).segments.countP Segment.isReturns ≤ 1 := by
    rw [countP_described d result fun _ _ => rfl]
    cases result with
    | none => exact Nat.zero_le 1
    | some text => exact Nat.le_refl 1
  simp only [checkCounts, hsummaries, hinheritDocs, if_neg (Nat.not_lt.2 hreturns)]
  rfl

end

/-! ## Described declarations -/

/-- A declaration with parameters and a result only where its kind can have them, and
with names and a result that can be put into a comment. -/
structure Describable (d : Declaration) : Prop where
  parameters : d.parameters ≠ [] → d.kind = .method ∨ d.kind = .constructor
  returnType : d.returnType ≠ none → d.kind = .method
  name : Bare d.name
  ownerName : Bare d.ownerName
  nameable : ∀ p ∈ d.parameters, Nameable p.name
  distinct : (d.parameters.map (·.name)).Nodup
  result : ∀ shape, d.returnType = some shape →
    ¬ closingTag "returns".toList <:+: shape.display.toList

variable {d : Declaration}

theorem Describable.describedParameters_eq (h : Describable d) :
    d.describedParameters = d.parameters := by
  by_cases hnil : d.parameters = []
  · rw [Declaration.describedParameters, hnil]
    split <;> rfl
  · rcases h.parameters hnil with hkind | hkind
    · rw [Declaration.describedParameters, hkind]
    · rw [Declaration.describedParameters, hkind]

theorem resultText_of_none (h : d.returnType = none) : d.resultText = .ok none := by
  rw [Declaration.resultText, h]
  split
  · rename_i hshape
    cases hshape
  · rfl

theorem Describable.resultText_of_some (h : Describable d) {shape : TypeShape}
    (hshape : d.returnType = some shape) : d.resultText = Phrase.returns shape := by
  rw [Declaration.resultText, h.returnType (by simp [hshape]), hshape]

/-- There is a description exactly for a result that is not `void`, and it can be put
between tags. -/
theorem Describable.of_resultText (h : Describable d) {result : Option String}
    (hresult : d.resultText = .ok result) :
    result.isSome = d.returnsValue ∧
      ∀ text, result = some text → ¬ closingTag "returns".toList <:+: text.toList := by
  cases hreturn : d.returnType with
  | none =>
    rw [resultText_of_none hreturn] at hresult
    cases hresult
    exact ⟨by rw [Declaration.returnsValue, hreturn]; rfl, by simp⟩
  | some shape =>
    rw [h.resultText_of_some hreturn] at hresult
    refine ⟨?_, fun text htext hin => ?_⟩
    · rw [Declaration.returnsValue, hreturn, Option.any_some]
      rcases returns_cases hresult with ⟨hvoid, rfl⟩ | ⟨hvoid, phrase, -, rfl⟩
      · simp [hvoid]
      · simp [hvoid]
    · rw [htext] at hresult
      exact h.result shape hreturn (closingTag_of_returns hresult hin)

/-- What the templates build is well formed. -/
theorem Describable.validate (h : Describable d) {result : Option String}
    (hresult : d.resultText = .ok result) : (d.described result).validate = .ok () := by
  have hreturns : ∀ seen, checkSegments seen (result.toList.map .returns) = .ok () := by
    intro seen
    cases result with
    | none => rfl
    | some text =>
      have htext := checkText_of_not_infix ((h.of_resultText hresult).2 text rfl)
      simp only [Option.toList_some, List.map_cons, List.map_nil, checkSegments, htext]
      rfl
  have hsummary := checkText_of_not_infix (unmarked_summaryText h.name h.ownerName).closing
  have hparams := checkSegments_params h.nameable h.distinct
    (fun p _ => List.not_mem_nil) hreturns
  have hsegments : checkSegments [] (d.described result).segments = .ok () := by
    simp only [Declaration.described, h.describedParameters_eq, List.cons_append, checkSegments,
      hsummary]
    exact hparams
  rw [Comment.validate, if_neg (by simp [Comment.isEmpty, Declaration.described]), hsegments]
  exact checkCounts_described d result

/-- The registry gives out what the templates build. -/
theorem Describable.build_eq (h : Describable d) :
    ({} : Registry).build d =
      match d.resultText with
      | .error e => .error (.ofUndescribed e)
      | .ok result => .ok (d.described result) := by
  have hbuild : ({} : Registry).template d.kind d = _ := builtIn_eq d
  rw [Registry.build, hbuild]
  cases hresult : d.resultText with
  | error e => rfl
  | ok result =>
    dsimp only
    rw [h.validate hresult]

theorem Describable.exists_resultText_iff (h : Describable d) :
    (∃ result, d.resultText = .ok result) ↔
      d.returnType = none ∨ ∃ shape, d.returnType = some shape ∧
        (shape.isVoid = true ∨ ∃ phrase, shape.describe = .ok phrase) := by
  cases hreturn : d.returnType with
  | none => simp [resultText_of_none hreturn]
  | some shape => simp [h.resultText_of_some hreturn, exists_returns_iff]

/-- A built-in comment is a summary, the parameters in their order, and the result. -/
theorem Describable.described_eq (h : Describable d) {result : Option String}
    (hresult : d.resultText = .ok result) :
    ∃ text, (d.described result).segments = .summary d.summaryText ::
      d.parameters.map (fun p => .param p.name (Phrase.parameter p.name p.shape)) ++
      if d.returnsValue then [.returns text] else [] := by
  rw [← (h.of_resultText hresult).1, Declaration.described, h.describedParameters_eq]
  cases result with
  | none => exact ⟨"", rfl⟩
  | some text => exact ⟨text, rfl⟩

theorem Describable.conformsTo (h : Describable d) {result : Option String}
    (hresult : d.resultText = .ok result) : (d.described result).conformsTo d = true := by
  rw [Comment.conformsTo, params_described, returns?_described, h.describedParameters_eq,
    (h.of_resultText hresult).1]
  simp [Function.comp_def]

/-- On a describable declaration the built-in templates succeed exactly if there is no
result, or one that can be described. The comment then has one summary, the parameters in
their order and the result if there is one; it may be put in front of the declaration, and
conforms to it. Where the result has no description, that is the error. -/
theorem build_conforms (h : Describable d) :
    ((∃ comment, ({} : Registry).build d = .ok comment) ↔
      d.returnType = none ∨ ∃ shape, d.returnType = some shape ∧
        (shape.isVoid = true ∨ ∃ phrase, shape.describe = .ok phrase)) ∧
    (∀ comment, ({} : Registry).build d = .ok comment →
      (∃ summary result, comment.segments = .summary summary ::
        d.parameters.map (fun p => .param p.name (Phrase.parameter p.name p.shape)) ++
        if d.returnsValue then [.returns result] else []) ∧
      comment.validateInsertable = .ok () ∧ comment.conformsTo d = true) ∧
    ∀ shape e, d.returnType = some shape → shape.describe = .error e →
      ({} : Registry).build d = .error (.unsupportedShape e.shape e.reason) := by
  refine ⟨?_, fun comment hbuild => ?_, fun shape e hreturn herror => ?_⟩
  · rw [← h.exists_resultText_iff, h.build_eq]
    cases d.resultText <;> simp
  · rw [h.build_eq] at hbuild
    cases hresult : d.resultText with
    | error e =>
      rw [hresult] at hbuild
      cases hbuild
    | ok result =>
      rw [hresult] at hbuild
      cases hbuild
      obtain ⟨text, hsegments⟩ := h.described_eq hresult
      refine ⟨⟨_, text, hsegments⟩, ?_, h.conformsTo hresult⟩
      rw [Comment.validateInsertable, h.validate hresult]
      rfl
  · rw [h.build_eq, h.resultText_of_some hreturn, returns_of_error herror]
    rfl

theorem build_conforms_collection :
    let d : TypeShape → Declaration := fun shape =>
      { kind := .method, name := "GetPairs", returnType := some shape,
        parameters := [⟨"isCached", .primitive "bool"⟩, ⟨"key", .named "Key"⟩] }
    let pairs : TypeShape := .generic "List" [.generic "Data.Pair" [.primitive "int", .named "Key"]]
    let unknown : TypeShape := .generic "IEnumerable" []
    (Describable (d pairs) ∧ ∃ comment, ({} : Registry).build (d pairs) = .ok comment ∧
      comment.validateInsertable = .ok () ∧ comment.conformsTo (d pairs) = true) ∧
    Describable (d unknown) ∧ ({} : Registry).build (d unknown) =
      .error (.unsupportedShape "IEnumerable<>" "collection type without a type argument") := by
  intro d pairs unknown
  have hname : Bare "GetPairs" := by decide
  have hdistinct : ["isCached", "key"].Nodup := by decide
  have hd : ∀ shape, ¬ closingTag "returns".toList <:+: shape.display.toList →
      Describable (d shape) := by
    intro shape hshape
    refine ⟨fun _ => .inl rfl, fun _ => rfl, hname, hname, ?_, hdistinct, ?_⟩
    · exact List.forall_mem_cons.2 ⟨⟨by decide, by decide, by decide⟩,
        List.forall_mem_singleton.2 ⟨by decide, by decide, by decide⟩⟩
    · rintro _ ⟨⟩
      exact hshape
  have hpairs : Describable (d pairs) := hd pairs (by decide +kernel)
  have hunknown : Describable (d unknown) := hd unknown (by decide +kernel)
  have hdescribed : pairs.describe = .ok "A list of Pairs." := ok_of_toOption (by decide +kernel)
  obtain ⟨hbuilt, hconforms, -⟩ := build_conforms hpairs
  obtain ⟨comment, hcomment⟩ := hbuilt.2 (.inr ⟨pairs, rfl, .inr ⟨_, hdescribed⟩⟩)
  exact ⟨⟨hpairs, comment, hcomment, (hconforms comment hcomment).2⟩, hunknown,
    (build_conforms hunknown).2.2 unknown _ rfl rfl⟩

end Gloss
