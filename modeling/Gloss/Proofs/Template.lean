import Gloss.Proofs.Phrase
import Gloss.Proofs.Text.Search
import Gloss.Template

/-!
# Comments from templates

Every built-in template builds a summary, the descriptions of the parameters if the
kind has them, and that of the result: `builtIn_eq`. The phrases in it hold no `<` but
the one of the reference in the summary of a constructor, as long as the names hold
none. So the summary is `Unmarked`: it neither opens nor closes a summary
(`summary_of_builtIn`).
-/

namespace Gloss

open Gloss.Text Comment

/-- A string without an opening angle bracket. -/
def Bare (s : String) : Prop :=
  '<' ∉ s.toList

instance (s : String) : Decidable (Bare s) :=
  inferInstanceAs (Decidable ('<' ∉ s.toList))

theorem Composed.bare {name text : String} (h : Composed name text) (hname : Bare name) :
    Bare text := by
  obtain ⟨first, body, htext, -, hbody⟩ := h
  intro hm
  rw [htext] at hm
  rcases List.mem_append.1 hm with hm | hm
  · rcases hbody '<' hm (by decide) with heq | hin
    · cases heq
    · exact hname hin
  · simp at hm

/-! ## Summaries -/

/-- A text that neither opens nor closes a summary. -/
structure Unmarked (text : String) : Prop where
  opening : ¬ '<' :: "summary".toList <:+: text.toList
  closing : ¬ closingTag "summary".toList <:+: text.toList

theorem not_closingTag_of_bare {text : String} (h : Bare text) (tag : List Char) :
    ¬ closingTag tag <:+: text.toList :=
  fun hin => h (hin.subset (by simp [closingTag]))

theorem unmarked_of_bare {text : String} (h : Bare text) : Unmarked text :=
  ⟨fun hin => h (hin.subset (by simp)), not_closingTag_of_bare h _⟩

/-- Where a text has one angle bracket, a mark that it opens stands behind it. -/
theorem starts_of_infix {p u v : List Char} (hu : '<' ∉ u) (hv : '<' ∉ v)
    (h : '<' :: p <:+: u ++ '<' :: v) : p <+: v := by
  rcases List.infix_cons_iff.1 (infix_of_head_not_mem hu h) with h | h
  · exact (List.cons_prefix_cons.1 h).2
  · exact absurd (h.subset (by simp)) hv

/-- A text whose one angle bracket starts a reference. -/
theorem unmarked_of_reference {lead name tail : String} (hlead : Bare lead) (hname : Bare name)
    (htail : Bare tail) : Unmarked (lead ++ ("<see cref=\"" ++ name ++ "\"/>") ++ tail) := by
  have hopen : "<see cref=\"".toList = '<' :: 's' :: 'e' :: "e cref=\"".toList := by decide
  have htext : (lead ++ ("<see cref=\"" ++ name ++ "\"/>") ++ tail).toList =
      lead.toList ++ '<' :: 's' :: 'e' ::
        ("e cref=\"".toList ++ name.toList ++ "\"/>".toList ++ tail.toList) := by
    simp only [String.toList_append, hopen, List.append_assoc, List.cons_append]
  have hrest : '<' ∉ 's' :: 'e' ::
      ("e cref=\"".toList ++ name.toList ++ "\"/>".toList ++ tail.toList) := by
    have hstart : '<' ∉ "e cref=\"".toList := by decide
    have hend : '<' ∉ "\"/>".toList := by decide
    simp only [List.mem_cons, List.mem_append, not_or]
    exact ⟨by decide, by decide, ⟨⟨hstart, hname⟩, hend⟩, htail⟩
  refine ⟨fun hin => ?_, fun hin => ?_⟩
  · rw [htext] at hin
    have hpre : "summary".toList <+: _ := starts_of_infix hlead hrest hin
    exact absurd (List.cons_prefix_cons.1 (List.cons_prefix_cons.1 hpre).2).1 (by decide)
  · rw [htext] at hin
    have hpre : '/' :: "summary".toList ++ ['>'] <+: _ := starts_of_infix hlead hrest hin
    exact absurd (List.cons_prefix_cons.1 hpre).1 (by decide)

theorem unmarked_constructor {name : String} (h : Bare name) (isPrivate : Bool) :
    Unmarked (Phrase.constructor name isPrivate) := by
  unfold Phrase.constructor
  dsimp only
  split
  · exact unmarked_of_reference (by decide) h (by decide)
  · exact unmarked_of_reference (by decide) h (by decide)

/-! ## What a template builds -/

namespace Declaration

/-- The summary that the built-in template of a kind gives. -/
def summaryText (d : Declaration) : String :=
  match d.kind with
  | .classType | .enumType | .field => Phrase.common d.name
  | .interfaceType => Phrase.interface d.name
  | .constructor => Phrase.constructor d.ownerName (d.visibility == .privateAccess)
  | .method => Phrase.method d.name
  | .property =>
    Phrase.property d.name (d.property.any (·.shape.isBoolean)) (d.property.any (·.hasSetter))

/-- The parameters that it describes. -/
def describedParameters (d : Declaration) : List Parameter :=
  match d.kind with
  | .constructor | .method => d.parameters
  | _ => []

/-- The description of the result that it gives, if there is one. -/
def resultText (d : Declaration) : Except TypeShape.Undescribed (Option String) :=
  match d.kind, d.returnType with
  | .method, some shape => Phrase.returns shape
  | _, _ => .ok none

/-- The comment of a declaration whose result is described. -/
def described (d : Declaration) (result : Option String) : Comment where
  segments := .summary d.summaryText ::
    d.describedParameters.map (fun p => .param p.name (Phrase.parameter p.name p.shape)) ++
    result.toList.map .returns

end Declaration

theorem describeParameters_eq (comment : Comment) (parameters : List Parameter) :
    Template.describeParameters comment parameters = ⟨comment.segments ++
      parameters.map fun p => .param p.name (Phrase.parameter p.name p.shape)⟩ := by
  unfold Template.describeParameters
  induction parameters generalizing comment with
  | nil => simp
  | cons p parameters ih =>
    rw [List.foldl_cons, ih, Comment.withParam, List.append_assoc, List.map_cons,
      List.singleton_append]

/-- A built-in template fails only where the result has no description. -/
theorem builtIn_eq (d : Declaration) :
    Template.builtIn d.kind d =
      match d.resultText with
      | .error e => .error (.ofUndescribed e)
      | .ok result => .ok (d.described result) := by
  unfold Declaration.resultText Declaration.described Declaration.describedParameters
    Declaration.summaryText
  cases hkind : d.kind with
  | classType | enumType | field | interfaceType => rfl
  | constructor =>
    simp [Template.builtIn, Template.constructor, describeParameters_eq, Comment.ofSummary]
  | property =>
    simp only [Template.builtIn, Template.property]
    cases d.property with
    | none => rfl
    | some info => rfl
  | method =>
    simp only [Template.builtIn, Template.method, describeParameters_eq, Comment.ofSummary]
    cases d.returnType with
    | none => simp
    | some shape =>
      dsimp only
      rcases Phrase.returns shape with e | (_ | text)
      · rfl
      · simp
      · simp [Comment.withReturns]

theorem described_of_builtIn {d : Declaration} {comment : Comment}
    (h : Template.builtIn d.kind d = .ok comment) :
    ∃ result, d.resultText = .ok result ∧ comment = d.described result := by
  rw [builtIn_eq] at h
  split at h
  · cases h
  · rename_i result hresult
    cases h
    exact ⟨result, hresult, rfl⟩

theorem described_of_build {d : Declaration} {comment : Comment}
    (h : ({} : Registry).build d = .ok comment) :
    ∃ result, d.resultText = .ok result ∧ comment = d.described result := by
  unfold Registry.build at h
  split at h
  · cases h
  · rename_i built hbuilt
    split at h
    · cases h
    · cases h
      exact described_of_builtIn hbuilt

theorem Declaration.describedParameters_subset (d : Declaration) :
    d.describedParameters ⊆ d.parameters := by
  unfold Declaration.describedParameters
  split
  · exact List.Subset.refl _
  · exact List.Subset.refl _
  · exact List.nil_subset _

theorem returns_of_resultText {d : Declaration} {text : String}
    (h : d.resultText = .ok (some text)) : ∃ shape, Phrase.returns shape = .ok (some text) := by
  unfold Declaration.resultText at h
  split at h
  · exact ⟨_, h⟩
  · cases h

theorem unmarked_summaryText {d : Declaration} (hname : Bare d.name) (howner : Bare d.ownerName) :
    Unmarked d.summaryText := by
  unfold Declaration.summaryText
  split
  · exact unmarked_of_bare ((composed_common d.name).bare hname)
  · exact unmarked_of_bare ((composed_common d.name).bare hname)
  · exact unmarked_of_bare ((composed_common d.name).bare hname)
  · exact unmarked_of_bare ((composed_interface d.name).bare hname)
  · exact unmarked_constructor howner _
  · rcases composed_method d.name with hcomposed | hempty
    · exact unmarked_of_bare (hcomposed.bare hname)
    · rw [hempty.2]
      exact unmarked_of_bare (by decide)
  · exact unmarked_of_bare ((composed_property d.name _ _).bare hname)

/-- Every built-in template starts with a summary that can be put between tags. -/
theorem summary_of_builtIn {d : Declaration} {comment : Comment} (hname : Bare d.name)
    (howner : Bare d.ownerName) (h : Template.builtIn d.kind d = .ok comment) :
    ∃ text rest, comment.segments = .summary text :: rest ∧ Unmarked text := by
  obtain ⟨result, -, rfl⟩ := described_of_builtIn h
  exact ⟨d.summaryText, _, rfl, unmarked_summaryText hname howner⟩

end Gloss
