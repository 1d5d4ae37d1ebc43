import Gloss.Proofs.Comment.Grammar
import Gloss.Proofs.Phrase
import Gloss.Proofs.Text.Blank
import Gloss.Proofs.Text.Search

/-!
# Descriptions of types

A description is one of a few leads and a name behind it that the written type holds;
what a collection holds stands in the plural (`describes_of_describe`). So it starts
with a letter, and it has no closing tag that the written type does not have
(`closingTag_of_returns`).
-/

namespace Gloss

open Gloss.Text Comment

namespace TypeShape

/-! ## Names in a written type -/

theorem lastPart_isInfix (name : List Char) : lastPart name <:+: name := by
  unfold lastPart
  split
  · rename_i part rest hbreak
    have hname : name = rest.reverse ++ ['.'] ++ part.reverse := by
      simpa using congrArg List.reverse (breakOn_eq hbreak)
    exact ⟨rest.reverse ++ ['.'], [], by rw [hname, List.append_nil]⟩
  · exact List.infix_refl name

theorem base_isInfix_display (base : String) (args : List TypeShape) :
    base.toList <:+: (generic base args).display.toList := by
  simp only [display, String.toList_append, List.append_assoc]
  exact (List.prefix_append _ _).isInfix

/-- The first argument of a generic type is written out in it. -/
theorem argument_isInfix_display (base : String) (arg : TypeShape) (args : List TypeShape) :
    arg.display.toList <:+: (generic base (arg :: args)).display.toList := by
  have hjoin : arg.display.toList <+: (", ".intercalate (displayAll (arg :: args))).toList := by
    rw [String.toList_intercalate, displayAll, List.map_cons]
    cases displayAll args with
    | nil => simp
    | cons next more =>
      rw [List.map_cons, List.intercalate_cons_cons, List.append_assoc]
      exact List.prefix_append _ _
  obtain ⟨rest, hrest⟩ := hjoin
  refine ⟨(base ++ "<").toList, rest ++ ">".toList, ?_⟩
  simp only [display, String.toList_append, ← hrest, List.append_assoc]

theorem element_isInfix_display (element : TypeShape) :
    element.display.toList <:+: (array element).display.toList := by
  rw [display, String.toList_append]
  exact (List.prefix_append _ _).isInfix

theorem nameText_isInfix_display (shape : TypeShape) :
    shape.nameText.toList <:+: shape.display.toList := by
  cases shape with
  | generic base args =>
    rw [nameText, String.toList_ofList]
    exact (lastPart_isInfix base.toList).trans (base_isInfix_display base args)
  | primitive | named | qualified | array | nullable | other => exact List.infix_refl _

theorem nameText_of_bareName {shape : TypeShape} {name : String} (h : shape.bareName = .ok name) :
    name = shape.nameText := by
  unfold bareName at h
  split at h
  · cases h
  · cases h
    rfl

/-! ## Leads -/

/-- What stands in front of a name in a description. -/
def leads : List String :=
  ["A ", "An ", "An array of ", "A read only collection of ", "A list of ", "A Task result of "]

theorem lead_of_article (word : String) : article word ++ " " ∈ leads := by
  unfold article
  split
  · split <;> decide
  · decide

theorem lead_of_collection {base lead : String} (h : collectionLead base = some lead) :
    lead ∈ leads := by
  unfold collectionLead at h
  split at h
  · cases h
    decide
  split at h
  · cases h
    decide
  split at h
  · cases h
    decide
  · cases h

/-- A description is a lead with a name from the written type, or its plural, behind it. -/
inductive Describes (shape : TypeShape) : String → Prop where
  | name {lead name : String} (hlead : lead ∈ leads)
      (hname : name.toList <:+: shape.display.toList) : Describes shape (lead ++ name)
  | plural {lead name : String} (hlead : lead ∈ leads)
      (hname : name.toList <:+: shape.display.toList) :
      Describes shape (lead ++ (Plural.pluralize name ++ "."))

theorem describes_withArticle {shape : TypeShape} {text phrase : String}
    (h : shape.withArticle text = .ok phrase) (htext : text.toList <:+: shape.display.toList) :
    Describes shape phrase := by
  unfold withArticle at h
  split at h
  · cases h
  · cases h
    exact .name (lead_of_article text) htext

theorem describes_of_describe {shape : TypeShape} {phrase : String}
    (h : shape.describe = .ok phrase) : Describes shape phrase := by
  cases shape with
  | primitive text | named text | qualified text | other text =>
    exact describes_withArticle h (List.infix_refl _)
  | nullable inner => exact describes_withArticle h (List.infix_refl _)
  | array element =>
    obtain ⟨name, hname, heq⟩ := ok_of_bind h
    cases heq
    rw [nameText_of_bareName hname]
    exact .name (by decide)
      ((nameText_isInfix_display element).trans (element_isInfix_display element))
  | generic base args =>
    unfold describe at h
    dsimp only at h
    split at h
    · exact describes_withArticle h (base_isInfix_display base _)
    · cases h
    · rename_i lead arg rest hlead
      obtain ⟨plural, hplural, heq⟩ := ok_of_bind h
      obtain ⟨name, hname, hpoint⟩ := ok_of_bind hplural
      cases heq
      cases hpoint
      rw [nameText_of_bareName hname]
      exact .plural (lead_of_collection hlead)
        ((nameText_isInfix_display arg).trans (argument_isInfix_display base arg rest))

theorem describe_of_isVoid {shape : TypeShape} (h : shape.isVoid = true) :
    shape.describe = .ok "A void" := by
  cases shape with
  | primitive name =>
    rw [isVoid, beq_iff_eq] at h
    subst h
    rfl
  | _ => cases h

/-! ## Closing tags -/

variable {tag : List Char}

theorem closingTag_of_append_right {u v : List Char} (hu : '<' ∉ u)
    (h : closingTag tag <:+: u ++ v) : closingTag tag <:+: v :=
  infix_of_head_not_mem hu h

theorem closingTag_of_append_left {u v : List Char} (hv : '>' ∉ v)
    (h : closingTag tag <:+: u ++ v) : closingTag tag <:+: u :=
  infix_of_last_not_mem hv h

theorem closingTag_of_pluralize {word : String}
    (h : closingTag tag <:+: (Plural.pluralize word).toList) : closingTag tag <:+: word.toList := by
  by_cases hword : word = ""
  · subst hword
    exact h
  obtain ⟨stem, hstem, suffix, hsuffix, hplural⟩ := pluralize_cases hword
  have hletters : ∀ s ∈ pluralSuffixes, '>' ∉ s := by decide
  rw [hplural] at h
  exact (closingTag_of_append_left (hletters suffix hsuffix) h).trans hstem.isInfix

theorem Describes.closingTag_of_phrase {shape : TypeShape} {phrase : String}
    (hdescribes : Describes shape phrase) (h : closingTag tag <:+: phrase.toList) :
    closingTag tag <:+: shape.display.toList := by
  have hleads : ∀ lead ∈ leads, '<' ∉ lead.toList := by decide
  cases hdescribes with
  | name hlead hname =>
    rw [String.toList_append] at h
    exact (closingTag_of_append_right (hleads _ hlead) h).trans hname
  | plural hlead hname =>
    rw [String.toList_append, String.toList_append] at h
    have hplural := closingTag_of_append_right (hleads _ hlead) h
    exact (closingTag_of_pluralize (closingTag_of_append_left (by decide) hplural)).trans hname

theorem Describes.head?_eq {shape : TypeShape} {phrase : String} (h : Describes shape phrase) :
    phrase.toList.head? = some 'A' := by
  have hleads : ∀ lead ∈ leads, lead.toList.head? = some 'A' := by decide
  cases h with
  | name hlead hname =>
    rw [String.toList_append, List.head?_append, hleads _ hlead, Option.some_or]
  | plural hlead hname =>
    rw [String.toList_append, List.head?_append, hleads _ hlead, Option.some_or]

end TypeShape

/-! ## Results -/

/-- Full stops and blanks at the end of a phrase give way to one full stop. -/
theorem terminate_split (phrase : String) :
    ∃ kept dropped, phrase.toList = kept ++ dropped ∧
      (Phrase.terminate phrase).toList = kept ++ ['.'] ∧ kept.getLast? ≠ some '.' ∧
      ∀ c ∈ dropped, c = '.' ∨ isBlank c = true := by
  obtain ⟨blanks, hblanks, hblank⟩ := trimEnd_split phrase.toList
  obtain ⟨points, hpoints, hpoint⟩ := dropEndWhile_split (· == '.') (trimEnd phrase.toList)
  refine ⟨dropEndWhile (· == '.') (trimEnd phrase.toList), points ++ blanks, ?_, ?_, ?_, ?_⟩
  · rw [← List.append_assoc, ← hpoints, ← hblanks]
  · rw [Phrase.terminate, String.toList_append, String.toList_ofList]
    rfl
  · intro hlast
    exact absurd (getLast?_dropEndWhile hlast) (by decide)
  · intro c hc
    rcases List.mem_append.1 hc with hc | hc
    · exact .inl (by simpa using List.all_eq_true.1 hpoint c hc)
    · exact .inr (isBlankText_iff.1 hblank c hc)

/-- `void` is not described, and any other result by its type. -/
theorem returns_cases {shape : TypeShape} {result : Option String}
    (h : Phrase.returns shape = .ok result) :
    shape.isVoid = true ∧ result = none ∨ shape.isVoid = false ∧
      ∃ phrase, shape.describe = .ok phrase ∧ result = some (Phrase.terminate phrase) := by
  unfold Phrase.returns at h
  split at h
  · rename_i hvoid
    cases h
    exact .inl ⟨hvoid, rfl⟩
  · rename_i hvoid
    obtain ⟨phrase, hphrase, heq⟩ := ok_of_map h
    exact .inr ⟨by simpa using hvoid, phrase, hphrase, heq.symm⟩

theorem exists_returns_iff {shape : TypeShape} :
    (∃ result, Phrase.returns shape = .ok result) ↔
      shape.isVoid = true ∨ ∃ phrase, shape.describe = .ok phrase := by
  unfold Phrase.returns
  split
  · rename_i hvoid
    simp [hvoid]
  · rename_i hvoid
    cases shape.describe with
    | error e => simp [hvoid, Except.map]
    | ok phrase => simp [Except.map]

/-- A result without a description is not `void`, which has one. -/
theorem returns_of_error {shape : TypeShape} {e : TypeShape.Undescribed}
    (h : shape.describe = .error e) : Phrase.returns shape = .error e := by
  have hvoid : ¬ shape.isVoid = true := by
    intro hvoid
    rw [TypeShape.describe_of_isVoid hvoid] at h
    cases h
  rw [Phrase.returns, if_neg hvoid, h]
  rfl

/-- The written type has every closing tag that the description of a result has. -/
theorem closingTag_of_returns {shape : TypeShape} {text : String} {tag : List Char}
    (hreturns : Phrase.returns shape = .ok (some text)) (h : closingTag tag <:+: text.toList) :
    closingTag tag <:+: shape.display.toList := by
  rcases returns_cases hreturns with ⟨-, hnone⟩ | ⟨-, phrase, hphrase, htext⟩
  · cases hnone
  · cases htext
    obtain ⟨kept, dropped, hsplit, hterminate, -, -⟩ := terminate_split phrase
    rw [hterminate] at h
    have hkept : closingTag tag <:+: phrase.toList := by
      rw [hsplit]
      exact (TypeShape.closingTag_of_append_left (by decide) h).trans
        (List.prefix_append kept dropped).isInfix
    exact (TypeShape.describes_of_describe hphrase).closingTag_of_phrase hkept

end Gloss
