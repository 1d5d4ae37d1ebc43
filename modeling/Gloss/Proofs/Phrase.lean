import Gloss.Phrase
import Gloss.Proofs.Plural
import Gloss.Proofs.Words

/-!
# Phrases and the names they are made from

Putting a name into lower case and inflecting it brings no delimiter in: a blank,
a point or an angle bracket in a word is one of the name (`Inherits`). A phrase
joins words by spaces, behind a lead, and ends in a full stop, so it holds no
other delimiters than these and those of the name (`Composed`). There is one lemma
for each phrase that is made from a name, but for that of constructors, which
holds a reference.
-/

namespace Gloss

open Gloss.Text

/-- Whether a character is a blank, a point or an opening angle bracket. -/
def isDelimiter (c : Char) : Bool :=
  isBlank c || c == '.' || c == '<'

/-! ## Lower case -/

theorem toLower_cases {c : Char} (hc : c.toNat < 0x80) :
    c.toLower = c ∨ isDelimiter c.toLower = false :=
  forall_char_lt (P := fun c => c.toLower = c ∨ isDelimiter c.toLower = false)
    (by decide +kernel) hc

theorem isDelimiter_image : ∀ run ∈ lowerRuns, ∀ k, k < run.source.last + 1 - run.source.first →
    isDelimiter (Char.ofNat (k + run.image)) = false := by
  decide +kernel

/-- The lower-case form of a character is itself or holds no delimiter. -/
theorem mem_lowerChar {c d : Char} (h : d ∈ lowerChar c) : d = c ∨ isDelimiter d = false := by
  rcases lowerChar_cases c with ⟨hc, hform⟩ | hform | ⟨run, hrun, k, hk, hform⟩ | hform <;>
    rw [hform] at h
  · rw [List.mem_singleton.1 h]
    exact toLower_cases hc
  · rcases List.mem_cons.1 h with rfl | h
    · exact .inr (by decide)
    · rw [List.mem_singleton.1 h]
      exact .inr (by decide)
  · rw [List.mem_singleton.1 h]
    exact .inr (isDelimiter_image run hrun k hk)
  · exact .inl (List.mem_singleton.1 h)

theorem mem_lowercase {cs : List Char} {d : Char} (h : d ∈ lowercase cs) :
    d ∈ cs ∨ isDelimiter d = false := by
  unfold lowercase at h
  generalize ([] : List Char) = before at h
  induction cs generalizing before with
  | nil => cases h
  | cons c cs ih =>
    rw [lowercaseFrom, List.mem_append] at h
    rcases h with h | h
    · split at h
      · rw [List.mem_singleton.1 h]
        split <;> exact .inr (by decide)
      · refine (mem_lowerChar h).imp_left fun hd => ?_
        rw [hd]
        exact List.mem_cons_self
    · exact (ih _ h).imp_left (List.mem_cons_of_mem c)

/-! ## Words of a name -/

/-- The delimiters in a word are those of a name. -/
def Inherits (name word : String) : Prop :=
  ∀ c ∈ word.toList, isDelimiter c = true → c ∈ name.toList

theorem not_delimiter {cs : List Char} (h : cs.all (fun c => !isDelimiter c) = true) :
    ∀ c ∈ cs, isDelimiter c = false := by
  simpa using h

/-- A test that can be run: a word without delimiters. -/
theorem inherits_of_all {word : String} (h : word.toList.all (fun c => !isDelimiter c) = true)
    (name : String) : Inherits name word := by
  intro c hc hd
  simp [not_delimiter h c hc] at hd

variable {name : String}

theorem inherits_split (name : String) : ∀ w ∈ Words.split name, Inherits name w := by
  intro w hw c hc _
  obtain ⟨piece, hpiece, rfl⟩ := List.mem_map.1 hw
  rw [String.toList_ofList] at hc
  rw [← Words.flatten_fragments name.toList]
  exact List.mem_flatten.2 ⟨piece, hpiece, hc⟩

theorem inherits_lowerAll {pieces : List String} (h : ∀ w ∈ pieces, Inherits name w) :
    ∀ w ∈ Words.lowerAll pieces, Inherits name w := by
  intro w hw c hc hd
  obtain ⟨piece, hpiece, rfl⟩ := List.mem_map.1 hw
  rw [Words.lower, String.toList_ofList] at hc
  rcases mem_lowercase hc with hc | hc
  · exact h piece hpiece c hc hd
  · simp [hd] at hc

theorem inherits_lowerTail {pieces : List String} (h : ∀ w ∈ pieces, Inherits name w) :
    ∀ w ∈ Words.lowerTail pieces, Inherits name w := by
  cases pieces with
  | nil => simp [Words.lowerTail]
  | cons first rest =>
    intro w hw
    rcases List.mem_cons.1 hw with rfl | hw
    · exact h w (by simp)
    · exact inherits_lowerAll (fun v hv => h v (List.mem_cons_of_mem first hv)) w hw

theorem inherits_ofIdentifier (name : String) : ∀ w ∈ Words.ofIdentifier name, Inherits name w :=
  inherits_lowerAll (inherits_split name)

/-- The endings that plurals take. -/
def pluralSuffixes : List (List Char) :=
  [['s'], ['e', 's'], ['E', 'S'], ['i', 'e', 's'], ['I', 'E', 'S']]

/-- A plural is the start of its word and an ending. -/
theorem pluralize_cases {word : String} (h : word ≠ "") :
    ∃ stem, stem <+: word.toList ∧
      ∃ suffix ∈ pluralSuffixes, (Plural.pluralize word).toList = stem ++ suffix := by
  have hadded : [['s'], ['e', 's'], ['E', 'S']] ⊆ pluralSuffixes := by decide
  have hreplacing : [['i', 'e', 's'], ['I', 'E', 'S']] ⊆ pluralSuffixes := by decide
  obtain ⟨stem, last, rfl⟩ := Plural.exists_eq_push h
  rw [Plural.toList_pluralize_push, String.toList_push]
  rcases Plural.inflect_cases stem.toList last with
    ⟨suffix, hsuffix, hplural⟩ | ⟨-, suffix, hsuffix, hplural⟩
  · exact ⟨_, List.prefix_refl _, suffix, hadded hsuffix, hplural⟩
  · exact ⟨_, List.prefix_append _ _, suffix, hreplacing hsuffix, hplural⟩

theorem not_delimiter_suffix : ∀ suffix ∈ pluralSuffixes,
    suffix.all (fun c => !isDelimiter c) = true := by
  decide

theorem Inherits.pluralize {word : String} (h : Inherits name word) :
    Inherits name (Plural.pluralize word) := by
  by_cases hword : word = ""
  · subst hword
    exact inherits_of_all rfl name
  obtain ⟨stem, hstem, suffix, hsuffix, hplural⟩ := pluralize_cases hword
  intro c hc hd
  rw [hplural] at hc
  rcases List.mem_append.1 hc with hc | hc
  · exact h c (hstem.subset hc) hd
  · simp [not_delimiter (not_delimiter_suffix suffix hsuffix) c hc] at hd

theorem pluralize_ne_empty {word : String} (h : word ≠ "") : Plural.pluralize word ≠ "" := by
  obtain ⟨stem, -, suffix, hsuffix, hplural⟩ := pluralize_cases h
  intro hempty
  rw [hempty] at hplural
  have hnil : suffix = [] := (List.append_eq_nil_iff.1 hplural.symm).2
  subst hnil
  exact absurd hsuffix (by decide)

theorem inherits_moveIs {words : List String} (h : ∀ w ∈ words, Inherits name w) :
    ∀ w ∈ Phrase.moveIs words, Inherits name w := by
  unfold Phrase.moveIs
  split
  · intro w hw
    have herase : ∀ v ∈ words.erase "is", Inherits name v := fun v hv => h v (List.erase_subset hv)
    rcases List.mem_append.1 hw with hw | hw
    · exact herase w (List.take_subset _ _ hw)
    · rcases List.mem_cons.1 hw with rfl | hw
      · exact inherits_of_all (by decide) name
      · exact herase w (List.drop_subset _ _ hw)
  · exact h

/-! ## Phrases -/

/-- A text that ends in a full stop, holds no other delimiters in front of it than
spaces and those of a name, and does not start with a blank of its own. -/
def Composed (name text : String) : Prop :=
  ∃ first body, text.toList = first :: body ++ ['.'] ∧
    (isBlank first = true → first ∈ name.toList) ∧
    ∀ c ∈ first :: body, isDelimiter c = true → c = ' ' ∨ c ∈ name.toList

theorem mem_of_mem_intercalate {α : Type} {a : α} {sep : List α} {ls : List (List α)}
    (h : a ∈ List.intercalate sep ls) : a ∈ sep ∨ ∃ l ∈ ls, a ∈ l := by
  induction ls with
  | nil => simp at h
  | cons l ls ih =>
    cases ls with
    | nil => exact .inr ⟨l, by simp, by simpa using h⟩
    | cons l' ls =>
      rw [List.intercalate_cons_cons, List.append_assoc, List.mem_append, List.mem_append] at h
      rcases h with h | h | h
      · exact .inr ⟨l, by simp, h⟩
      · exact .inl h
      · rcases ih h with h | ⟨l'', hl, ha⟩
        · exact .inl h
        · exact .inr ⟨l'', List.mem_cons_of_mem l hl, ha⟩

theorem delimiter_of_join {words : List String} (h : ∀ w ∈ words, Inherits name w) :
    ∀ c ∈ (" ".intercalate words).toList, isDelimiter c = true → c = ' ' ∨ c ∈ name.toList := by
  intro c hc hd
  rw [String.toList_intercalate] at hc
  rcases mem_of_mem_intercalate hc with hc | ⟨l, hl, hc⟩
  · exact .inl (List.mem_singleton.1 hc)
  · obtain ⟨w, hw, rfl⟩ := List.mem_map.1 hl
    exact .inr (h w hw c hc hd)

/-- Words behind a lead of letters and spaces. -/
theorem composed_of_lead {first : Char} {rest : List Char} {lead : String} {words : List String}
    (hlead : lead.toList = first :: rest) (hfirst : isBlank first = false)
    (hletters : lead.toList.all (fun c => c == ' ' || !isDelimiter c) = true)
    (hwords : ∀ w ∈ words, Inherits name w) :
    Composed name (lead ++ " ".intercalate words ++ ".") := by
  refine ⟨first, rest ++ (" ".intercalate words).toList, ?_, fun hb => ?_, fun c hc hd => ?_⟩
  · simp [String.toList_append, hlead]
  · simp [hfirst] at hb
  · rw [← List.cons_append, ← hlead] at hc
    rcases List.mem_append.1 hc with hc | hc
    · have := List.all_eq_true.1 hletters c hc
      simp only [hd, Bool.not_true, Bool.or_false, beq_iff_eq] at this
      exact .inl this
    · exact delimiter_of_join hwords c hc hd

/-- Words without a lead. -/
theorem composed_of_words {word : String} {words : List String} (hword : word ≠ "")
    (hwords : ∀ w ∈ word :: words, Inherits name w) :
    Composed name (" ".intercalate (word :: words) ++ ".") := by
  obtain ⟨first, rest, hrest⟩ : ∃ first rest, word.toList = first :: rest :=
    List.exists_cons_of_ne_nil (by simpa using hword)
  obtain ⟨tail, htail⟩ : ∃ tail, (" ".intercalate (word :: words)).toList = first :: tail := by
    rw [String.toList_intercalate, List.map_cons, hrest]
    cases words with
    | nil => exact ⟨rest, by simp⟩
    | cons w words => exact ⟨_, by rw [List.map_cons, List.intercalate_cons_cons]; rfl⟩
  refine ⟨first, tail, by simp [String.toList_append, htail], fun hb => ?_, ?_⟩
  · have hfirst : isDelimiter first = true := by simp [isDelimiter, hb]
    exact hwords word (by simp) first (by simp [hrest]) hfirst
  · rw [← htail]
    exact delimiter_of_join hwords

theorem composed_lead {first : Char} {rest : List Char} {lead : String}
    (hlead : lead.toList = first :: rest) (hfirst : isBlank first = false)
    (hletters : lead.toList.all (fun c => c == ' ' || !isDelimiter c) = true) (name : String) :
    Composed name (lead ++ ".") := by
  have hnone : Composed name (lead ++ " ".intercalate [] ++ ".") :=
    composed_of_lead hlead hfirst hletters (by simp)
  simpa using hnone

theorem composed_sentence {first : Char} {rest : List Char} {lead : String} {words : List String}
    (hlead : lead.toList = first :: rest) (hfirst : isBlank first = false)
    (hletters : lead.toList.all (fun c => c == ' ' || !isDelimiter c) = true)
    (hwords : ∀ w ∈ words, Inherits name w) : Composed name (Phrase.sentence lead words) := by
  unfold Phrase.sentence
  split
  · exact composed_lead hlead hfirst hletters name
  · have hspace : (lead ++ " ").toList = first :: (rest ++ [' ']) := by simp [hlead]
    refine composed_of_lead hspace hfirst ?_ hwords
    rw [String.toList_append, List.all_append, hletters]
    rfl

theorem composed_common (name : String) : Composed name (Phrase.common name) :=
  composed_sentence rfl (by decide) (by decide) (inherits_ofIdentifier name)

theorem composed_interface (name : String) : Composed name (Phrase.interface name) := by
  have hwords := inherits_lowerTail (inherits_split name)
  unfold Phrase.interface
  split
  · rename_i rest hrest
    refine composed_sentence rfl (by decide) (by decide) (inherits_lowerAll fun w hw => ?_)
    rw [hrest] at hwords
    exact hwords w (List.mem_cons_of_mem "I" hw)
  · exact composed_sentence rfl (by decide) (by decide) (inherits_lowerAll hwords)

theorem composed_property (name : String) (isBoolean hasSetter : Bool) :
    Composed name (Phrase.property name isBoolean hasSetter) := by
  have hwords := inherits_ofIdentifier name
  unfold Phrase.property
  dsimp only
  split
  · cases hasSetter <;>
      exact composed_of_lead rfl (by decide) (by decide) (inherits_moveIs hwords)
  split
  · cases hasSetter <;> exact composed_lead rfl (by decide) (by decide) name
  · cases hasSetter <;> exact composed_of_lead rfl (by decide) (by decide) hwords

theorem composed_parameter (name : String) (shape : TypeShape) :
    Composed name (Phrase.parameter name shape) := by
  have hwords := inherits_ofIdentifier name
  unfold Phrase.parameter
  dsimp only
  split
  · exact composed_of_lead rfl (by decide) (by decide) hwords
  · exact composed_sentence rfl (by decide) (by decide) hwords

theorem ne_empty_of_split {verb : String} {object : List String}
    (h : Words.split name = verb :: object) : verb ≠ "" :=
  (Words.isCaseSplit_split name).ne_empty verb (by simp [h])

/-- A method without a name has no phrase. -/
theorem composed_method (name : String) :
    Composed name (Phrase.method name) ∨ name = "" ∧ Phrase.method name = "" := by
  have hwords := inherits_lowerTail (inherits_split name)
  cases hsplit : Words.split name with
  | nil =>
    have hname : name = "" := by
      rw [← Words.join_split name, hsplit]
      rfl
    exact .inr ⟨hname, by rw [Phrase.method, hsplit]; rfl⟩
  | cons verb object =>
    rw [hsplit] at hwords
    refine .inl ?_
    rw [Phrase.method, hsplit]
    refine composed_of_words (pluralize_ne_empty (ne_empty_of_split hsplit)) fun w hw => ?_
    simp only [List.mem_cons] at hw
    rcases hw with rfl | rfl | hw
    · exact (hwords verb (by simp [Words.lowerTail])).pluralize
    · exact inherits_of_all (by decide) name
    · exact hwords w (by simp [Words.lowerTail, hw])

end Gloss
