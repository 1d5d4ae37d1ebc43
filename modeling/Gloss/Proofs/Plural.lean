import Gloss.Plural
import Gloss.Proofs.Text.Lowercase
import Gloss.Words

/-!
# Plurals and case

The ending of a plural is told from the lower-case form of a word, but the plural is made
from the word itself. The two need not have the same characters, nor as many. What joins
them is that the last character of a word decides how its lower-case form ends:

* `eq_y_of_mem_lowerChar`: no character but `y` and `Y` has `y` in its lower-case form, so
  `ies` takes the place of one of these only (`inflect_cases`);
* `map_toLower_inflect`: in ASCII, where a word and its lower-case form agree character
  by character, case makes no difference to the ending;
* `eq_y_of_inflect`: an added ending never looks like `ies` in place of the last character.
-/

namespace Gloss.Plural

open Gloss.Text

/-! ## The ending and the last character -/

theorem image_ne_y : ∀ run ∈ lowerRuns, ∀ k, k < run.source.last + 1 - run.source.first →
    Char.ofNat (k + run.image) ≠ 'y' := by
  decide +kernel

theorem eq_y_of_toLower {c : Char} (hc : c.toNat < 0x80) :
    c.toLower = 'y' → c = 'y' ∨ c = 'Y' :=
  forall_char_lt (P := fun c => c.toLower = 'y' → c = 'y' ∨ c = 'Y') (by decide +kernel) hc

theorem eq_y_of_mem_lowerChar {c : Char} (h : 'y' ∈ lowerChar c) : c = 'y' ∨ c = 'Y' := by
  rcases lowerChar_cases c with ⟨hc, hform⟩ | hform | ⟨run, hrun, k, hk, hform⟩ | hform <;>
    rw [hform] at h
  · exact eq_y_of_toLower hc (List.mem_singleton.1 h).symm
  · exact absurd h (by decide)
  · exact absurd (List.mem_singleton.1 h).symm (image_ne_y run hrun k hk)
  · exact .inl (List.mem_singleton.1 h).symm

theorem head?_of_endingOfReversed_ies {cs : List Char} (h : endingOfReversed cs = .ies) :
    cs.head? = some 'y' := by
  -- Of the two rules with a condition, that for `y` has the goal, that for `o` gives `es` or `s`.
  fun_cases endingOfReversed cs with
  | case6 | case7 => rfl
  | case8 | case9 =>
    rw [endingOfReversed] at h
    split at h <;> cases h
  | _ => simp_all [endingOfReversed]

theorem eq_y_of_ending_ies {stem : List Char} {last : Char} (h : ending (stem ++ [last]) = .ies) :
    last = 'y' ∨ last = 'Y' := by
  obtain ⟨front, form, hlower, hform⟩ := lowercaseFrom_concat [] stem last
  have hy : (front ++ form).getLast? = some 'y' := by
    rw [← hlower, ← List.head?_reverse]
    exact head?_of_endingOfReversed_ies h
  rcases hform with rfl | rfl | rfl
  · rw [List.getLast?_append, List.getLast?_eq_some_getLast (lowerChar_ne_nil last),
      Option.some_or, Option.some_inj] at hy
    exact eq_y_of_mem_lowerChar (hy ▸ List.getLast_mem (lowerChar_ne_nil last))
  · simp at hy
  · simp at hy

/-- No rule is for words that end in `i`. -/
theorem inflect_of_i (stem : List Char) {last : Char} (h : last = 'i' ∨ last = 'I') :
    inflect (stem ++ [last]) last = stem ++ [last] ++ ['s'] := by
  have hform : lowerChar last = ['i'] := by
    rcases h with rfl | rfl <;> decide
  have hending : ending (stem ++ [last]) = .s := by
    obtain ⟨front, form, hlower, hlast⟩ := lowercaseFrom_concat [] stem last
    rw [ending, lowercase, hlower, List.reverse_append]
    rcases hlast with rfl | rfl | rfl
    · rw [hform]
      rfl
    · rfl
    · rfl
  rw [inflect, hending]

/-- An ending is added to a word, or `ies` takes the place of `y`. -/
theorem inflect_cases (stem : List Char) (last : Char) :
    (∃ suffix ∈ [['s'], ['e', 's'], ['E', 'S']],
      inflect (stem ++ [last]) last = stem ++ [last] ++ suffix) ∨
    (last = 'y' ∨ last = 'Y') ∧
      ∃ suffix ∈ [['i', 'e', 's'], ['I', 'E', 'S']],
        inflect (stem ++ [last]) last = stem ++ suffix := by
  cases hending : ending (stem ++ [last]) with
  | s => exact .inl ⟨['s'], by simp, by rw [inflect, hending]⟩
  | es =>
    rw [inflect, hending]
    refine .inl ⟨_, ?_, rfl⟩
    split <;> decide
  | ies =>
    rw [inflect, hending]
    refine .inr ⟨eq_y_of_ending_ies hending, _, ?_, by rw [List.dropLast_concat]⟩
    split <;> decide

/-- If a plural reads as if `ies` had taken the place of the last character, that is a `y`. -/
theorem eq_y_of_inflect {stem suffix : List Char} {last : Char}
    (hsuffix : suffix = ['i', 'e', 's'] ∨ suffix = ['I', 'E', 'S'])
    (h : inflect (stem ++ [last]) last = stem ++ suffix) : last = 'y' ∨ last = 'Y' := by
  rcases inflect_cases stem last with ⟨added, -, hadded⟩ | ⟨hlast, -⟩
  · -- Behind an added ending the word would end in `i`, and so take no more than `s`.
    have hcons : suffix = last :: added := by simpa [h] using hadded
    have hi : last = 'i' ∨ last = 'I' := by
      rcases hsuffix with rfl | rfl
      · exact .inl (List.cons.inj hcons).1.symm
      · exact .inr (List.cons.inj hcons).1.symm
    have htwo : [last, 's'] = suffix := by simpa [inflect_of_i stem hi] using h
    rcases hsuffix with rfl | rfl <;> simp at htwo
  · exact hlast

/-! ## ASCII -/

theorem isUppercase_toLower {c : Char} (hc : c.toNat < 0x80) : isUppercase c.toLower = false :=
  forall_char_lt (P := fun c => isUppercase c.toLower = false) (by decide +kernel) hc

theorem ascii_map_toLower {cs : List Char} (h : ∀ c ∈ cs, c.toNat < 0x80) :
    ∀ c ∈ cs.map Char.toLower, c.toNat < 0x80 := by
  intro d hd
  obtain ⟨c, hc, rfl⟩ := List.mem_map.1 hd
  exact toLower_lt (h c hc)

theorem ending_map_toLower {word : List Char} (h : ∀ c ∈ word, c.toNat < 0x80) :
    ending (word.map Char.toLower) = ending word := by
  have htwice : (word.map Char.toLower).map Char.toLower = word.map Char.toLower := by
    rw [List.map_map]
    refine List.map_congr_left fun c hc => ?_
    exact forall_char_lt (P := fun c => c.toLower.toLower = c.toLower) (by decide +kernel) (h c hc)
  rw [ending, lowercase_of_ascii (ascii_map_toLower h), htwice, ending, lowercase_of_ascii h]

theorem map_toLower_inflect {word : List Char} {last : Char} (h : ∀ c ∈ word, c.toNat < 0x80)
    (hlast : last.toNat < 0x80) :
    (inflect word last).map Char.toLower = inflect (word.map Char.toLower) last.toLower := by
  simp only [inflect, ending_map_toLower h, isUppercase_toLower hlast]
  cases ending word with
  | s => simp
  | es => cases isUppercase last <;> simp
  | ies => cases isUppercase last <;> simp [List.map_dropLast]

theorem ascii_inflect {stem : List Char} {last : Char}
    (h : ∀ c ∈ stem ++ [last], c.toNat < 0x80) :
    ∀ c ∈ inflect (stem ++ [last]) last, c.toNat < 0x80 := by
  have hstem := (List.forall_mem_append.1 h).1
  rcases inflect_cases stem last with ⟨suffix, hsuffix, hplural⟩ | ⟨-, suffix, hsuffix, hplural⟩ <;>
    rw [hplural]
  · refine List.forall_mem_append.2 ⟨h, ?_⟩
    simp only [List.mem_cons, List.not_mem_nil, or_false] at hsuffix
    rcases hsuffix with rfl | rfl | rfl <;> simp
  · refine List.forall_mem_append.2 ⟨hstem, ?_⟩
    simp only [List.mem_cons, List.not_mem_nil, or_false] at hsuffix
    rcases hsuffix with rfl | rfl <;> simp

/-! ## Words as texts -/

theorem exists_eq_push {word : String} (h : word ≠ "") :
    ∃ (stem : String) (last : Char), word = stem.push last := by
  have hword : word.toList ≠ [] := by simpa using h
  refine ⟨String.ofList word.toList.dropLast, word.toList.getLast hword, ?_⟩
  rw [← String.toList_inj, String.toList_push, String.toList_ofList, List.dropLast_concat_getLast]

theorem toList_pluralize_push (stem : String) (last : Char) :
    (pluralize (stem.push last)).toList = inflect (stem.toList ++ [last]) last := by
  simp [pluralize]

theorem pluralize_push_cases (stem : String) (last : Char) :
    (∃ suffix, suffix ≠ "" ∧ pluralize (stem.push last) = stem.push last ++ suffix) ∨
      pluralize (stem.push last) = stem ++ "ies" ∨ pluralize (stem.push last) = stem ++ "IES" := by
  simp only [← String.toList_inj, toList_pluralize_push, String.toList_append, String.toList_push]
  rcases inflect_cases stem.toList last with ⟨suffix, hsuffix, h⟩ | ⟨-, suffix, hsuffix, h⟩
  · have hne : suffix ≠ [] := by
      rintro rfl
      exact absurd hsuffix (by decide)
    exact .inl ⟨String.ofList suffix, by simpa using hne, by rw [h, String.toList_ofList]⟩
  · simp only [List.mem_cons, List.not_mem_nil, or_false] at hsuffix
    rcases hsuffix with rfl | rfl
    · exact .inr (.inl h)
    · exact .inr (.inr h)

theorem eq_y_of_pluralize {stem : String} {last : Char}
    (h : pluralize (stem.push last) = stem ++ "ies" ∨ pluralize (stem.push last) = stem ++ "IES") :
    last = 'y' ∨ last = 'Y' := by
  simp only [← String.toList_inj, toList_pluralize_push, String.toList_append] at h
  rcases h with h | h
  · exact eq_y_of_inflect (.inl rfl) h
  · exact eq_y_of_inflect (.inr rfl) h

theorem lower_pluralize_of_ascii {word : String} (h : ∀ c ∈ word.toList, c.toNat < 0x80) :
    Words.lower (pluralize word) = pluralize (Words.lower word) := by
  by_cases hword : word = ""
  · subst hword
    rfl
  obtain ⟨stem, last, rfl⟩ := exists_eq_push hword
  rw [String.toList_push] at h
  have hlast : last.toNat < 0x80 := h last (by simp)
  have hlower : Words.lower (stem.push last) =
      (String.ofList (stem.toList.map Char.toLower)).push last.toLower := by
    rw [Words.lower, String.toList_push, lowercase_of_ascii h, ← String.toList_inj]
    simp
  calc Words.lower (pluralize (stem.push last))
      = String.ofList ((inflect (stem.toList ++ [last]) last).map Char.toLower) := by
        rw [Words.lower, toList_pluralize_push, lowercase_of_ascii (ascii_inflect h)]
    _ = String.ofList (inflect ((stem.toList ++ [last]).map Char.toLower) last.toLower) := by
        rw [map_toLower_inflect h hlast]
    _ = pluralize (Words.lower (stem.push last)) := by
        rw [hlower, ← String.toList_inj, toList_pluralize_push]
        simp

/-- In ASCII the plural does not depend on case. Any plural extends its word, but for
`ies`, which takes the place of `y`. -/
theorem pluralize_caseless (word : String) :
    ((∀ c ∈ word.toList, c.toNat < 0x80) →
      Words.lower (pluralize word) = pluralize (Words.lower word)) ∧
    (word ≠ "" → ∃ (stem : String) (last : Char), word = stem.push last ∧
      ((∃ suffix, suffix ≠ "" ∧ pluralize word = word ++ suffix) ∨
        pluralize word = stem ++ "ies" ∨ pluralize word = stem ++ "IES") ∧
      (pluralize word = stem ++ "ies" ∨ pluralize word = stem ++ "IES" →
        last = 'y' ∨ last = 'Y')) := by
  refine ⟨lower_pluralize_of_ascii, fun hword => ?_⟩
  obtain ⟨stem, last, rfl⟩ := exists_eq_push hword
  exact ⟨stem, last, rfl, pluralize_push_cases stem last, eq_y_of_pluralize⟩

theorem pluralize_caseless_mixed :
    (∀ c ∈ "eNTRY".toList, c.toNat < 0x80) ∧ Words.lower (pluralize "eNTRY") = pluralize "entry" ∧
    "ÉY" ≠ "" ∧ ∃ (stem : String) (last : Char), "ÉY" = stem.push last ∧
      ((∃ suffix, suffix ≠ "" ∧ pluralize "ÉY" = "ÉY" ++ suffix) ∨
        pluralize "ÉY" = stem ++ "ies" ∨ pluralize "ÉY" = stem ++ "IES") ∧
      (pluralize "ÉY" = stem ++ "ies" ∨ pluralize "ÉY" = stem ++ "IES" →
        last = 'y' ∨ last = 'Y') := by
  have hascii : ∀ c ∈ "eNTRY".toList, c.toNat < 0x80 := by simp
  have hlower : Words.lower "eNTRY" = "entry" := by decide +kernel
  have hcase := (pluralize_caseless "eNTRY").1 hascii
  rw [hlower] at hcase
  have hne : "ÉY" ≠ "" := by decide
  exact ⟨hascii, hcase, hne, (pluralize_caseless "ÉY").2 hne⟩

end Gloss.Plural
