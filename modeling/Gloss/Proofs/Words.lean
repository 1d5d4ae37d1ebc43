import Gloss.Words

/-!
# Decomposition of an identifier

The pieces of an identifier are told by four rules (`IsCaseSplit`): they join to the
identifier, none is empty, each but the first starts with an upper-case character, and
none has such a character further on.

* `fragments_shape`: what the pieces look like, by induction on the identifier;
* `fragments_append`: a piece is cut off in front of the next upper-case character;
* `eq_split_of_isCaseSplit`: so lists that keep the rules are what `split` gives, by
  induction on the list.

Two identifiers that meet at an upper-case character are split apart, since their pieces,
put together, keep the rules.
-/

namespace Gloss.Words

open Gloss.Text

/-- Whether a text starts with an upper-case character. -/
def startsUpper (text : String) : Bool :=
  text.toList.head?.any isUppercase

/-- The rules for the pieces of a text. -/
structure IsCaseSplit (text : String) (pieces : List String) : Prop where
  join_eq : String.join pieces = text
  ne_empty : ∀ piece ∈ pieces, piece ≠ ""
  starts : ∀ piece ∈ pieces.tail, startsUpper piece = true
  inner : ∀ piece ∈ pieces, ∀ c ∈ piece.toList.tail, isUppercase c = false

/-! ## Pieces of a list of characters -/

/-- The first character starts the first piece, and only upper-case characters start the
others. -/
theorem fragments_shape (c : Char) (cs : List Char) :
    ∃ first rest, fragments (c :: cs) = (c :: first) :: rest ∧
      (∀ d ∈ first, isUppercase d = false) ∧
      ∀ piece ∈ rest, ∃ d inner, piece = d :: inner ∧ isUppercase d = true ∧
        ∀ e ∈ inner, isUppercase e = false := by
  induction cs generalizing c with
  | nil => exact ⟨[], [], rfl, by simp, by simp⟩
  | cons d cs ih =>
    obtain ⟨first, rest, hshape, hfirst, hrest⟩ := ih d
    rw [fragments, hshape]
    cases hd : isUppercase d with
    | true =>
      exact ⟨[], (d :: first) :: rest, rfl, by simp,
        List.forall_mem_cons.2 ⟨⟨d, first, rfl, hd, hfirst⟩, hrest⟩⟩
    | false => exact ⟨d :: first, rest, rfl, List.forall_mem_cons.2 ⟨hd, hfirst⟩, hrest⟩

/-- A piece ends where the text behind it does or where that starts in upper case. -/
theorem fragments_append {c : Char} {cs rest : List Char}
    (hcs : ∀ d ∈ cs, isUppercase d = false) (hrest : ∀ d ∈ rest.head?, isUppercase d = true) :
    fragments (c :: cs ++ rest) = (c :: cs) :: fragments rest := by
  induction cs generalizing c with
  | nil =>
    cases rest with
    | nil => rfl
    | cons d rest => simp [fragments, hrest d rfl]
  | cons d cs ih =>
    obtain ⟨hd, hcs⟩ := List.forall_mem_cons.1 hcs
    calc fragments (c :: d :: cs ++ rest)
        = addToFirst c (fragments (d :: cs ++ rest)) := by simp [fragments, hd]
      _ = (c :: d :: cs) :: fragments rest := by rw [ih hcs, addToFirst]

/-! ## Pieces of a text -/

theorem exists_toList_eq_cons {text : String} (h : text ≠ "") : ∃ c cs, text.toList = c :: cs :=
  List.exists_cons_of_ne_nil (by simpa using h)

theorem ne_empty_of_startsUpper {text : String} (h : startsUpper text = true) : text ≠ "" := by
  rintro rfl
  cases h

theorem startsUpper_append {text : String} (h : startsUpper text = true) (rest : String) :
    startsUpper (text ++ rest) = true := by
  obtain ⟨c, cs, htext⟩ := exists_toList_eq_cons (ne_empty_of_startsUpper h)
  simpa [startsUpper, htext] using h

theorem join_split (text : String) : String.join (split text) = text := by
  rw [← String.toList_inj, String.toList_join, split, List.flatMap_map]
  simpa [List.flatMap_def] using flatten_fragments text.toList

/-- The pieces of a text that is not empty: the first starts as the text does. -/
theorem split_shape {text : String} (h : text ≠ "") :
    ∃ first rest, split text = first :: rest ∧ first.toList.head? = text.toList.head? ∧
      (∀ c ∈ first.toList.tail, isUppercase c = false) ∧
      ∀ piece ∈ rest, startsUpper piece = true ∧
        ∀ c ∈ piece.toList.tail, isUppercase c = false := by
  obtain ⟨c, cs, htext⟩ := exists_toList_eq_cons h
  obtain ⟨first, rest, hshape, hfirst, hrest⟩ := fragments_shape c cs
  refine ⟨String.ofList (c :: first), rest.map String.ofList, ?_, by simp [htext],
    by simpa using hfirst, ?_⟩
  · rw [split, htext, hshape, List.map_cons]
  · intro piece hpiece
    obtain ⟨chars, hchars, rfl⟩ := List.mem_map.1 hpiece
    obtain ⟨d, inner, rfl, hd, hinner⟩ := hrest chars hchars
    exact ⟨by simpa [startsUpper] using hd, by simpa using hinner⟩

theorem isCaseSplit_split (text : String) : IsCaseSplit text (split text) := by
  by_cases htext : text = ""
  · subst htext
    exact ⟨rfl, by simp [split, fragments], by simp [split, fragments], by simp [split, fragments]⟩
  obtain ⟨first, rest, hsplit, hhead, hfirst, hrest⟩ := split_shape htext
  have hne : first ≠ "" := by
    rintro rfl
    exact htext (by simpa using hhead.symm)
  refine ⟨join_split text, ?_, ?_, ?_⟩ <;> rw [hsplit]
  · exact List.forall_mem_cons.2 ⟨hne, fun piece hp => ne_empty_of_startsUpper (hrest piece hp).1⟩
  · exact fun piece hp => (hrest piece hp).1
  · exact List.forall_mem_cons.2 ⟨hfirst, fun piece hp => (hrest piece hp).2⟩

theorem startsUpper_of_mem_split {text piece : String} (h : startsUpper text = true)
    (hpiece : piece ∈ split text) : startsUpper piece = true := by
  obtain ⟨first, rest, hsplit, hhead, -, hrest⟩ := split_shape (ne_empty_of_startsUpper h)
  rw [hsplit] at hpiece
  rcases List.mem_cons.1 hpiece with rfl | hpiece
  · rwa [startsUpper, hhead]
  · exact (hrest piece hpiece).1

/-- One piece is cut off. -/
theorem split_piece_append {piece rest : String} (hne : piece ≠ "")
    (hinner : ∀ c ∈ piece.toList.tail, isUppercase c = false)
    (hrest : rest = "" ∨ startsUpper rest = true) :
    split (piece ++ rest) = piece :: split rest := by
  obtain ⟨c, cs, hpiece⟩ := exists_toList_eq_cons hne
  rw [hpiece, List.tail_cons] at hinner
  have hhead : ∀ d ∈ rest.toList.head?, isUppercase d = true := by
    rcases hrest with rfl | hrest
    · simp
    · intro d hd
      simpa [startsUpper, Option.mem_def.1 hd] using hrest
  rw [split, String.toList_append, hpiece, fragments_append hinner hhead, List.map_cons, ← hpiece,
    String.ofList_toList, split]

theorem IsCaseSplit.tail {text piece : String} {pieces : List String}
    (h : IsCaseSplit text (piece :: pieces)) : IsCaseSplit (String.join pieces) pieces where
  join_eq := rfl
  ne_empty := fun p hp => h.ne_empty p (List.mem_cons_of_mem piece hp)
  starts := fun p hp => h.starts p (List.mem_of_mem_tail hp)
  inner := fun p hp => h.inner p (List.mem_cons_of_mem piece hp)

theorem eq_split_of_isCaseSplit {text : String} {pieces : List String}
    (h : IsCaseSplit text pieces) : pieces = split text := by
  induction pieces generalizing text with
  | nil =>
    rw [← h.join_eq]
    rfl
  | cons piece pieces ih =>
    have hrest : String.join pieces = "" ∨ startsUpper (String.join pieces) = true := by
      cases pieces with
      | nil => exact .inl rfl
      | cons next pieces =>
        rw [String.join_cons]
        exact .inr (startsUpper_append (h.starts next (by simp)) _)
    calc piece :: pieces
        = piece :: split (String.join pieces) := by rw [← ih h.tail]
      _ = split (piece ++ String.join pieces) :=
        (split_piece_append (h.ne_empty piece (by simp)) (h.inner piece (by simp)) hrest).symm
      _ = split text := by rw [← h.join_eq, String.join_cons]

/-- Pieces of two texts, put together, keep the rules if the second text starts a piece. -/
theorem isCaseSplit_append {a b : String} (hb : b = "" ∨ startsUpper b = true) :
    IsCaseSplit (a ++ b) (split a ++ split b) := by
  have ha := isCaseSplit_split a
  have hsplit := isCaseSplit_split b
  refine ⟨by rw [String.join_append, join_split, join_split], ?_, ?_, ?_⟩
  · exact List.forall_mem_append.2 ⟨ha.ne_empty, hsplit.ne_empty⟩
  · have hall : ∀ piece ∈ split b, startsUpper piece = true := by
      rcases hb with rfl | hb
      · simp [split, fragments]
      · exact fun piece => startsUpper_of_mem_split hb
    intro piece hpiece
    cases hsa : split a with
    | nil =>
      rw [hsa] at hpiece
      exact hsplit.starts piece hpiece
    | cons first rest =>
      rw [hsa] at hpiece ha
      exact (List.mem_append.1 hpiece).elim (ha.starts piece) (hall piece)
  · exact List.forall_mem_append.2 ⟨ha.inner, hsplit.inner⟩

/-- The pieces of a text are the one list that keeps the rules. So a text may be split
in front of any upper-case character first. -/
theorem split_unique (text : String) :
    IsCaseSplit text (split text) ∧
      (∀ pieces, IsCaseSplit text pieces → pieces = split text) ∧
      ∀ rest, rest = "" ∨ startsUpper rest = true →
        split (text ++ rest) = split text ++ split rest :=
  ⟨isCaseSplit_split text, fun _ => eq_split_of_isCaseSplit,
    fun _ hrest => (eq_split_of_isCaseSplit (isCaseSplit_append hrest)).symm⟩

theorem split_unique_acronym :
    IsCaseSplit "_readÜT" ["_read", "Ü", "T"] ∧ startsUpper "IdÄra" = true ∧
      ["_read", "Ü", "T"] = split "_readÜT" ∧
      split ("_readÜT" ++ "IdÄra") = ["_read", "Ü", "T"] ++ ["Id", "Ära"] := by
  have hinner : ["_read", "Ü", "T"].all (·.toList.tail.all (!isUppercase ·)) = true := by
    decide +kernel
  have hkept : IsCaseSplit "_readÜT" ["_read", "Ü", "T"] :=
    ⟨by decide, by decide, by decide +kernel, fun piece hpiece c hc => by
      simpa using List.all_eq_true.1 (List.all_eq_true.1 hinner piece hpiece) c hc⟩
  have hstarts : startsUpper "IdÄra" = true := by decide +kernel
  have hpieces := (split_unique "_readÜT").2.1 _ hkept
  have happend := (split_unique "_readÜT").2.2 "IdÄra" (.inr hstarts)
  have hrest : split "IdÄra" = ["Id", "Ära"] := by decide +kernel
  exact ⟨hkept, hstarts, hpieces, by rw [happend, ← hpieces, hrest]⟩

end Gloss.Words
