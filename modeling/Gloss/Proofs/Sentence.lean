import Gloss.Proofs.Template
import Gloss.Proofs.TypeShape

/-!
# Texts that are sentences

The built-in templates write in sentences: every text ends in one full stop and has no
blank at its ends, and summaries and parameters keep to one line. The full stop is
the last character of a phrase, and no other point can stand in front of it, since those
come from names only (`Composed`), or were dropped from the end of a description. This
takes names that are single words (`IsWord`).
-/

namespace Gloss

open Gloss.Text Comment

/-- A text that ends in one full stop, without blanks at its ends. -/
structure IsSentence (text : String) : Prop where
  stops : ['.'] <:+ text.toList
  stops_once : ¬ ['.', '.'] <:+ text.toList
  trimmed : trim text.toList = text.toList

/-- The characters that end a line. -/
def lineBreaks : List Char :=
  ['\n', '\x0b', '\x0c', '\r', '\u0085', '\u2028', '\u2029']

/-- A text without line breaks. -/
def OneLine (text : String) : Prop :=
  ∀ c ∈ text.toList, c ∉ lineBreaks

/-- A name that is not empty and has neither points nor blanks. -/
structure IsWord (name : String) : Prop where
  ne_empty : name ≠ ""
  no_point : '.' ∉ name.toList
  no_blank : ∀ c ∈ name.toList, isBlank c = false

theorem isSentence_of_kept {text : String} {kept : List Char} {first : Char}
    (htext : text.toList = kept ++ ['.']) (hfirst : kept.head? = some first)
    (hblank : isBlank first = false) (hlast : kept.getLast? ≠ some '.') : IsSentence text := by
  refine ⟨⟨kept, htext.symm⟩, fun htwo => ?_, ?_⟩
  · obtain ⟨init, hinit⟩ := htwo
    have hkept : kept = init ++ ['.'] := by
      have : init ++ ['.'] ++ ['.'] = kept ++ ['.'] := by rw [← htext, ← hinit]; simp
      exact (List.append_cancel_right this).symm
    exact hlast (by simp [hkept])
  · obtain ⟨rest, rfl⟩ := List.head?_eq_some_iff.1 hfirst
    rw [htext]
    exact trim_eq_self hblank (trimEnd_concat_of_not_blank (first :: rest) (by decide))

theorem isBlank_of_lineBreak {c : Char} (h : c ∈ lineBreaks) : isBlank c = true := by
  have hall : lineBreaks.all isBlank = true := by decide
  exact List.all_eq_true.1 hall c h

/-! ## Phrases from names -/

theorem Composed.isSentence {name text : String} (h : Composed name text) (hname : IsWord name) :
    IsSentence text := by
  obtain ⟨first, body, htext, hfirst, hbody⟩ := h
  have hblank : isBlank first = false := by
    rcases Bool.eq_false_or_eq_true (isBlank first) with hb | hb
    · exact hname.no_blank first (hfirst hb)
    · exact hb
  refine isSentence_of_kept htext rfl hblank fun hlast => ?_
  rcases hbody '.' (List.mem_of_getLast? hlast) (by decide) with hspace | hin
  · cases hspace
  · exact hname.no_point hin

theorem Composed.oneLine {name text : String} (h : Composed name text) (hname : IsWord name) :
    OneLine text := by
  obtain ⟨first, body, htext, -, hbody⟩ := h
  intro c hc hbreak
  have hblank := isBlank_of_lineBreak hbreak
  rw [htext] at hc
  rcases List.mem_append.1 hc with hc | hc
  · rcases hbody c hc (by simp [isDelimiter, hblank]) with rfl | hin
    · exact absurd hbreak (by decide)
    · simp [hname.no_blank c hin] at hblank
  · rw [List.mem_singleton.1 hc] at hbreak
    exact absurd hbreak (by decide)

/-! ## Constructors -/

theorem OneLine.append {s t : String} (hs : OneLine s) (ht : OneLine t) : OneLine (s ++ t) := by
  intro c hc
  rw [String.toList_append] at hc
  exact (List.mem_append.1 hc).elim (hs c) (ht c)

theorem oneLine_of_all {s : String} (h : s.toList.all (fun c => !lineBreaks.contains c) = true) :
    OneLine s := by
  intro c hc
  simpa using List.all_eq_true.1 h c hc

theorem IsWord.oneLine {name : String} (h : IsWord name) : OneLine name := by
  intro c hc hbreak
  have hblank := isBlank_of_lineBreak hbreak
  simp [h.no_blank c hc] at hblank

/-- A sentence around a text of any kind. -/
theorem isSentence_around (lead middle tail : String) {first last : Char}
    (hfirst : lead.toList.head? = some first) (hblank : isBlank first = false)
    (hlast : tail.toList.getLast? = some last) (hpoint : last ≠ '.') :
    IsSentence (lead ++ middle ++ (tail ++ ".")) := by
  have htext : (lead ++ middle ++ (tail ++ ".")).toList =
      (lead ++ middle).toList ++ tail.toList ++ ['.'] := by
    simp [String.toList_append]
  have hhead : ((lead ++ middle).toList ++ tail.toList).head? = some first := by
    rw [String.toList_append, List.append_assoc, List.head?_append, hfirst, Option.some_or]
  refine isSentence_of_kept htext hhead hblank ?_
  rw [List.getLast?_append, hlast, Option.some_or]
  simpa using hpoint

theorem isSentence_constructor (name : String) (isPrivate : Bool) :
    IsSentence (Phrase.constructor name isPrivate) := by
  unfold Phrase.constructor
  dsimp only
  split
  · exact isSentence_around _ _ " class from being created" rfl (by decide) rfl (by decide)
  · exact isSentence_around _ _ " class" rfl (by decide) rfl (by decide)

theorem oneLine_constructor {name : String} (h : IsWord name) (isPrivate : Bool) :
    OneLine (Phrase.constructor name isPrivate) := by
  have hreference : OneLine ("<see cref=\"" ++ name ++ "\"/>") :=
    ((oneLine_of_all (by decide)).append h.oneLine).append (oneLine_of_all (by decide))
  unfold Phrase.constructor
  dsimp only
  split
  · exact ((oneLine_of_all (by decide)).append hreference).append (oneLine_of_all (by decide))
  · exact ((oneLine_of_all (by decide)).append hreference).append (oneLine_of_all (by decide))

/-! ## Results -/

/-- A description starts with a letter, so that it is not dropped as a whole. -/
theorem isSentence_returns {shape : TypeShape} {text : String}
    (h : Phrase.returns shape = .ok (some text)) : IsSentence text := by
  rcases returns_cases h with ⟨-, hnone⟩ | ⟨-, phrase, hphrase, htext⟩
  · cases hnone
  · cases htext
    obtain ⟨kept, dropped, hsplit, hterminate, hlast, hdropped⟩ := terminate_split phrase
    have hhead := (TypeShape.describes_of_describe hphrase).head?_eq
    rw [hsplit] at hhead
    cases kept with
    | nil =>
      -- The letter that the phrase starts with would have been dropped.
      rcases hdropped 'A' (List.mem_of_head? hhead) with hpoint | hblank
      · cases hpoint
      · cases hblank
    | cons first rest =>
      cases hhead
      exact isSentence_of_kept hterminate rfl (by decide) hlast

/-! ## Comments -/

theorem summaryText_ok {d : Declaration} (hname : IsWord d.name) (howner : IsWord d.ownerName) :
    IsSentence d.summaryText ∧ OneLine d.summaryText := by
  have hcomposed : ∀ {text}, Composed d.name text → IsSentence text ∧ OneLine text :=
    fun h => ⟨h.isSentence hname, h.oneLine hname⟩
  unfold Declaration.summaryText
  split
  · exact hcomposed (composed_common d.name)
  · exact hcomposed (composed_common d.name)
  · exact hcomposed (composed_common d.name)
  · exact hcomposed (composed_interface d.name)
  · exact ⟨isSentence_constructor _ _, oneLine_constructor howner _⟩
  · rcases composed_method d.name with hmethod | hempty
    · exact hcomposed hmethod
    · exact absurd hempty.1 hname.ne_empty
  · exact hcomposed (composed_property d.name _ _)

/-- Where names are single words, every text that the built-in templates write is a
sentence, and all but the description of the result keep to one line. -/
theorem build_sentences {d : Declaration} {comment : Comment} (hname : IsWord d.name)
    (howner : IsWord d.ownerName) (hparameters : ∀ p ∈ d.parameters, IsWord p.name)
    (h : ({} : Registry).build d = .ok comment) :
    (∃ text, .summary text ∈ comment.segments) ∧
    (∀ text, .summary text ∈ comment.segments → IsSentence text ∧ OneLine text) ∧
    (∀ name text, .param name text ∈ comment.segments → IsSentence text ∧ OneLine text) ∧
    ∀ text, .returns text ∈ comment.segments → IsSentence text := by
  obtain ⟨result, hresult, rfl⟩ := described_of_build h
  refine ⟨⟨d.summaryText, List.mem_cons_self⟩, fun text htext => ?_, fun name text htext => ?_,
    fun text htext => ?_⟩
  · have heq : text = d.summaryText := by simpa [Declaration.described] using htext
    rw [heq]
    exact summaryText_ok hname howner
  · have hparam : ∃ p ∈ d.describedParameters, p.name = name ∧
        Phrase.parameter p.name p.shape = text := by
      simpa [Declaration.described] using htext
    obtain ⟨p, hp, rfl, rfl⟩ := hparam
    have hword := hparameters p (d.describedParameters_subset hp)
    have hcomposed := composed_parameter p.name p.shape
    exact ⟨hcomposed.isSentence hword, hcomposed.oneLine hword⟩
  · have heq : result = some text := by
      simpa [Declaration.described] using htext
    obtain ⟨shape, hshape⟩ := returns_of_resultText (heq ▸ hresult)
    exact isSentence_returns hshape

theorem build_sentences_points :
    let d : Declaration :=
      { kind := .method, name := "TryIs", returnType := some (.other "Span... "),
        parameters := [⟨"isBusy", .primitive "bool"⟩] }
    let comment : Comment :=
      ⟨[.summary "Tries the is.", .param "isBusy" "If true, is busy.", .returns "A Span."]⟩
    IsWord d.name ∧ IsWord d.ownerName ∧ (∀ p ∈ d.parameters, IsWord p.name) ∧
      ({} : Registry).build d = .ok comment ∧
      (IsSentence "Tries the is." ∧ OneLine "Tries the is.") ∧
      (IsSentence "If true, is busy." ∧ OneLine "If true, is busy.") ∧ IsSentence "A Span." := by
  intro d comment
  have hname : IsWord d.name := ⟨by decide, by decide, not_blank_of_any (by decide)⟩
  have howner : IsWord d.ownerName := hname
  have hparameters : ∀ p ∈ d.parameters, IsWord p.name :=
    List.forall_mem_singleton.2 ⟨by decide, by decide, not_blank_of_any (by decide)⟩
  have hbuild : ({} : Registry).build d = .ok comment := ok_of_toOption (by decide +kernel)
  obtain ⟨-, hsummary, hparam, hreturns⟩ := build_sentences hname howner hparameters hbuild
  exact ⟨hname, howner, hparameters, hbuild, hsummary _ (by decide), hparam "isBusy" _ (by decide),
    hreturns _ (by decide)⟩

end Gloss
