import Gloss.Proofs.Text.Respaced
import Gloss.TypeShape.Read

/-!
# Lexemes of written types

The shapes that C# has a spelling for (`Regular`), and the lexemes of that spelling
(`tokens`). A word ends where no identifier goes on and a symbol where it is not
the start of a longer one, so `lexemes_display` holds in front of any text that
carries neither on (`Border`). A written type has one space behind each comma and
no other blank (`Regular.spaced`).
-/

namespace Gloss.Source

open Gloss.Text

/-- The lexeme of a word. -/
def Lexeme.ofWord (word : List Char) : Lexeme := ⟨.word, word⟩

/-- The lexeme of a symbol of one character. -/
def Lexeme.ofSymbol (c : Char) : Lexeme := ⟨.symbol, [c]⟩

/-- The code points that are blank in a source text. -/
def blankCodes : List Nat :=
  List.range' 0x09 5 ++ [0x20, 0x85, 0xa0, 0x1680] ++ List.range' 0x2000 11 ++
    [0x2028, 0x2029, 0x202f, 0x205f, 0x3000, 0xfeff]

theorem toNat_mem_blankCodes {c : Char} (h : isSourceBlank c = true) : c.toNat ∈ blankCodes := by
  simp only [isSourceBlank, isBlank, Bool.or_eq_true, Bool.and_eq_true, decide_eq_true_eq,
    beq_iff_eq] at h
  rcases h with h | rfl
  · simp only [blankCodes, List.mem_append, List.mem_range'_1, List.mem_cons, List.not_mem_nil]
    omega
  · decide

theorem blankCodes_not_identifier : ∀ n ∈ blankCodes,
    isIdentifierStart (Char.ofNat n) = false ∧ isIdentifierPart (Char.ofNat n) = false := by
  decide +kernel

theorem isSourceBlank_of_identifier {c : Char}
    (h : isIdentifierStart c = true ∨ isIdentifierPart c = true) : isSourceBlank c = false := by
  rw [← Bool.not_eq_true]
  intro hb
  have hnot := blankCodes_not_identifier c.toNat (toNat_mem_blankCodes hb)
  rw [Char.ofNat_toNat] at hnot
  simp [hnot] at h

/-- Whether a text is an identifier without a mark in front of it. -/
def isPlainWord : List Char → Bool
  | [] => false
  | c :: cs => isIdentifierStart c && cs.all isIdentifierPart

theorem exists_of_isPlainWord {word : List Char} (h : isPlainWord word = true) :
    ∃ c cs, word = c :: cs ∧ isIdentifierStart c = true ∧ ∀ d ∈ cs, isIdentifierPart d = true := by
  cases word with
  | nil => cases h
  | cons c cs =>
    rw [isPlainWord, Bool.and_eq_true, List.all_eq_true] at h
    exact ⟨c, cs, rfl, h⟩

theorem isSourceBlank_of_mem {word : List Char} (h : isPlainWord word = true) {c : Char}
    (hc : c ∈ word) : isSourceBlank c = false := by
  obtain ⟨d, ds, rfl, hd, hds⟩ := exists_of_isPlainWord h
  rcases List.mem_cons.1 hc with rfl | hc
  · exact isSourceBlank_of_identifier (.inl hd)
  · exact isSourceBlank_of_identifier (.inr (hds c hc))

theorem lexemes_cons {c : Char} {kind : LexemeKind} {text rest : List Char}
    (hextent : extent c (text ++ rest) = (kind, text.length)) :
    lexemes (c :: (text ++ rest)) = ⟨kind, c :: text⟩ :: lexemes rest := by
  rw [lexemes, hextent]
  simp

/-- A word ends in front of a character that no identifier goes on with. -/
theorem lexemes_word {word rest : List Char} (h : isPlainWord word = true)
    (hrest : ∀ d ∈ rest.head?, isIdentifierPart d = false) :
    lexemes (word ++ rest) = .ofWord word :: lexemes rest := by
  obtain ⟨c, cs, rfl, hc, hcs⟩ := exists_of_isPlainWord h
  have hslash : (c == '/') = false := by
    rw [beq_eq_false_iff_ne]
    rintro rfl
    cases hc
  have hhash : (c == '#') = false := by
    rw [beq_eq_false_iff_ne]
    rintro rfl
    cases hc
  refine lexemes_cons ?_
  rw [extent, isSourceBlank_of_identifier (.inl hc), hslash, hhash, hc,
    takeWhile_append_of_head? hcs hrest]
  rfl

/-- The symbols of one character in a written type, and those around the type of a field. -/
def typeSymbols : List Char := ['<', '>', '[', ']', '?', ',', '.', '{', '}', ';']

theorem plain_of_mem_typeSymbols {c : Char} (hc : c ∈ typeSymbols) : isSourceBlank c = false ∧
    (c == '/') = false ∧ (c == '#') = false ∧ isIdentifierStart c = false ∧ (c == '@') = false ∧
    c.isDigit = false ∧ isSymbolChar c = true := by
  simp only [typeSymbols, List.mem_cons, List.not_mem_nil, or_false] at hc
  rcases hc with rfl | rfl | rfl | rfl | rfl | rfl | rfl | rfl | rfl | rfl <;> decide

theorem not_mem_of_isPlainWord {word : List Char} (h : isPlainWord word = true) {c : Char}
    (hc : c ∈ typeSymbols) : c ∉ word := by
  obtain ⟨d, ds, rfl, hd, hds⟩ := exists_of_isPlainWord h
  intro hmem
  rcases List.mem_cons.1 hmem with rfl | hmem
  · simp [(plain_of_mem_typeSymbols hc).2.2.2.1] at hd
  · have hpart := hds c hmem
    simp only [typeSymbols, List.mem_cons, List.not_mem_nil, or_false] at hc
    rcases hc with rfl | rfl | rfl | rfl | rfl | rfl | rfl | rfl | rfl | rfl <;> cases hpart

theorem openLiteral_of_mem {c : Char} (hc : c ∈ typeSymbols) (rest : List Char) :
    openLiteral (c :: rest) = none := by
  simp only [typeSymbols, List.mem_cons, List.not_mem_nil, or_false] at hc
  rcases hc with rfl | rfl | rfl | rfl | rfl | rfl | rfl | rfl | rfl | rfl <;> rfl

/-- A symbol ends in front of a character that makes no longer symbol of it. -/
theorem lexemes_symbol {c : Char} {rest : List Char} (hc : c ∈ typeSymbols)
    (hrest : ∀ d ∈ rest.head?, (c, d) ∉ longSymbols) :
    lexemes (c :: rest) = .ofSymbol c :: lexemes rest := by
  have hlong : (rest.head?.any fun d => longSymbols.contains (c, d)) = false := by
    cases rest with
    | nil => rfl
    | cons d rest => simpa using hrest d rfl
  obtain ⟨hblank, hslash, hhash, hstart, hat, hdigit, hsymbol⟩ := plain_of_mem_typeSymbols hc
  have hextent : extent c ([] ++ rest) = (.symbol, ([] : List Char).length) := by
    rw [extent, List.nil_append, hblank, hslash, hhash, hstart, hat, hdigit,
      openLiteral_of_mem hc, hlong, hsymbol]
    rfl
  exact lexemes_cons hextent

theorem lexemes_space {rest : List Char} (hrest : ∀ d ∈ rest.head?, isSourceBlank d = false) :
    lexemes (' ' :: rest) = ⟨.blank, [' ']⟩ :: lexemes rest := by
  have hextent : extent ' ' ([] ++ rest) = (.blank, ([] : List Char).length) := by
    rw [extent, takeWhile_append_of_head? (by simp) hrest]
    rfl
  exact lexemes_cons hextent

end Gloss.Source

namespace Gloss.TypeShape

open Gloss.Source Gloss.Text

/-! ## Regular shapes -/

/-- The name of a type: an identifier that reading gives no other meaning. The words
left out are keywords of C#, a few of them only where they have a meaning. -/
structure IsName (name : String) : Prop where
  isWord : isPlainWord name.toList = true
  not_keyword : name ∉ keywordTypes ++ reservedWords ++ memberWords ++ ["var"]

theorem IsName.not_mem {name : String} (h : IsName name) : name ∉ keywordTypes ∧
    name ∉ reservedWords ∧ name ∉ memberWords ∧ name ≠ "var" := by
  have := h.not_keyword
  simp only [List.mem_append, List.mem_singleton, not_or] at this
  exact ⟨this.1.1.1, this.1.1.2, this.1.2, this.2⟩

theorem IsName.identifierText {name : String} (h : IsName name) :
    identifierText name.toList = name := by
  obtain ⟨c, cs, hcs, hc, -⟩ := exists_of_isPlainWord h.isWord
  have hmark : (c == '@') = false := by
    rw [beq_eq_false_iff_ne]
    rintro rfl
    cases hc
  rw [TypeShape.identifierText, hcs, List.dropWhile_cons_of_neg (by simp [hmark]), ← hcs,
    String.ofList_toList]

/-- The shapes that C# has a spelling for. Nothing is nullable twice, and `void` is no
part of a type. -/
inductive Regular : TypeShape → Prop where
  | primitive {name : String} (h : name ∈ keywordTypes) (hvoid : name ≠ "void") :
      Regular (.primitive name)
  | named {name : String} (h : IsName name) : Regular (.named name)
  | qualified {parts : List String} (h : ∀ part ∈ parts, IsName part) (hlen : 2 ≤ parts.length) :
      Regular (.qualified (".".intercalate parts))
  | generic {base : String} {args : List TypeShape} (h : IsName base)
      (hargs : ∀ arg ∈ args, Regular arg) (hne : args ≠ []) : Regular (.generic base args)
  | array {element : TypeShape} (h : Regular element) : Regular (.array element)
  | nullable {inner : TypeShape} (h : Regular inner) (hnot : ∀ shape, inner ≠ .nullable shape) :
      Regular (.nullable inner)

/-- The lexemes of names with points between them. -/
def pathTokens : List (List Char) → List Lexeme
  | [] => []
  | [part] => [.ofWord part]
  | part :: next :: parts => .ofWord part :: .ofSymbol '.' :: pathTokens (next :: parts)

mutual

/-- The lexemes of a shape as it is written. -/
def tokens : TypeShape → List Lexeme
  | primitive name | named name => [.ofWord name.toList]
  | qualified text | other text => lexemes text.toList
  | generic base args =>
    .ofWord base.toList :: .ofSymbol '<' :: (tokensOfAll args ++ [.ofSymbol '>'])
  | array element => element.tokens ++ [.ofSymbol '[', .ofSymbol ']']
  | nullable inner => inner.tokens ++ [.ofSymbol '?']

/-- The lexemes of shapes with commas between them. -/
def tokensOfAll : List TypeShape → List Lexeme
  | [] => []
  | [shape] => shape.tokens
  | shape :: next :: shapes =>
    shape.tokens ++ .ofSymbol ',' :: ⟨.blank, [' ']⟩ :: tokensOfAll (next :: shapes)

end

/-- Type arguments as they are written between their brackets. -/
def argumentsText (args : List TypeShape) : List Char :=
  List.intercalate [',', ' '] (args.map fun arg => arg.display.toList)

theorem argumentsText_singleton (arg : TypeShape) : argumentsText [arg] = arg.display.toList := by
  simp [argumentsText]

theorem argumentsText_cons_cons (arg next : TypeShape) (more : List TypeShape) :
    argumentsText (arg :: next :: more) =
      arg.display.toList ++ ',' :: ' ' :: argumentsText (next :: more) := by
  simp [argumentsText, List.intercalate_cons_cons]

theorem display_generic (base : String) (args : List TypeShape) :
    (generic base args).display.toList = base.toList ++ '<' :: (argumentsText args ++ ['>']) := by
  rw [display, displayAll_eq_map]
  simp [argumentsText, String.toList_intercalate, List.map_map, Function.comp_def]

theorem keywordTypes_plain : ∀ name ∈ keywordTypes, isPlainWord name.toList = true := by
  decide

/-- A written shape starts with an identifier. -/
theorem Regular.exists_start {shape : TypeShape} (h : Regular shape) :
    ∃ c cs, shape.display.toList = c :: cs ∧ isIdentifierStart c = true := by
  have hword {word : List Char} (hw : isPlainWord word = true) (behind : List Char) :
      ∃ c cs, word ++ behind = c :: cs ∧ isIdentifierStart c = true := by
    obtain ⟨c, cs, rfl, hc, -⟩ := exists_of_isPlainWord hw
    exact ⟨c, cs ++ behind, rfl, hc⟩
  induction h with
  | primitive h => simpa [display] using hword (keywordTypes_plain _ h) []
  | named h => simpa [display] using hword h.isWord []
  | @qualified parts h hlen =>
    obtain ⟨part, more, rfl⟩ := List.exists_cons_of_length_pos (Nat.lt_of_lt_of_le Nat.two_pos hlen)
    have hpart := h part (by simp)
    cases more with
    | nil => simpa [display, String.toList_intercalate] using hword hpart.isWord []
    | cons next more =>
      rw [display, String.toList_intercalate, List.map_cons, List.map_cons,
        List.intercalate_cons_cons, List.append_assoc]
      exact hword hpart.isWord _
  | generic h =>
    rw [display_generic]
    exact hword h.isWord _
  | array _ ih =>
    obtain ⟨c, cs, hcs, hc⟩ := ih
    exact ⟨c, cs ++ "[]".toList, by rw [display, String.toList_append, hcs]; rfl, hc⟩
  | nullable _ _ ih =>
    obtain ⟨c, cs, hcs, hc⟩ := ih
    exact ⟨c, cs ++ "?".toList, by rw [display, String.toList_append, hcs]; rfl, hc⟩

/-- What may stand behind a written shape: a space or a symbol that ends a name, but no
second question mark. -/
def Border (shape : TypeShape) (rest : List Char) : Prop :=
  ∀ d ∈ rest.head?, d ∈ [',', '>', '[', '?', ' '] ∧ (d = '?' → ∀ inner, shape ≠ .nullable inner)

theorem Border.not_part {shape : TypeShape} {rest : List Char} (h : Border shape rest) :
    ∀ d ∈ rest.head?, isIdentifierPart d = false := by
  intro d hd
  have hmem := (h d hd).1
  simp only [List.mem_cons, List.not_mem_nil, or_false] at hmem
  rcases hmem with rfl | rfl | rfl | rfl | rfl <;> decide

theorem lexemes_path {parts : List (List Char)} (h : ∀ part ∈ parts, isPlainWord part = true)
    (hne : parts ≠ []) {rest : List Char} (hrest : ∀ d ∈ rest.head?, isIdentifierPart d = false) :
    lexemes (List.intercalate ['.'] parts ++ rest) = pathTokens parts ++ lexemes rest := by
  induction parts with
  | nil => exact absurd rfl hne
  | cons part parts ih =>
    have hpart := h part (by simp)
    cases parts with
    | nil => simpa [pathTokens] using lexemes_word hpart hrest
    | cons next more =>
      have hmore := ih (fun p hp => h p (List.mem_cons_of_mem part hp)) (by simp)
      rw [List.intercalate_cons_cons, List.append_assoc, List.append_assoc, List.singleton_append,
        lexemes_word hpart (by simp; decide), lexemes_symbol (by decide) (by simp [longSymbols]),
        hmore]
      rfl

theorem isPlainWord_of_mem {parts : List String} (h : ∀ part ∈ parts, IsName part) :
    ∀ part ∈ parts.map String.toList, isPlainWord part = true := by
  simp only [List.mem_map]
  rintro - ⟨part, hpart, rfl⟩
  exact (h part hpart).isWord

theorem tokens_qualified {parts : List String} (h : ∀ part ∈ parts, IsName part)
    (hne : parts ≠ []) :
    (qualified (".".intercalate parts)).tokens = pathTokens (parts.map String.toList) := by
  have hpath := lexemes_path (isPlainWord_of_mem h) (mt List.map_eq_nil_iff.1 hne)
    (show ∀ d ∈ ([] : List Char).head?, isIdentifierPart d = false by simp)
  rw [tokens, String.toList_intercalate]
  simpa [lexemes] using hpath

theorem exists_start_arguments {args : List TypeShape} (hargs : ∀ arg ∈ args, Regular arg)
    (hne : args ≠ []) (rest : List Char) :
    ∃ c cs, argumentsText args ++ rest = c :: cs ∧ isIdentifierStart c = true := by
  cases args with
  | nil => exact absurd rfl hne
  | cons arg args =>
    obtain ⟨c, cs, hcs, hc⟩ := (hargs arg (by simp)).exists_start
    cases args with
    | nil => exact ⟨c, cs ++ rest, by rw [argumentsText_singleton, hcs]; rfl, hc⟩
    | cons next more =>
      rw [argumentsText_cons_cons, hcs]
      exact ⟨c, _, rfl, hc⟩

theorem lexemes_arguments {args : List TypeShape} (hargs : ∀ arg ∈ args, Regular arg)
    (hne : args ≠ []) (h : ∀ arg ∈ args, ∀ rest, Border arg rest →
      lexemes (arg.display.toList ++ rest) = arg.tokens ++ lexemes rest) (rest : List Char) :
    lexemes (argumentsText args ++ '>' :: rest) = tokensOfAll args ++ lexemes ('>' :: rest) := by
  induction args with
  | nil => exact absurd rfl hne
  | cons arg args ih =>
    cases args with
    | nil =>
      have hborder : Border arg ('>' :: rest) := by simp [Border]
      rw [argumentsText_singleton]
      exact h arg (by simp) _ hborder
    | cons next more =>
      have hregular : ∀ a ∈ next :: more, Regular a :=
        fun a ha => hargs a (List.mem_cons_of_mem arg ha)
      have hmore := ih hregular (by simp) fun a ha => h a (List.mem_cons_of_mem arg ha)
      obtain ⟨c, cs, hcs, hc⟩ := exists_start_arguments hregular (by simp) ('>' :: rest)
      have hblank : ∀ d ∈ (c :: cs).head?, isSourceBlank d = false := by
        simpa using isSourceBlank_of_identifier (.inl hc)
      have hborder : Border arg (',' :: ' ' :: c :: cs) := by simp [Border]
      rw [hcs] at hmore
      rw [argumentsText_cons_cons, List.append_assoc, List.cons_append, List.cons_append, hcs]
      calc lexemes (arg.display.toList ++ ',' :: ' ' :: c :: cs)
          = arg.tokens ++ lexemes (',' :: ' ' :: c :: cs) := h arg (by simp) _ hborder
        _ = arg.tokens ++ .ofSymbol ',' :: lexemes (' ' :: c :: cs) := by
            rw [lexemes_symbol (by decide) (by simp [longSymbols])]
        _ = arg.tokens ++ .ofSymbol ',' :: ⟨.blank, [' ']⟩ :: lexemes (c :: cs) := by
            rw [lexemes_space hblank]
        _ = tokensOfAll (arg :: next :: more) ++ lexemes ('>' :: rest) := by
            rw [hmore]
            simp [tokensOfAll]

/-- The lexemes of a written shape in front of any text that does not carry it on. -/
theorem lexemes_display {shape : TypeShape} (h : Regular shape) (rest : List Char)
    (hrest : Border shape rest) :
    lexemes (shape.display.toList ++ rest) = shape.tokens ++ lexemes rest := by
  induction h generalizing rest with
  | primitive h => exact lexemes_word (keywordTypes_plain _ h) hrest.not_part
  | named h => exact lexemes_word h.isWord hrest.not_part
  | @qualified parts h hlen =>
    have hne : parts ≠ [] := List.ne_nil_of_length_pos (by omega)
    rw [tokens_qualified h hne, display, String.toList_intercalate]
    exact lexemes_path (isPlainWord_of_mem h) (mt List.map_eq_nil_iff.1 hne) hrest.not_part
  | @generic base args h hargs hne ih =>
    obtain ⟨c, cs, hcs, hc⟩ := exists_start_arguments hargs hne ('>' :: rest)
    have hangle : ∀ d ∈ (c :: cs).head?, ('<', d) ∉ longSymbols := by
      rintro d ⟨⟩ hlong
      have hequals : c = '=' := by simpa [longSymbols] using hlong
      rw [hequals] at hc
      cases hc
    have hclose : ∀ d ∈ rest.head?, ('>', d) ∉ longSymbols := by
      intro d hd hlong
      have hequals : d = '=' := by simpa [longSymbols] using hlong
      exact absurd (hrest d hd).1 (by rw [hequals]; decide)
    have hmore := lexemes_arguments hargs hne ih rest
    rw [display_generic, List.append_assoc, List.cons_append, List.append_assoc,
      List.singleton_append, lexemes_word h.isWord (by simp; decide), hcs,
      lexemes_symbol (by decide) hangle, ← hcs, hmore, lexemes_symbol (by decide) hclose, tokens]
    simp
  | @array element h ih =>
    have hborder : Border element ('[' :: ']' :: rest) := by simp [Border]
    have hclose : ∀ d ∈ rest.head?, (']', d) ∉ longSymbols := by simp [longSymbols]
    rw [display, String.toList_append, List.append_assoc, tokens, List.append_assoc]
    calc lexemes (element.display.toList ++ '[' :: ']' :: rest)
        = element.tokens ++ lexemes ('[' :: ']' :: rest) := ih _ hborder
      _ = element.tokens ++ .ofSymbol '[' :: .ofSymbol ']' :: lexemes rest := by
          rw [lexemes_symbol (by decide) (by simp [longSymbols]),
            lexemes_symbol (by decide) hclose]
  | @nullable inner h hnot ih =>
    have hborder : Border inner ('?' :: rest) := by simpa [Border] using hnot
    have hmark : ∀ d ∈ rest.head?, ('?', d) ∉ longSymbols := by
      intro d hd hlong
      have hd' : d = '?' := by simpa [longSymbols] using hlong
      exact (hrest d hd).2 hd' inner rfl
    rw [display, String.toList_append, List.append_assoc, tokens, List.append_assoc]
    calc lexemes (inner.display.toList ++ '?' :: rest)
        = inner.tokens ++ lexemes ('?' :: rest) := ih _ hborder
      _ = inner.tokens ++ .ofSymbol '?' :: lexemes rest := by
          rw [lexemes_symbol (by decide) hmark]

theorem Regular.text_tokens {shape : TypeShape} (h : Regular shape) :
    lexemesText shape.tokens = shape.display.toList := by
  have hlexemes : lexemes shape.display.toList = shape.tokens := by
    simpa [lexemes] using lexemes_display h [] (by simp [Border])
  rw [← hlexemes, text_lexemes]

/-! ## Blanks -/

theorem isBlank_of_isSourceBlank {c : Char} (h : isSourceBlank c = false) : isBlank c = false := by
  rw [isSourceBlank, Bool.or_eq_false_iff] at h
  exact h.1

theorem spaced_word {word : List Char} (h : isPlainWord word = true) : Spaced word := by
  refine .word ?_ fun c hc => ?_
  · rintro rfl
    cases h
  · exact isBlank_of_isSourceBlank (isSourceBlank_of_mem h hc)

theorem spaced_symbol {c : Char} (hc : c ∈ typeSymbols) : Spaced [c] :=
  .word (by simp) (by simpa using isBlank_of_isSourceBlank (plain_of_mem_typeSymbols hc).1)

theorem spaced_path {parts : List (List Char)} (h : ∀ part ∈ parts, isPlainWord part = true)
    (hne : parts ≠ []) : Spaced (List.intercalate ['.'] parts) := by
  induction parts with
  | nil => exact absurd rfl hne
  | cons part parts ih =>
    have hpart := spaced_word (h part (by simp))
    cases parts with
    | nil => simpa using hpart
    | cons next more =>
      rw [List.intercalate_cons_cons]
      exact (hpart.append (spaced_symbol (by decide))).append
        (ih (fun p hp => h p (List.mem_cons_of_mem part hp)) (by simp))

theorem spaced_arguments {args : List TypeShape} (hne : args ≠ [])
    (h : ∀ arg ∈ args, Spaced arg.display.toList) : Spaced (argumentsText args) := by
  induction args with
  | nil => exact absurd rfl hne
  | cons arg args ih =>
    have harg := h arg (by simp)
    cases args with
    | nil => simpa [argumentsText] using harg
    | cons next more =>
      have hcomma := harg.append (spaced_symbol (show ',' ∈ typeSymbols by decide))
      have hmore := ih (by simp) fun a ha => h a (List.mem_cons_of_mem arg ha)
      rw [argumentsText_cons_cons]
      simpa using hcomma.append_space hmore

theorem Regular.spaced {shape : TypeShape} (h : Regular shape) : Spaced shape.display.toList := by
  induction h with
  | primitive h => exact spaced_word (keywordTypes_plain _ h)
  | named h => exact spaced_word h.isWord
  | qualified h hlen =>
    have hne := List.ne_nil_of_length_pos (Nat.lt_of_lt_of_le Nat.two_pos hlen)
    rw [display, String.toList_intercalate]
    exact spaced_path (isPlainWord_of_mem h) (mt List.map_eq_nil_iff.1 hne)
  | generic h _ hne ih =>
    have hopen := (spaced_word h.isWord).append (spaced_symbol (show '<' ∈ typeSymbols by decide))
    have hclose :=
      (spaced_arguments hne ih).append (spaced_symbol (show '>' ∈ typeSymbols by decide))
    rw [display_generic]
    simpa using hopen.append hclose
  | array _ ih =>
    rw [display, String.toList_append]
    exact ih.append ((spaced_symbol (show '[' ∈ typeSymbols by decide)).append
      (spaced_symbol (show ']' ∈ typeSymbols by decide)))
  | nullable _ _ ih =>
    rw [display, String.toList_append]
    exact ih.append (spaced_symbol (show '?' ∈ typeSymbols by decide))

end Gloss.TypeShape
