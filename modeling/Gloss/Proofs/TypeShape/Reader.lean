import Gloss.Proofs.TypeShape.Grammar

/-!
# Reading the lexemes of written types

The lexemes of a regular shape are read to a node by the grammar that has the shape
(`ReadAs`).

The marks behind a type are read in a loop of their own, so the induction is on a
shape in front of any lexemes that end a name: a type without marks is read first,
and the marks that follow it lead to the shape (`Reads`). Lexemes that carry no
mark then close the type (`Reads.typeFrom`).
-/

namespace Gloss.TypeShape

open Gloss.Source Gloss.Text

/-! ## Lexemes behind a type -/

/-- Whether some lexemes end the name in front of them. -/
def Stops (rest : List Lexeme) : Prop :=
  ∀ l ∈ (significant rest).head?, l.kind = .word ∨ l ∈ [',', '>', '[', '?'].map Lexeme.ofSymbol

/-- Whether some lexemes end the type in front of them. -/
def Closes (rest : List Lexeme) : Prop :=
  ∀ l ∈ (significant rest).head?, l.kind = .word ∨ l ∈ [',', '>'].map Lexeme.ofSymbol

theorem Closes.stops {rest : List Lexeme} (h : Closes rest) : Stops rest := by
  have hall : ∀ l ∈ [',', '>'].map Lexeme.ofSymbol,
      l ∈ [',', '>', '[', '?'].map Lexeme.ofSymbol := by decide
  exact fun l hl => (h l hl).imp_right (hall l)

theorem isSymbol_of_isWord {l : Lexeme} (h : l.kind = .word) (symbol : String) :
    l.isSymbol symbol = false := by
  simp [Lexeme.isSymbol, h]

theorem Stops.behindSymbol? {rest : List Lexeme} (h : Stops rest) {symbol : String}
    (hs : symbol ∈ ["<", ".", "::"]) : behindSymbol? symbol rest = none := by
  rw [TypeShape.behindSymbol?]
  cases hrest : significant rest with
  | nil => rfl
  | cons l more =>
    have hall : ∀ l ∈ [',', '>', '[', '?'].map Lexeme.ofSymbol,
        ∀ symbol ∈ ["<", ".", "::"], l.isSymbol symbol = false := by decide
    have hsymbol : l.isSymbol symbol = false := by
      rcases h l (by simp [hrest]) with hl | hl
      · exact isSymbol_of_isWord hl symbol
      · exact hall l hl symbol hs
    simp only [hsymbol]
    rfl

theorem argumentsFrom_of_absent {rest : List Lexeme} (h : behindSymbol? "<" rest = none)
    (fuel : Nat) : argumentsFrom (fuel + 1) rest = some (none, rest) := by
  rw [argumentsFrom, h]

theorem qualifiersFrom_of_absent {rest : List Lexeme} (h : behindSymbol? "." rest = none)
    (fuel : Nat) (node : SyntaxNode) :
    qualifiersFrom (fuel + 1) node rest = some (node, rest) := by
  rw [qualifiersFrom, h]

theorem between_append (ls rest : List Lexeme) : between (ls ++ rest) rest = lexemesText ls := by
  rw [between, List.length_append, Nat.add_sub_cancel, List.take_left]

/-! ## Marks -/

theorem marksFrom_array (fuel : Nat) (node : SyntaxNode) (rest : List Lexeme) :
    marksFrom (fuel + 1) node (.ofSymbol '[' :: .ofSymbol ']' :: rest) =
      marksFrom fuel (markedNode .arrayType ['[', ']'] node) rest := by
  have htext : between (.ofSymbol '[' :: .ofSymbol ']' :: rest) rest = ['[', ']'] :=
    between_append [.ofSymbol '[', .ofSymbol ']'] rest
  rw [← htext]
  rfl

theorem marksFrom_nullable {node : SyntaxNode} (h : node.kind ≠ .nullableType) (fuel : Nat)
    (rest : List Lexeme) :
    marksFrom (fuel + 1) node (.ofSymbol '?' :: rest) =
      marksFrom fuel (markedNode .nullableType ['?'] node) rest := by
  have htext : between (.ofSymbol '?' :: rest) rest = ['?'] := between_append [.ofSymbol '?'] rest
  have hstart : significant (.ofSymbol '?' :: rest) = .ofSymbol '?' :: rest := rfl
  have hmark : ((Lexeme.ofSymbol '?').isSymbol "?" && node.kind != .nullableType) = true := by
    simpa using ⟨by decide, h⟩
  rw [marksFrom, hstart]
  simp only [hmark, htext]
  rfl

theorem Closes.marksFrom {rest : List Lexeme} (h : Closes rest) (fuel : Nat)
    (node : SyntaxNode) : marksFrom fuel node rest = (node, rest) := by
  cases fuel with
  | zero => rfl
  | succ fuel =>
    rw [TypeShape.marksFrom]
    cases hrest : significant rest with
    | nil => rfl
    | cons l more =>
      have hall : ∀ l ∈ [',', '>'].map Lexeme.ofSymbol,
          ∀ symbol ∈ ["[", "*", "?"], l.isSymbol symbol = false := by decide
      have hsymbol : ∀ symbol ∈ ["[", "*", "?"], l.isSymbol symbol = false := by
        rcases h l (by simp [hrest]) with hl | hl
        · exact fun symbol _ => isSymbol_of_isWord hl symbol
        · exact hall l hl
      simp [hsymbol]

/-! ## Nodes -/

/-- A node that is read for a shape. -/
structure ReadAs (shape : TypeShape) (node : SyntaxNode) : Prop where
  isType : IsType node
  shape_eq : node.shape = shape
  isNamed : node.isNamed = true
  hasError : node.hasError = false

theorem ReadAs.spells {shape : TypeShape} {node : SyntaxNode} (h : ReadAs shape node) :
    Spells shape node := by
  rw [← h.shape_eq]
  exact h.isType.spells

theorem ReadAs.withField {shape : TypeShape} {node : SyntaxNode} (h : ReadAs shape node)
    (field : Option SyntaxField) : ReadAs shape { node with field := field } :=
  ⟨h.isType.withField field, (node.shape_withField field).trans h.shape_eq, h.isNamed,
    h.hasError⟩

theorem readAs_keyword {name : String} (h : name ∈ keywordTypes) (hvoid : name ≠ "void")
    {kind : SyntaxKind} (hkind : kind ∈ [.predefinedType, .identifier]) :
    ReadAs (.primitive name) (plainNode kind name.toList) :=
  ⟨.keyword hkind h hvoid rfl, (spells_keyword h hvoid rfl).shape_eq, rfl, rfl⟩

theorem readAs_name {name : String} (h : IsName name) :
    ReadAs (.named name) (plainNode .identifier name.toList) :=
  ⟨.name rfl h rfl, (spells_name rfl h rfl).shape_eq, rfl, rfl⟩

theorem readAs_qualified {parts : List String} (h : ∀ part ∈ parts, IsName part)
    (hlen : 2 ≤ parts.length) :
    ReadAs (.qualified (".".intercalate parts))
      (plainNode .qualifiedName (".".intercalate parts).toList) :=
  ⟨.qualified rfl h hlen rfl, (spells_qualified rfl h hlen rfl).shape_eq, rfl, rfl⟩

theorem ReadAs.array {shape : TypeShape} {node : SyntaxNode} (h : ReadAs shape node) :
    ReadAs (.array shape) (markedNode .arrayType ['[', ']'] node) :=
  have h' := h.withField (some .type)
  ⟨.array rfl rfl h'.isType rfl, (spells_array rfl rfl h'.spells rfl).shape_eq, rfl, rfl⟩

theorem ReadAs.nullable {shape : TypeShape} {node : SyntaxNode} (h : ReadAs shape node)
    (hnot : node.kind ≠ .nullableType) :
    ReadAs (.nullable shape) (markedNode .nullableType ['?'] node) :=
  have h' := h.withField (some .type)
  ⟨.nullable rfl rfl h'.isType hnot rfl, (spells_nullable rfl rfl h'.spells hnot rfl).shape_eq, rfl,
    rfl⟩

/-- The nodes that are read for some shapes. -/
def AllReadAs (shapes : List TypeShape) (nodes : List SyntaxNode) : Prop :=
  nodes.map SyntaxNode.shape = shapes ∧ ∀ node ∈ nodes, ReadAs node.shape node

theorem arguments_genericNode {nodes : List SyntaxNode}
    (h : ∀ node ∈ nodes, ReadAs node.shape node) (name text list : List Char) :
    (genericNode name text { plainNode .typeArgumentList list with children := nodes }).arguments =
      nodes := by
  have hlisted : nodes.filter (fun child => child.isNamed && child.kind != .comment) = nodes := by
    rw [List.filter_eq_self]
    intro node hnode
    simpa using ⟨(h node hnode).isNamed, (h node hnode).isType.kind_ne_comment⟩
  exact hlisted

theorem readAs_generic {base : String} {args : List TypeShape} {nodes : List SyntaxNode}
    (h : IsName base) (hnodes : AllReadAs args nodes) (hne : args ≠ []) (list : List Char) :
    ReadAs (.generic base args)
      (genericNode base.toList (TypeShape.generic base args).display.toList
        { plainNode .typeArgumentList list with children := nodes }) := by
  obtain ⟨rfl, hnodes⟩ := hnodes
  have hspells : ∀ node ∈ nodes, Spells node.shape node := fun node hn => (hnodes node hn).spells
  have harguments := arguments_genericNode hnodes base.toList
    (TypeShape.generic base (nodes.map SyntaxNode.shape)).display.toList list
  generalize hnode : genericNode base.toList _ _ = node at harguments ⊢
  have hkind : node.kind = .genericName := hnode ▸ rfl
  have hname : node.name? = some (plainNode .identifier base.toList) := hnode ▸ rfl
  have htext : node.text = base.toList ++ '<' ::
      (List.intercalate [',', ' '] (nodes.map SyntaxNode.text) ++ ['>']) := by
    rw [← argumentsText_map hspells, ← display_generic, ← hnode]
    rfl
  have hne' : nodes ≠ [] := mt List.map_eq_nil_iff.2 hne
  rw [← harguments] at hnodes hspells htext hne' ⊢
  exact ⟨.generic hkind hname h rfl (fun arg harg => (hnodes arg harg).isType) hne' htext,
    (spells_generic hkind hname h rfl hspells hne' htext).shape_eq, hnode ▸ rfl, hnode ▸ rfl⟩

/-! ## Names -/

theorem isWord_ofWord {name word : String} (h : name ≠ word) :
    (Lexeme.ofWord name.toList).isWord word = false := by
  simpa [Lexeme.ofWord, Lexeme.isWord, String.toList_inj] using h

theorem ne_of_not_reserved {name : String} (h : name ∉ reservedWords) :
    name ≠ "ref" ∧ name ≠ "delegate" := by
  constructor
  · rintro rfl
    exact h (by decide)
  · rintro rfl
    exact h (by decide)

/-- A name with the type arguments behind it, if there are any. -/
theorem baseFrom_identifier {name : String} {rest behind : List Lexeme}
    {args : Option SyntaxNode} {fuel : Nat}
    (hkey : isKeywordType (.ofWord name.toList) = false) (hname : name ∉ reservedWords)
    (hrest : behindSymbol? "::" rest = none)
    (hargs : argumentsFrom fuel rest = some (args, behind)) :
    baseFrom (fuel + 1) (.ofWord name.toList :: rest) =
      qualifiersFrom fuel
        (args.elim (nameNode name.toList)
          (genericNode name.toList (between (.ofWord name.toList :: rest) behind)))
        behind := by
  obtain ⟨href, hdelegate⟩ := ne_of_not_reserved hname
  have hparen : (Lexeme.ofWord name.toList).isSymbol "(" = false := rfl
  have hid : isIdentifier (.ofWord name.toList) = true := by
    rw [isIdentifier, hkey]
    simpa [Lexeme.ofWord] using hname
  rw [baseFrom, hparen, isWord_ofWord href, isWord_ofWord hdelegate, hkey, hid, hrest, hargs]
  cases args <;> rfl

theorem baseFrom_keyword {name : String} (hkey : isKeywordType (.ofWord name.toList) = true)
    (hname : name ∉ reservedWords) (fuel : Nat) (rest : List Lexeme) :
    baseFrom (fuel + 1) (.ofWord name.toList :: rest) =
      some (plainNode .predefinedType name.toList, rest) := by
  obtain ⟨href, hdelegate⟩ := ne_of_not_reserved hname
  have hparen : (Lexeme.ofWord name.toList).isSymbol "(" = false := rfl
  rw [baseFrom, hparen, isWord_ofWord href, isWord_ofWord hdelegate, hkey]
  rfl

theorem nameNode_eq {name : String} (h : name ≠ "var") :
    nameNode name.toList = plainNode .identifier name.toList := by
  simp [nameNode, plainNode, h]

/-- A name alone. -/
theorem baseFrom_word {name : String} {rest : List Lexeme}
    (hkey : isKeywordType (.ofWord name.toList) = false) (hname : name ∉ reservedWords)
    (hvar : name ≠ "var") (hrest : Stops rest) (fuel : Nat) :
    baseFrom (fuel + 2) (.ofWord name.toList :: rest) =
      some (plainNode .identifier name.toList, rest) := by
  have hargs := argumentsFrom_of_absent (hrest.behindSymbol? (by decide)) fuel
  rw [baseFrom_identifier hkey hname (hrest.behindSymbol? (by decide)) hargs, Option.elim_none,
    qualifiersFrom_of_absent (hrest.behindSymbol? (by decide)), nameNode_eq hvar]

theorem IsName.isKeywordType {name : String} (h : IsName name) :
    isKeywordType (.ofWord name.toList) = false := by
  simp [TypeShape.isKeywordType, Lexeme.ofWord, h.not_mem.1]

/-! ## Qualified names -/

theorem identifier?_ofWord {name : String} (h : name ∉ memberWords) (rest : List Lexeme) :
    identifier? (.ofWord name.toList :: rest) = some (name.toList, rest) := by
  have hnone : memberWords.any (Lexeme.ofWord name.toList).isWord = false := by
    rw [List.any_eq_false]
    intro word hword
    rw [isWord_ofWord (by rintro rfl; exact h hword)]
    simp
  have hstart : significant (.ofWord name.toList :: rest) = .ofWord name.toList :: rest := rfl
  rw [identifier?, hstart]
  simp only [hnone]
  rfl

/-- Names with points between them are read up to the last one. -/
theorem qualifiersFrom_path {parts : List String} (h : ∀ part ∈ parts, IsName part)
    (hne : parts ≠ []) {rest : List Lexeme} (hrest : Stops rest) {fuel : Nat}
    (hfuel : parts.length < fuel) (node : SyntaxNode) :
    qualifiersFrom fuel node (.ofSymbol '.' :: (pathTokens (parts.map String.toList) ++ rest)) =
      some (plainNode .qualifiedName
        (node.text ++ '.' :: List.intercalate ['.'] (parts.map String.toList)), rest) := by
  induction parts generalizing fuel node with
  | nil => exact absurd rfl hne
  | cons part parts ih =>
    obtain ⟨n, rfl⟩ : ∃ n, fuel = n + 2 := Nat.exists_eq_add_of_le' (by simp at hfuel; omega)
    have hpart := h part (by simp)
    have hpoint (ls : List Lexeme) : behindSymbol? "." (.ofSymbol '.' :: ls) = some ls := rfl
    have hidentifier := identifier?_ofWord hpart.not_mem.2.2.1
    have htext (ls : List Lexeme) :
        between (.ofSymbol '.' :: .ofWord part.toList :: ls) ls = '.' :: part.toList := by
      simpa [lexemesText, Lexeme.ofSymbol, Lexeme.ofWord] using
        between_append [.ofSymbol '.', .ofWord part.toList] ls
    rw [qualifiersFrom, hpoint]
    cases parts with
    | nil =>
      have hargs := argumentsFrom_of_absent (hrest.behindSymbol? (by decide)) n
      have hend := qualifiersFrom_of_absent (hrest.behindSymbol? (by decide)) n
      simp [pathTokens, hidentifier, hargs, hend, htext]
    | cons next more =>
      have hargs (ls : List Lexeme) :
          argumentsFrom (n + 1) (.ofSymbol '.' :: ls) = some (none, .ofSymbol '.' :: ls) := rfl
      have hlen : (next :: more).length < n + 1 := by
        simp only [List.length_cons] at hfuel ⊢
        omega
      have hmore := ih (fun p hp => h p (List.mem_cons_of_mem part hp)) (by simp) hlen
      rw [List.map_cons] at hmore
      simp [pathTokens, hidentifier, hargs, hmore, htext, plainNode]

/-! ## Types without marks -/

/-- The fuel that reading a shape takes in front of its marks. -/
def Enough (shape : TypeShape) (fuel : Nat) : Prop :=
  4 * shape.tokens.length ≤ fuel + 2

theorem baseFrom_primitive {name : String} (h : name ∈ keywordTypes) (hvoid : name ≠ "void")
    {rest : List Lexeme} (hrest : Stops rest) {fuel : Nat}
    (hfuel : Enough (.primitive name) fuel) :
    ∃ node, ReadAs (.primitive name) node ∧
      baseFrom fuel ((primitive name).tokens ++ rest) = some (node, rest) := by
  have hall : ∀ name ∈ keywordTypes, name ∉ reservedWords ∧ name ≠ "var" := by decide
  obtain ⟨hname, hvar⟩ := hall name h
  obtain ⟨n, rfl⟩ : ∃ n, fuel = n + 2 :=
    Nat.exists_eq_add_of_le' (by simpa [Enough, tokens] using hfuel)
  rw [tokens, List.singleton_append]
  -- The words that are names elsewhere are read as names.
  cases hkey : isKeywordType (.ofWord name.toList) with
  | true =>
    exact ⟨_, readAs_keyword h hvoid (by decide), baseFrom_keyword hkey hname (n + 1) rest⟩
  | false =>
    exact ⟨_, readAs_keyword h hvoid (by decide), baseFrom_word hkey hname hvar hrest n⟩

theorem baseFrom_named {name : String} (h : IsName name) {rest : List Lexeme}
    (hrest : Stops rest) {fuel : Nat} (hfuel : Enough (.named name) fuel) :
    baseFrom fuel ((named name).tokens ++ rest) =
      some (plainNode .identifier name.toList, rest) := by
  obtain ⟨-, hname, -, hvar⟩ := h.not_mem
  obtain ⟨n, rfl⟩ : ∃ n, fuel = n + 2 :=
    Nat.exists_eq_add_of_le' (by simpa [Enough, tokens] using hfuel)
  rw [tokens, List.singleton_append, baseFrom_word h.isKeywordType hname hvar hrest n]

theorem length_le_pathTokens (parts : List (List Char)) :
    parts.length ≤ (pathTokens parts).length := by
  fun_induction pathTokens parts with
  | case1 => simp
  | case2 part => simp
  | case3 part next parts ih =>
    simp only [List.length_cons] at ih ⊢
    omega

theorem baseFrom_qualified {parts : List String} (h : ∀ part ∈ parts, IsName part)
    (hlen : 2 ≤ parts.length) {rest : List Lexeme} (hrest : Stops rest) {fuel : Nat}
    (hfuel : Enough (.qualified (".".intercalate parts)) fuel) :
    baseFrom fuel ((qualified (".".intercalate parts)).tokens ++ rest) =
      some (plainNode .qualifiedName (".".intercalate parts).toList, rest) := by
  match parts, hlen with
  | first :: next :: more, _ =>
    have hfirst := h first (by simp)
    have hnext : ∀ part ∈ next :: more, IsName part :=
      fun part hpart => h part (List.mem_cons_of_mem first hpart)
    have htokens := tokens_qualified h (by simp)
    have hcount := length_le_pathTokens ((first :: next :: more).map String.toList)
    rw [Enough, htokens] at hfuel
    simp only [List.length_map, List.length_cons] at hcount
    obtain ⟨n, rfl⟩ : ∃ n, fuel = n + 2 := Nat.exists_eq_add_of_le' (by omega)
    have hpoint (ls : List Lexeme) : argumentsFrom (n + 1) (.ofSymbol '.' :: ls) =
        some (none, .ofSymbol '.' :: ls) := rfl
    have hpath := qualifiersFrom_path hnext (by simp) hrest
      (show (next :: more).length < n + 1 by simp only [List.length_cons]; omega)
      (nameNode first.toList)
    have htext : (".".intercalate (first :: next :: more)).toList =
        first.toList ++ '.' :: List.intercalate ['.'] ((next :: more).map String.toList) := by
      simp [String.toList_intercalate]
    rw [htokens, htext]
    exact (baseFrom_identifier hfirst.isKeywordType hfirst.not_mem.2.1 rfl (hpoint _)).trans hpath

/-! ## Whole types -/

/-- A shape is read in front of any lexemes that end a name: first a type without
marks, then the marks that lead to a node for the shape. -/
def Reads (shape : TypeShape) : Prop :=
  ∀ fuel rest, Enough shape fuel → Stops rest →
    ∃ core behind marks node, baseFrom fuel (shape.tokens ++ rest) = some (core, behind) ∧
      marks + rest.length ≤ behind.length ∧ ReadAs shape node ∧
      ∀ more, marksFrom (more + marks) core behind = marksFrom more node rest

theorem reads_of_baseFrom {shape : TypeShape} (h : ∀ fuel rest, Enough shape fuel → Stops rest →
    ∃ node, ReadAs shape node ∧ baseFrom fuel (shape.tokens ++ rest) = some (node, rest)) :
    Reads shape := by
  intro fuel rest hfuel hrest
  obtain ⟨node, hnode, hbase⟩ := h fuel rest hfuel hrest
  exact ⟨node, rest, 0, node, hbase, by omega, hnode, fun _ => rfl⟩

/-- A regular shape starts with a name. -/
theorem Regular.exists_word {shape : TypeShape} (h : Regular shape) :
    ∃ word ls, shape.tokens = .ofWord word :: ls := by
  induction h with
  | primitive h => exact ⟨_, [], rfl⟩
  | named h => exact ⟨_, [], rfl⟩
  | @qualified parts h hlen =>
    match parts, hlen with
    | first :: next :: more, _ => exact ⟨_, _, tokens_qualified h (by simp)⟩
  | generic h => exact ⟨_, _, rfl⟩
  | array _ ih =>
    obtain ⟨word, ls, hls⟩ := ih
    exact ⟨word, ls ++ _, by rw [tokens, hls]; rfl⟩
  | nullable _ _ ih =>
    obtain ⟨word, ls, hls⟩ := ih
    exact ⟨word, ls ++ _, by rw [tokens, hls]; rfl⟩

theorem Reads.typeFrom {shape : TypeShape} (h : Reads shape) (hregular : Regular shape)
    {rest : List Lexeme} (hrest : Closes rest) {fuel : Nat}
    (hfuel : 4 * shape.tokens.length ≤ fuel + 1) :
    ∃ node, ReadAs shape node ∧ typeFrom fuel (shape.tokens ++ rest) = some (node, rest) := by
  obtain ⟨word, ls, hls⟩ := hregular.exists_word
  have hstart : significant (shape.tokens ++ rest) = shape.tokens ++ rest := by
    rw [hls]
    rfl
  obtain ⟨n, rfl⟩ : ∃ n, fuel = n + 1 := Nat.exists_eq_add_of_le' (by simp [hls] at hfuel; omega)
  obtain ⟨core, behind, marks, node, hbase, hlen, hnode, hmarks⟩ := h n rest hfuel hrest.stops
  have hsplit : behind.length = behind.length - marks + marks := by omega
  have hall : marksFrom behind.length core behind = (node, rest) := by
    rw [hsplit, hmarks, hrest.marksFrom]
  refine ⟨node, hnode, ?_⟩
  rw [TypeShape.typeFrom, hstart, hbase]
  exact congrArg some hall

/-- A mark behind a shape is one more step of the loop. -/
theorem Reads.mark {inner outer : TypeShape} {mark : List Lexeme} (h : Reads inner)
    (htokens : outer.tokens = inner.tokens ++ mark) (hne : mark ≠ [])
    (hstops : ∀ rest, Stops (mark ++ rest))
    (hstep : ∀ node, ReadAs inner node → ∃ marked, ReadAs outer marked ∧
      ∀ fuel rest, marksFrom (fuel + 1) node (mark ++ rest) = marksFrom fuel marked rest) :
    Reads outer := by
  intro fuel rest hfuel _
  have hpos := List.length_pos_iff.2 hne
  have hfuel' : Enough inner fuel := by
    simp only [Enough, htokens, List.length_append] at hfuel ⊢
    omega
  obtain ⟨core, behind, marks, node, hbase, hlen, hnode, hmarks⟩ := h fuel _ hfuel' (hstops rest)
  obtain ⟨marked, hmarked, hstep⟩ := hstep node hnode
  refine ⟨core, behind, marks + 1, marked, ?_, ?_, hmarked, fun more => ?_⟩
  · rw [htokens, List.append_assoc]
    exact hbase
  · rw [List.length_append] at hlen
    omega
  · rw [show more + (marks + 1) = more + 1 + marks by omega, hmarks, hstep]

theorem Reads.array {element : TypeShape} (h : Reads element) : Reads (.array element) := by
  have htokens : (TypeShape.array element).tokens =
      element.tokens ++ [.ofSymbol '[', .ofSymbol ']'] := by rw [tokens]
  refine h.mark htokens (by simp) ?_ fun node hnode => ⟨_, hnode.array, fun fuel rest => ?_⟩
  · rintro rest l ⟨⟩
    exact .inr (by decide)
  · exact marksFrom_array fuel node rest

theorem Reads.nullable {inner : TypeShape} (h : Reads inner)
    (hnot : ∀ shape, inner ≠ .nullable shape) : Reads (.nullable inner) := by
  have htokens : (TypeShape.nullable inner).tokens = inner.tokens ++ [.ofSymbol '?'] := by
    rw [tokens]
  refine h.mark htokens (by simp) ?_ fun node hnode => ?_
  · rintro rest l ⟨⟩
    exact .inr (by decide)
  · have hkind : node.kind ≠ .nullableType := by
      intro hkind
      obtain ⟨shape, hshape⟩ := hnode.isType.exists_nullable hkind
      exact hnot shape (hnode.shape_eq.symm.trans hshape)
    exact ⟨_, hnode.nullable hkind, marksFrom_nullable hkind⟩

/-! ## Type arguments -/

theorem typeFrom_blank (fuel : Nat) (ls : List Lexeme) :
    typeFrom fuel (⟨.blank, [' ']⟩ :: ls) = typeFrom fuel ls := by
  cases fuel <;> rfl

theorem argumentListFrom_blank (fuel : Nat) (ls : List Lexeme) :
    argumentListFrom fuel (⟨.blank, [' ']⟩ :: ls) = argumentListFrom fuel ls := by
  cases fuel with
  | zero => rfl
  | succ fuel => rw [argumentListFrom, argumentListFrom, typeFrom_blank]

theorem closes_symbol {c : Char} (hc : c ∈ [',', '>']) (rest : List Lexeme) :
    Closes (.ofSymbol c :: rest) := by
  rintro l ⟨⟩
  exact .inr (List.mem_map_of_mem hc)

theorem argumentListFrom_tokens {args : List TypeShape} (h : ∀ arg ∈ args, Reads arg)
    (hregular : ∀ arg ∈ args, Regular arg) (hne : args ≠ []) (rest : List Lexeme) {fuel : Nat}
    (hfuel : 4 * (tokensOfAll args).length ≤ fuel) :
    ∃ nodes, AllReadAs args nodes ∧
      argumentListFrom fuel (tokensOfAll args ++ .ofSymbol '>' :: rest) = some (nodes, rest) := by
  induction args generalizing fuel with
  | nil => exact absurd rfl hne
  | cons arg args ih =>
    have harg {behind : List Lexeme} (hbehind : Closes behind) {n : Nat}
        (hn : 4 * arg.tokens.length ≤ n + 1) :
        ∃ node, ReadAs arg node ∧ typeFrom n (arg.tokens ++ behind) = some (node, behind) :=
      (h arg (by simp)).typeFrom (hregular arg (by simp)) hbehind hn
    obtain ⟨word, ls, hls⟩ := (hregular arg (by simp)).exists_word
    cases args with
    | nil =>
      rw [tokensOfAll] at hfuel ⊢
      obtain ⟨n, rfl⟩ : ∃ n, fuel = n + 1 :=
        Nat.exists_eq_add_of_le' (by simp [hls] at hfuel; omega)
      have hclose : behindSymbol? ">" (.ofSymbol '>' :: rest) = some rest := rfl
      have hcloses := closes_symbol (show '>' ∈ [',', '>'] by decide) rest
      obtain ⟨node, hnode, htype⟩ := harg hcloses hfuel
      refine ⟨[node], ?_, ?_⟩
      · simpa [AllReadAs, hnode.shape_eq] using hnode
      · rw [argumentListFrom, htype]
        simp [hclose]
    | cons next more =>
      simp only [tokensOfAll, List.length_append, List.length_cons] at hfuel
      obtain ⟨n, rfl⟩ : ∃ n, fuel = n + 1 := Nat.exists_eq_add_of_le' (by omega)
      obtain ⟨nodes, hnodes, hmore⟩ := ih (fun a ha => h a (List.mem_cons_of_mem arg ha))
        (fun a ha => hregular a (List.mem_cons_of_mem arg ha)) (by simp)
        (show 4 * (tokensOfAll (next :: more)).length ≤ n by omega)
      rw [← argumentListFrom_blank] at hmore
      generalize hls' : tokensOfAll (next :: more) ++ .ofSymbol '>' :: rest = behind at hmore
      have hclose : behindSymbol? ">" (.ofSymbol ',' :: ⟨.blank, [' ']⟩ :: behind) = none := rfl
      have hcomma : behindSymbol? "," (.ofSymbol ',' :: ⟨.blank, [' ']⟩ :: behind) =
          some (⟨.blank, [' ']⟩ :: behind) := rfl
      have hcloses :=
        closes_symbol (show ',' ∈ [',', '>'] by decide) (⟨.blank, [' ']⟩ :: behind)
      obtain ⟨node, hnode, htype⟩ := harg hcloses (show 4 * arg.tokens.length ≤ n + 1 by omega)
      refine ⟨node :: nodes, ⟨?_, ?_⟩, ?_⟩
      · rw [List.map_cons, hnode.shape_eq, hnodes.1]
      · exact List.forall_mem_cons.2 ⟨hnode.shape_eq.symm ▸ hnode, hnodes.2⟩
      · rw [tokensOfAll, List.append_assoc, List.cons_append, List.cons_append, hls',
          argumentListFrom, htype]
        simp [hclose, hcomma, hmore]

theorem argumentsFrom_tokens {args : List TypeShape} (h : ∀ arg ∈ args, Reads arg)
    (hregular : ∀ arg ∈ args, Regular arg) (hne : args ≠ []) (rest : List Lexeme) {fuel : Nat}
    (hfuel : 4 * (tokensOfAll args).length ≤ fuel) :
    ∃ text nodes, AllReadAs args nodes ∧
      argumentsFrom (fuel + 1) (.ofSymbol '<' :: (tokensOfAll args ++ .ofSymbol '>' :: rest)) =
        some (some { plainNode .typeArgumentList text with children := nodes }, rest) := by
  obtain ⟨nodes, hnodes, hlist⟩ := argumentListFrom_tokens h hregular hne rest hfuel
  -- The first argument is a name, so the brackets are not those of an open type.
  have hbound : unboundArguments (tokensOfAll args ++ .ofSymbol '>' :: rest) = none := by
    match args, hne with
    | arg :: args, _ =>
      obtain ⟨word, ls, hls⟩ := (hregular arg (by simp)).exists_word
      obtain ⟨more, hmore⟩ : ∃ more, tokensOfAll (arg :: args) = .ofWord word :: more := by
        cases args with
        | nil => exact ⟨ls, hls⟩
        | cons next args => exact ⟨_, by rw [tokensOfAll, hls]; rfl⟩
      rw [hmore]
      rfl
  have hopen (ls : List Lexeme) : behindSymbol? "<" (.ofSymbol '<' :: ls) = some ls := rfl
  refine ⟨between (.ofSymbol '<' :: (tokensOfAll args ++ .ofSymbol '>' :: rest)) rest, nodes,
    hnodes, ?_⟩
  rw [argumentsFrom, hopen]
  simp only [hbound, hlist, Option.map_some]

theorem reads_generic {base : String} {args : List TypeShape} (hbase : IsName base)
    (h : ∀ arg ∈ args, Reads arg) (hregular : ∀ arg ∈ args, Regular arg) (hne : args ≠ []) :
    Reads (.generic base args) := by
  refine reads_of_baseFrom fun fuel rest hfuel hrest => ?_
  simp only [Enough, tokens, List.length_cons, List.length_append, List.length_nil] at hfuel
  obtain ⟨n, rfl⟩ : ∃ n, fuel = n + 2 := Nat.exists_eq_add_of_le' (by omega)
  obtain ⟨text, nodes, hnodes, hargs⟩ :=
    argumentsFrom_tokens h hregular hne rest (show _ ≤ n by omega)
  have hidentifier := baseFrom_identifier hbase.isKeywordType hbase.not_mem.2.1 rfl hargs
  have hspan : between ((generic base args).tokens ++ rest) rest =
      (generic base args).display.toList := by
    rw [between_append, (Regular.generic hbase hregular hne).text_tokens]
  refine ⟨_, readAs_generic hbase hnodes hne text, ?_⟩
  rw [Option.elim_some, qualifiersFrom_of_absent (hrest.behindSymbol? (by decide))] at hidentifier
  rw [tokens, List.cons_append, List.cons_append, List.append_assoc] at hspan ⊢
  rw [← hspan]
  exact hidentifier

theorem Regular.reads {shape : TypeShape} (h : Regular shape) : Reads shape := by
  induction h with
  | primitive h hvoid =>
    exact reads_of_baseFrom fun fuel rest hfuel hrest => baseFrom_primitive h hvoid hrest hfuel
  | named h =>
    exact reads_of_baseFrom fun fuel rest hfuel hrest =>
      ⟨_, readAs_name h, baseFrom_named h hrest hfuel⟩
  | qualified h hlen =>
    exact reads_of_baseFrom fun fuel rest hfuel hrest =>
      ⟨_, readAs_qualified h hlen, baseFrom_qualified h hlen hrest hfuel⟩
  | generic h hargs hne ih => exact reads_generic h ih hargs hne
  | array _ ih => exact ih.array
  | nullable _ hnot ih => exact ih.nullable hnot

end Gloss.TypeShape
