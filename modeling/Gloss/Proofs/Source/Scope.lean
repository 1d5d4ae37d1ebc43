import Gloss.Proofs.Source.Tree

/-!
# Nodes that are read

What reading a source text without recovery says of its nodes (`Scope`): comments look like
comments, declarations start with a token, and nodes that are no trivia do not end in blanks,
nor do brackets and the lines of conditional blocks. `scope_ofText` says so of all source
texts; it follows from what lexemes look like (`sound_of_mem_lexemes`). So the trees of
`Parser.strict` are sound and tidy (`isSoundOn_strict`, `isTidyOn_strict`).
-/

namespace Gloss.Source

open Gloss.Text

/-- A text that starts with a character that is not blank. -/
def Begins (text : List Char) : Prop :=
  ∃ c, text.head? = some c ∧ isSourceBlank c = false

/-- A text that ends with a character that is not blank. -/
def Ends (text : List Char) : Prop :=
  ∃ c, text.getLast? = some c ∧ isBlank c = false

/-- What a comment looks like: a line, or a text between `/` and `/`. -/
def CommentText (text : List Char) : Prop :=
  text.head? = some '/' ∧ ((∀ c ∈ text, isBreak c = false) ∨ text.getLast? = some '/')

theorem Begins.ne_nil {text : List Char} (h : Begins text) : text ≠ [] := by
  rintro rfl
  obtain ⟨c, hc, -⟩ := h
  cases hc

theorem Begins.append {text : List Char} (h : Begins text) (rest : List Char) :
    Begins (text ++ rest) := by
  obtain ⟨c, hc, hblank⟩ := h
  exact ⟨c, by rw [List.head?_append, hc, Option.some_or], hblank⟩

theorem Ends.append {text : List Char} (h : Ends text) (before : List Char) :
    Ends (before ++ text) := by
  obtain ⟨c, hc, hblank⟩ := h
  exact ⟨c, by rw [List.getLast?_append, hc, Option.some_or], hblank⟩

/-! ## Lexemes -/

/-- Whether lexemes of a kind do not end in blanks: those that hold groups together. -/
def LexemeKind.isFirm : LexemeKind → Bool
  | conditionStart | conditionTurn | conditionEnd | symbol => true
  | _ => false

/-- What a lexeme looks like. -/
structure Lexeme.Sound (l : Lexeme) : Prop where
  begins : l.kind ≠ .blank → Begins l.text
  comment : l.kind = .comment → CommentText l.text
  ends : l.kind.isFirm = true → Ends l.text

theorem take_of_isPrefix {a b : List Char} (h : a <+: b) : b.take a.length = a :=
  (List.prefix_iff_eq_take.1 h).symm

theorem beforeComment_isPrefix (line : List Char) : beforeComment line <+: line := by
  fun_induction beforeComment line with
  | case1 => exact List.prefix_rfl
  | case2 | case3 => exact List.nil_prefix
  | case4 c cs _ _ ih => exact List.cons_prefix_cons.2 ⟨rfl, ih⟩

theorem ends_cons_trimEnd {c : Char} (h : isBlank c = false) (cs : List Char) :
    Ends (c :: trimEnd cs) := by
  cases hlast : (trimEnd cs).getLast? with
  | none =>
    rw [List.getLast?_eq_none_iff.1 hlast]
    exact ⟨c, rfl, h⟩
  | some d =>
    have hd := trimEnd_eq_self_iff.1 (trimEnd_trimEnd cs) d hlast
    exact Ends.append ⟨d, hlast, hd⟩ [c]

/-- The lines of conditional blocks do not end in blanks. -/
theorem ends_directive {c : Char} (hc : isBlank c = false) (cs : List Char)
    (h : (directiveExtent cs).1.isFirm = true) : Ends (c :: cs.take (directiveExtent cs).2) := by
  have hline : cs.takeWhile (fun c => !isBreak c) <+: cs := List.takeWhile_prefix _
  rw [directiveExtent] at h ⊢
  generalize cs.takeWhile (fun c => !isBreak c) = line at h hline ⊢
  have hcondition : Ends (c :: cs.take (trimEnd (beforeComment line)).length) := by
    obtain ⟨post, hpost, -⟩ := trimEnd_split (beforeComment line)
    have hpre : trimEnd (beforeComment line) <+: cs :=
      (List.IsPrefix.trans ⟨post, hpost.symm⟩ (beforeComment_isPrefix line)).trans hline
    rw [take_of_isPrefix hpre]
    exact ends_cons_trimEnd hc _
  have hname : ∀ name, (line.drop (line.takeWhile isBlank).length).takeWhile Char.isAlpha = name →
      Ends name → Ends (c :: cs.take ((line.takeWhile isBlank).length + name.length)) := by
    intro name heq hends
    have hgap : line.takeWhile isBlank <+: line := List.takeWhile_prefix _
    have hsplit := List.take_append_drop (line.takeWhile isBlank).length line
    rw [take_of_isPrefix hgap] at hsplit
    have hrest : name <+: line.drop (line.takeWhile isBlank).length := by
      rw [← heq]
      exact List.takeWhile_prefix _
    obtain ⟨rest, hrest⟩ := hrest
    have hpre : line.takeWhile isBlank ++ name <+: cs := by
      refine List.IsPrefix.trans ⟨rest, ?_⟩ hline
      rw [List.append_assoc, hrest, hsplit]
    rw [← List.length_append, take_of_isPrefix hpre]
    exact (hends.append _).append [c]
  split
  · exact hcondition
  · split
    · exact hcondition
    · split
      · rename_i heq
        exact heq ▸ hname _ heq ⟨'e', rfl, rfl⟩
      · split
        · rename_i heq
          exact heq ▸ hname _ heq ⟨'f', rfl, rfl⟩
        · rename_i h1 h2 h3 h4
          rw [if_neg h1, if_neg h2, if_neg h3, if_neg h4] at h
          cases h

theorem commentText_block {cs inside rest : List Char} (hcs : cs.head? = some '*')
    (h : breakOn ['*', '/'] (cs.drop 1) = some (inside, rest)) :
    CommentText ('/' :: cs.take (inside.length + 3)) := by
  obtain ⟨more, rfl⟩ := List.head?_eq_some_iff.1 hcs
  have hmore : more = inside ++ ['*', '/'] ++ rest := breakOn_eq h
  have htake : ('*' :: more).take (inside.length + 3) = '*' :: (inside ++ ['*', '/']) := by
    rw [hmore, List.take_succ_cons, List.take_append_of_le_length (by simp),
      List.take_of_length_le (by simp)]
  rw [htake]
  refine ⟨rfl, .inr ?_⟩
  show ((['/', '*'] ++ inside) ++ ['*', '/']).getLast? = some '/'
  rw [List.getLast?_append]
  rfl

theorem directiveExtent_ne_comment (cs : List Char) : (directiveExtent cs).1 ≠ .comment := by
  rw [directiveExtent]
  split
  · simp
  split
  · simp
  split
  · simp
  split <;> simp

theorem isBlank_of_longSymbols {c d : Char} (h : longSymbols.contains (c, d) = true) :
    isBlank d = false := by
  have hall : longSymbols.all (fun p => !isBlank p.2) = true := by decide
  simpa using List.all_eq_true.1 hall (c, d) (by simpa using h)

theorem sound_extent (c : Char) (cs : List Char) :
    Lexeme.Sound ⟨(extent c cs).1, c :: cs.take (extent c cs).2⟩ := by
  -- All but the first kind start with a character that is not blank.
  have hsound : ∀ {kind : LexemeKind} {text : List Char}, isSourceBlank c = false →
      (kind = .comment → CommentText (c :: text)) → (kind.isFirm = true → Ends (c :: text)) →
      Lexeme.Sound ⟨kind, c :: text⟩ :=
    fun hc hcomment hends => ⟨fun _ => ⟨c, rfl, hc⟩, hcomment, hends⟩
  rw [extent]
  split
  · exact ⟨fun h => absurd rfl h, fun h => by (cases h), fun h => by (cases h)⟩
  rename_i hc
  have hc : isSourceBlank c = false := by simpa using hc
  have hblank : isBlank c = false := by
    simp only [isSourceBlank, Bool.or_eq_false_iff] at hc
    exact hc.1
  split
  · rename_i hslash
    obtain ⟨rfl, -⟩ : c = '/' ∧ cs.head? = some '/' := by simpa using hslash
    refine hsound hc (fun _ => ⟨rfl, .inl fun d hd => ?_⟩) fun h => by (cases h)
    have hline : cs.takeWhile (fun c => !isBreak c) <+: cs := List.takeWhile_prefix _
    rw [take_of_isPrefix hline] at hd
    rcases List.mem_cons.1 hd with rfl | hd
    · rfl
    · simpa using List.all_eq_true.1 List.all_takeWhile d hd
  split
  · rename_i hstar
    obtain ⟨rfl, hhead⟩ : c = '/' ∧ cs.head? = some '*' := by simpa using hstar
    split
    · rename_i inside rest hclose
      exact hsound hc (fun _ => commentText_block hhead hclose) fun h => by (cases h)
    · exact hsound hc (fun h => by (cases h)) fun h => by (cases h)
  split
  · exact hsound hc (fun h => absurd h (directiveExtent_ne_comment cs)) (ends_directive hblank cs)
  split
  · exact hsound hc (fun h => by (cases h)) fun h => by (cases h)
  split
  · exact hsound hc (fun h => by (cases h)) fun h => by (cases h)
  split
  · exact hsound hc (fun h => by (cases h)) fun h => by (cases h)
  split
  · split
    · exact hsound hc (fun h => by (cases h)) fun h => by (cases h)
    · exact hsound hc (fun h => by (cases h)) fun h => by (cases h)
  split
  · rename_i hlong
    cases cs with
    | nil => cases hlong
    | cons d more =>
      exact hsound hc (fun h => by (cases h)) fun _ => ⟨d, rfl, isBlank_of_longSymbols hlong⟩
  split
  · exact hsound hc (fun h => by (cases h)) fun _ => ⟨c, rfl, hblank⟩
  · exact hsound hc (fun h => by (cases h)) fun h => by (cases h)

theorem sound_of_mem_lexemes {cs : List Char} {l : Lexeme} (h : l ∈ lexemes cs) : l.Sound := by
  fun_induction lexemes cs with
  | case1 => cases h
  | case2 c rest kind n hextent ih =>
    rcases List.mem_cons.1 h with rfl | h
    · have := sound_extent c rest
      rwa [hextent] at this
    · exact ih h

/-! ## Trees -/

mutual

/-- A tree of lexemes that look as they should, with firm ones around its groups. -/
def TokenTree.Sound : TokenTree → Prop
  | leaf l => l.Sound
  | group _ opening children closing =>
    (opening.Sound ∧ opening.kind.isFirm = true) ∧ SoundAll children ∧
      closing.Sound ∧ closing.kind.isFirm = true

/-- A list of such trees. -/
def TokenTree.SoundAll : List TokenTree → Prop
  | [] => True
  | tree :: trees => tree.Sound ∧ SoundAll trees

end

open TokenTree (SoundAll)

theorem soundAll_iff {trees : List TokenTree} : SoundAll trees ↔ ∀ t ∈ trees, t.Sound := by
  induction trees with
  | nil => simp [SoundAll]
  | cons t ts ih => simp [SoundAll, ih]

theorem isFirm_of_opens {l : Lexeme} {b : Bracket} (h : l.role = .opens b) :
    l.kind.isFirm = true := by
  rw [Lexeme.role] at h
  split at h <;> simp_all [LexemeKind.isFirm]

theorem isFirm_of_closes {l : Lexeme} {b : Bracket} (h : l.role = .closes b) :
    l.kind.isFirm = true := by
  rw [Lexeme.role] at h
  split at h <;> simp_all [LexemeKind.isFirm]

theorem soundAll_groupFrom {stack : List OpenGroup} {done trees : List TokenTree}
    {ls : List Lexeme} (h : groupFrom stack done ls = some trees) (hls : ∀ l ∈ ls, l.Sound)
    (hdone : SoundAll done)
    (hstack : ∀ g ∈ stack, (g.opening.Sound ∧ g.opening.kind.isFirm = true) ∧ SoundAll g.before) :
    SoundAll trees := by
  fun_induction groupFrom stack done ls with
  | case1 stack done hs =>
    cases h
    exact soundAll_iff.2 fun t ht => soundAll_iff.1 hdone t (List.mem_reverse.1 ht)
  | case2 => cases h
  | case3 stack done l ls bracket hr ih =>
    refine ih h (fun l' hl' => hls l' (List.mem_cons_of_mem _ hl')) trivial fun g hg => ?_
    rcases List.mem_cons.1 hg with rfl | hg
    · exact ⟨⟨hls l List.mem_cons_self, isFirm_of_opens hr⟩, hdone⟩
    · exact hstack g hg
  | case4 => cases h
  | case5 done l ls g outer hr ih =>
    obtain ⟨hopening, hbefore⟩ := hstack g List.mem_cons_self
    have hchildren : SoundAll done.reverse :=
      soundAll_iff.2 fun t ht => soundAll_iff.1 hdone t (List.mem_reverse.1 ht)
    refine ih h (fun l' hl' => hls l' (List.mem_cons_of_mem _ hl')) ⟨⟨hopening, hchildren, ?_⟩, hbefore⟩
      fun g' hg' => hstack g' (List.mem_cons_of_mem _ hg')
    exact ⟨hls l List.mem_cons_self, isFirm_of_closes hr⟩
  | case6 => cases h
  | case7 stack done l ls hr ih =>
    exact ih h (fun l' hl' => hls l' (List.mem_cons_of_mem _ hl')) ⟨hls l List.mem_cons_self, hdone⟩
      hstack
  | case8 => cases h

theorem soundAll_group {cs : List Char} {trees : List TokenTree}
    (h : group (lexemes cs) = some trees) : SoundAll trees :=
  soundAll_groupFrom h (fun _ hl => sound_of_mem_lexemes hl) trivial fun g hg => by cases hg

theorem begins_group {b : Bracket} {opening closing : Lexeme} {children : List TokenTree}
    (h : (TokenTree.group b opening children closing).Sound) :
    Begins (lexemesText (TokenTree.group b opening children closing).lexemes) := by
  obtain ⟨⟨hopening, hfirm⟩, -⟩ := h
  have hkind : opening.kind ≠ .blank := fun heq => by
    rw [heq] at hfirm
    cases hfirm
  rw [lexemesText_group, List.append_assoc]
  exact (hopening.begins hkind).append _

theorem ends_group {b : Bracket} {opening closing : Lexeme} {children : List TokenTree}
    (h : (TokenTree.group b opening children closing).Sound) :
    Ends (lexemesText (TokenTree.group b opening children closing).lexemes) := by
  obtain ⟨-, -, hclosing, hfirm⟩ := h
  rw [lexemesText_group]
  exact (hclosing.ends hfirm).append _

/-! ## Nodes -/

open Node (textOfAll covered headText Occurs)

/-- What stands in front of a declaration among its siblings does not end in blanks, trivia
aside. -/
def Opened (children : List Node) : Prop :=
  ∀ before header parts after, children = before ++ .scope (.declaration header) parts :: after →
    Ends (textOfAll (covered before))

/-- What a node of a text that was read looks like. -/
def Node.IsNeat : Node → Prop
  | .comment text => CommentText text
  | .scope kind children =>
    (∀ header, kind = .declaration header → Begins (headText children)) ∧ Opened children
  | .blank _ | .directive _ | .token _ => True

/-- The nodes of a scope of a text that was read. -/
structure Scope (nodes : List Node) : Prop where
  neat : ∀ node, Occurs node nodes → node.IsNeat
  ends : ∀ node ∈ nodes, node.isTrivia = false → Ends node.text

theorem scope_nil : Scope [] where
  neat node h := by
    cases h with
    | here h | inside h => cases h
  ends _ h := absurd h List.not_mem_nil

theorem Scope.cons {node : Node} {nodes : List Node} (h : Scope nodes) (hnode : node.IsNeat)
    (hchildren : ∀ kind children, node = .scope kind children →
      ∀ inner, Occurs inner children → inner.IsNeat)
    (hends : node.isTrivia = false → Ends node.text) : Scope (node :: nodes) where
  neat inner hinner := by
    cases hinner with
    | here hmem =>
      rcases List.mem_cons.1 hmem with rfl | hmem
      · exact hnode
      · exact h.neat inner (.here hmem)
    | inside hmem hinner =>
      rcases List.mem_cons.1 hmem with heq | hmem
      · exact hchildren _ _ heq.symm inner hinner
      · exact h.neat inner (.inside hmem hinner)
  ends inner hmem htrivia := by
    rcases List.mem_cons.1 hmem with rfl | hmem
    · exact hends htrivia
    · exact h.ends inner hmem htrivia

theorem Scope.trivia {node : Node} {nodes : List Node} (h : Scope nodes) (hnode : node.IsNeat)
    (htrivia : node.isTrivia = true) : Scope (node :: nodes) := by
  refine h.cons hnode ?_ fun hfalse => by simp [hfalse] at htrivia
  rintro kind children rfl
  cases htrivia

theorem Scope.token {text : List Char} {nodes : List Node} (h : Scope nodes) (htext : Ends text) :
    Scope (.token text :: nodes) :=
  h.cons trivial (fun _ _ heq => by cases heq) fun _ => htext

theorem Scope.concat {nodes : List Node} (h : Scope nodes) {text : List Char} (htext : Ends text) :
    Scope (nodes ++ [.token text]) where
  neat node hnode := by
    have hlast := scope_nil.token htext
    cases hnode with
    | here hmem =>
      rcases List.mem_append.1 hmem with hmem | hmem
      · exact h.neat node (.here hmem)
      · exact hlast.neat node (.here hmem)
    | inside hmem hnode =>
      rcases List.mem_append.1 hmem with hmem | hmem
      · exact h.neat node (.inside hmem hnode)
      · exact hlast.neat node (.inside hmem hnode)
  ends node hmem htrivia := by
    rcases List.mem_append.1 hmem with hmem | hmem
    · exact h.ends node hmem htrivia
    · obtain rfl := List.mem_singleton.1 hmem
      exact htext

/-- The nodes of a scope up to the last that is no trivia end as that one does. -/
theorem Scope.ends_covered {before after : List Node} (h : Scope (before ++ after)) :
    covered before = [] ∨ Ends (textOfAll (covered before)) := by
  rcases List.eq_nil_or_concat (covered before) with hnil | ⟨init, node, hlast⟩
  · exact .inl hnil
  · rw [List.concat_eq_append] at hlast
    have htrivia : node.isTrivia = false :=
      getLast?_dropEndWhile (congrArg List.getLast? hlast |>.trans List.getLast?_concat)
    obtain ⟨trivia, hbefore, -⟩ := Node.covered_split before
    have hmem : node ∈ before ++ after := by
      rw [hbefore, hlast]
      simp
    refine .inr ?_
    rw [hlast, Node.textOfAll_append, textOfAll, textOfAll, List.append_nil]
    exact (h.ends node hmem htrivia).append _

/-- In a scope that starts with a bracket, all declarations have something in front of
them. -/
theorem Scope.opened {opening : List Char} {children : List Node}
    (h : Scope (.token opening :: children)) : Opened (.token opening :: children) := by
  intro before header parts after heq
  rw [heq] at h
  refine h.ends_covered.resolve_left fun hnil => ?_
  obtain ⟨trivia, hbefore, htrivia⟩ := Node.covered_split before
  rw [hnil, List.nil_append] at hbefore
  cases before with
  | nil => cases heq
  | cons first before =>
    obtain ⟨rfl, -⟩ := List.cons.inj heq
    cases htrivia (.token opening) (hbefore ▸ List.mem_cons_self)

/-- Parts of a declaration as they are read: the first is a tree, and bodies are
between brackets. -/
structure Readable (parts : List Part) : Prop where
  first : ∀ part, parts.head? = some part →
    ∃ tree, part = .tree tree ∧ Begins (lexemesText tree.lexemes)
  bodies : ∀ nodes, .body nodes ∈ parts →
    ∃ opening children, nodes = .token opening :: children ∧ Scope nodes

theorem begins_headText {parts : List Part} (h : Readable parts) (hne : parts ≠ []) :
    Begins (headText (partNodes parts)) := by
  obtain ⟨part, parts, rfl⟩ := List.exists_cons_of_ne_nil hne
  obtain ⟨tree, rfl, hbegins⟩ := h.first part rfl
  exact hbegins.append _

theorem Readable.neat {parts : List Part} (h : Readable parts) {node : Node}
    (hnode : Occurs node (partNodes parts)) : node.IsNeat := by
  have hbody : ∀ kind children, .scope kind children ∈ partNodes parts →
      kind = .body ∧ Opened children ∧ Scope children := by
    intro kind children hmem
    obtain ⟨part, hpart, heq⟩ := List.mem_map.1 hmem
    cases part with
    | tree => cases heq
    | body nodes =>
      cases heq
      obtain ⟨opening, rest, rfl, hscope⟩ := h.bodies _ hpart
      exact ⟨rfl, hscope.opened, hscope⟩
  cases hnode with
  | here hmem =>
    cases node with
    | scope kind children =>
      obtain ⟨rfl, hopened, -⟩ := hbody kind children hmem
      exact ⟨fun _ heq => by (cases heq), hopened⟩
    | comment text =>
      obtain ⟨part, -, heq⟩ := List.mem_map.1 hmem
      cases part <;> cases heq
    | blank | directive | token => trivial
  | inside hmem hnode => exact (hbody _ _ hmem).2.2.neat node hnode

theorem scope_nodeOfParts {parts : List Part} {nodes : List Node} (hparts : Readable parts)
    (hne : parts ≠ []) (hends : Ends (textOfParts parts)) (h : Scope nodes) :
    Scope (nodeOfParts parts :: nodes) := by
  have hscope : ∀ kind : ScopeKind, Scope (.scope kind (partNodes parts) :: nodes) := by
    intro kind
    refine h.cons ⟨fun _ _ => begins_headText hparts hne, ?_⟩ ?_ fun _ => hends
    · -- No part is a declaration itself.
      intro before header children after heq
      have hmem : .scope (.declaration header) children ∈ partNodes parts := by
        rw [heq]
        simp
      obtain ⟨part, -, hpart⟩ := List.mem_map.1 hmem
      cases part <;> cases hpart
    · rintro _ _ heq inner hinner
      cases heq
      exact hparts.neat hinner
  rw [nodeOfParts]
  split
  · exact hscope _
  · exact hscope _
  · exact h.token hends

theorem Readable.concat {parts : List Part} {part : Part} (h : Readable parts)
    (hfirst : parts = [] → ∃ tree, part = .tree tree ∧ Begins (lexemesText tree.lexemes))
    (hbody : ∀ nodes, part = .body nodes →
      ∃ opening children, nodes = .token opening :: children ∧ Scope nodes) :
    Readable (parts ++ [part]) where
  first p hp := by
    cases parts with
    | nil =>
      cases hp
      exact hfirst rfl
    | cons q parts => exact h.first p hp
  bodies nodes hmem := by
    rcases List.mem_append.1 hmem with hmem | hmem
    · exact h.bodies nodes hmem
    · exact hbody nodes (List.mem_singleton.1 hmem).symm

theorem Readable.concat_tree {parts : List Part} {tree : TokenTree} (h : Readable parts)
    (hfirst : parts = [] → Begins (lexemesText tree.lexemes)) : Readable (parts ++ [.tree tree]) :=
  h.concat (fun hnil => ⟨tree, rfl, hfirst hnil⟩) fun _ h => by cases h

theorem scope_nodeOfLexeme {l : Lexeme} {nodes : List Node} (hl : l.Sound)
    (htrivia : l.isTrivia = true) (h : Scope nodes) : Scope (nodeOfLexeme l :: nodes) := by
  rw [Lexeme.isTrivia] at htrivia
  rw [nodeOfLexeme]
  split
  · exact h.trivia trivial rfl
  · rename_i hkind
    exact h.trivia (hl.comment hkind) rfl
  · exact h.trivia trivial rfl
  · rename_i h1 h2 h3
    refine h.token (hl.ends ?_)
    cases hkind : l.kind <;> simp_all [LexemeKind.isFirm]

theorem begins_of_not_trivia {l : Lexeme} (hl : l.Sound) (h : l.isTrivia = false) :
    Begins (lexemesText (TokenTree.leaf l).lexemes) := by
  have hkind : l.kind ≠ .blank := fun hkind => by simp [Lexeme.isTrivia, hkind] at h
  simpa [TokenTree.lexemes, lexemesText] using hl.begins hkind

theorem ends_of_reverse {part : Part} {pending : List Part} (h : Ends (textOfParts [part])) :
    Ends (textOfParts (part :: pending).reverse) := by
  rw [textOfParts_reverse_cons]
  exact h.append _

theorem ends_leaf {l : Lexeme} (h : l.isSymbol ";" = true) : Ends (textOfParts [.tree (.leaf l)]) := by
  have htext : l.text = [';'] := by
    simp only [Lexeme.isSymbol, Bool.and_eq_true, beq_iff_eq] at h
    exact h.2
  rw [textOfParts_tree, TokenTree.lexemes, lexemesText, List.flatMap_singleton, htext]
  exact ⟨';', rfl, rfl⟩

/-- Only parts that start something have a body. -/
theorem ne_nil_of_opensScope {pending : List Part} (h : (pendingHeading pending).opensScope = true) :
    pending.reverse ≠ [] := by
  intro hnil
  rw [pendingHeading, hnil] at h
  cases h

theorem readable_nil : Readable ([] : List Part).reverse :=
  ⟨fun _ h => by (cases h), fun _ h => by (cases h)⟩

theorem readable_group {pending : List Part} (hpending : Readable pending.reverse) {b : Bracket}
    {opening closing : Lexeme} {children : List TokenTree}
    (h : (TokenTree.group b opening children closing).Sound) :
    Readable (.tree (.group b opening children closing) :: pending).reverse := by
  rw [List.reverse_cons]
  exact hpending.concat_tree fun _ => begins_group h

theorem scope_nodesFrom {pending : List Part} {trees : List TokenTree} {nodes : List Node}
    (h : nodesFrom pending trees = some nodes) (htrees : SoundAll trees)
    (hpending : Readable pending.reverse) : Scope nodes := by
  fun_induction nodesFrom pending trees generalizing nodes with
  | case1 =>
    cases h
    exact scope_nil
  | case2 => cases h
  | case3 pending l rest hl ih =>
    obtain ⟨tail, ht, rfl⟩ := Option.map_eq_some_iff.1 h
    exact scope_nodeOfLexeme htrees.1 (by simp_all) (ih ht htrees.2 readable_nil)
  | case4 pending l rest hl hsemicolon ih =>
    obtain ⟨tail, ht, rfl⟩ := Option.map_eq_some_iff.1 h
    refine scope_nodeOfParts ?_ (by simp) (ends_of_reverse (ends_leaf hsemicolon))
      (ih ht htrees.2 readable_nil)
    rw [List.reverse_cons]
    exact hpending.concat_tree fun hnil => begins_of_not_trivia htrees.1 (by simp_all)
  | case5 pending l rest hl _ ih =>
    refine ih h htrees.2 ?_
    rw [List.reverse_cons]
    exact hpending.concat_tree fun hnil => begins_of_not_trivia htrees.1 (by simp_all)
  | case6 pending opening children closing rest hp ih1 ih2 =>
    obtain ⟨inside, hi, h⟩ := Option.bind_eq_some_iff.1 h
    obtain ⟨tail, ht, h⟩ := Option.bind_eq_some_iff.1 h
    cases h
    obtain ⟨⟨⟨hopening, hfirm⟩, hchildren, hclosing, hfirm'⟩, hrest⟩ := htrees
    have hinside : Scope (.token opening.text :: (inside ++ [.token closing.text])) :=
      ((ih1 hi hchildren readable_nil).concat (hclosing.ends hfirm')).token (hopening.ends hfirm)
    refine (ih2 ht hrest readable_nil).cons ⟨fun _ heq => by (cases heq), hinside.opened⟩ ?_ fun _ => ?_
    · rintro _ _ heq inner hinner
      cases heq
      exact hinside.neat inner hinner
    · rw [Node.text, text_between]
      exact (hclosing.ends hfirm').append _
  | case7 pending opening children closing rest _ ih =>
    exact ih h htrees.2 (readable_group hpending htrees.1)
  | case8 pending opening children closing rest _ ih =>
    exact ih h htrees.2 (readable_group hpending htrees.1)
  | case9 pending opening children closing rest =>
    rename_i hscope ih1 ih2 ih3
    obtain ⟨inside, hi, h⟩ := Option.bind_eq_some_iff.1 h
    obtain ⟨⟨⟨hopening, hfirm⟩, hchildren, hclosing, hfirm'⟩, hrest⟩ := htrees
    have hparts : Readable (.body (.token opening.text :: inside ++ [.token closing.text]) ::
        pending).reverse := by
      rw [List.reverse_cons]
      refine hpending.concat (fun hnil => absurd hnil (ne_nil_of_opensScope hscope)) fun nodes heq => ?_
      cases heq
      exact ⟨_, _, rfl, ((ih1 hi hchildren readable_nil).concat (hclosing.ends hfirm')).token
        (hopening.ends hfirm)⟩
    dsimp only at h
    split at h
    · exact ih2 inside h hrest hparts
    · obtain ⟨tail, ht, h⟩ := Option.bind_eq_some_iff.1 h
      cases h
      refine scope_nodeOfParts hparts (by simp) (ends_of_reverse ?_) (ih3 ht hrest readable_nil)
      rw [textOfParts_body]
      exact (hclosing.ends hfirm').append _
  | case10 pending opening children closing rest =>
    rename_i ih
    exact ih h htrees.2 (readable_group hpending htrees.1)
  | case11 pending opening children closing rest =>
    rename_i ih
    obtain ⟨tail, ht, rfl⟩ := Option.map_eq_some_iff.1 h
    refine scope_nodeOfParts (readable_group hpending htrees.1) (by simp) (ends_of_reverse ?_)
      (ih ht htrees.2 readable_nil)
    rw [textOfParts_tree]
    exact ends_group htrees.1
  | case12 pending opening children closing rest =>
    rename_i hp ih
    obtain ⟨tail, ht, rfl⟩ := Option.map_eq_some_iff.1 h
    refine scope_nodeOfParts (readable_group readable_nil htrees.1) (by simp) ?_
      (ih ht htrees.2 readable_nil)
    rw [textOfParts_tree]
    exact ends_group htrees.1
  | case13 pending opening children closing rest =>
    rename_i ih
    exact ih h htrees.2 (readable_group hpending htrees.1)
  | case14 pending opening children closing rest ih =>
    exact ih h htrees.2 (readable_group hpending htrees.1)

/-- The nodes of a source text are those of a scope. -/
theorem scope_ofText {cs : List Char} {nodes : List Node} (h : Node.ofText? cs = some nodes) :
    Scope nodes := by
  obtain ⟨trees, ht, hn⟩ := Option.bind_eq_some_iff.1 h
  exact scope_nodesFrom hn (soundAll_group ht) readable_nil

/-! ## The parser that does not recover -/

theorem inked_of_getLast? {text : List Char} {c : Char} (hlast : text.getLast? = some c)
    (hc : isBlank c = false) : Inked text := by
  obtain ⟨init, rfl⟩ := List.getLast?_eq_some_iff.1 hlast
  have hmem : c ∈ linePrefix (init ++ [c]) := by
    have hbreak : (c != '\n') = true := bne_iff_ne.2 fun h => by (rw [h] at hc; cases hc)
    simp [linePrefix, hbreak]
  refine ⟨c, hmem, ?_⟩
  rintro (rfl | rfl) <;> cases hc

theorem Ends.ne_nil {text : List Char} (h : Ends text) : text ≠ [] := by
  rintro rfl
  obtain ⟨c, hc, -⟩ := h
  cases hc

theorem Ends.anchored {text : List Char} (h : Ends text) : Anchored text := by
  obtain ⟨c, hlast, hc⟩ := h
  exact .inr (inked_of_getLast? hlast hc)

theorem CommentText.inked {text : List Char} (h : CommentText text) :
    Inked (dropEndWhile isBreak text) := by
  obtain ⟨hhead, hlines⟩ := h
  have hall : dropEndWhile isBreak text = text := by
    have hlast : ∀ c, text.getLast? = some c → isBreak c = false := by
      intro c hc
      rcases hlines with hnone | hslash
      · exact hnone c (List.mem_of_getLast? hc)
      · obtain rfl := Option.some.inj (hslash.symm.trans hc)
        rfl
    have hdrop := dropEndWhile_append hlast fun c (hc : c ∈ []) => absurd hc List.not_mem_nil
    rwa [List.append_nil] at hdrop
  rw [hall]
  rcases hlines with hnone | hslash
  · -- A comment in one line has its start on that line.
    have hline : linePrefix ([] ++ text) = text := by
      refine linePrefix_append (.inl rfl) fun hmem => ?_
      cases hnone _ hmem
    rw [List.nil_append] at hline
    refine ⟨'/', ?_, by decide⟩
    rw [hline]
    exact List.mem_of_head? hhead
  · exact inked_of_getLast? hslash rfl

theorem Scope.tidy {nodes : List Node} (h : Scope nodes) (hasError : Bool) :
    SyntaxTree.Tidy ⟨nodes, hasError⟩ where
  comments text htext := CommentText.inked (h.neat _ htext)
  declarations header parts hin hhead := by
    obtain ⟨c, hc, hblank⟩ := (h.neat _ hin).1 header rfl
    obtain ⟨rest, hrest⟩ := Node.headText_isPrefix parts
    rw [← hrest, List.head?_append, hc, Option.some_or] at hhead
    obtain rfl := Option.some.inj hhead
    cases hblank
  outermost before header parts after heq := by
    obtain rfl : nodes = _ := heq
    rcases h.ends_covered with hnil | hends
    · rw [hnil]
      exact .inl rfl
    · exact hends.anchored
  inner kind before header parts after hin :=
    have hends := (h.neat _ hin).2 before header parts after rfl
    ⟨hends.ne_nil, hends.anchored⟩

theorem Scope.sound {nodes : List Node} (h : Scope nodes) (hasError : Bool) :
    SyntaxTree.Sound ⟨nodes, hasError⟩ (textOfAll nodes) where
  text_eq := rfl
  comments _ htext := (h.neat _ htext).1
  declarations header _ hin := ((h.neat _ hin).1 header rfl).ne_nil

theorem isSoundOn_strict (source : List Char) : Parser.strict.IsSoundOn source := by
  rintro tree htree
  obtain rfl := Option.some.inj htree
  cases hnodes : Node.ofText? source with
  | none => exact sound_unread source
  | some nodes => exact text_ofText hnodes ▸ (scope_ofText hnodes).sound false

theorem isTidyOn_strict (source : List Char) : Parser.strict.IsTidyOn source := by
  rintro tree htree
  obtain rfl := Option.some.inj htree
  cases hnodes : Node.ofText? source with
  | none => exact tidy_unread source
  | some nodes => exact (scope_ofText hnodes).tidy false

end Gloss.Source
