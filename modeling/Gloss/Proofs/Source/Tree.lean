import Gloss.Proofs.Source.Trivia

/-!
# Trees of a source text

What is asked of the tree that a parser gives for a source text. `SyntaxTree.Sound` is what
the walk over it rests on: the nodes put together are the text, so siblings follow one
another and children lie inside their parents; comments look like comments; declarations
have text in front of their bodies. Nodes may be empty, as those that a parser makes up for
missing tokens are.

`SyntaxTree.Tidy` is about blanks and line breaks at the edges of nodes. A parser whose
tokens neither start nor end with blanks gives such trees.
-/

namespace Gloss.Source

open Gloss.Text

namespace Node

/-- A node stands somewhere in a list of nodes, or inside of one of them. -/
inductive Occurs (node : Node) : List Node → Prop where
  | here {nodes : List Node} (h : node ∈ nodes) : Occurs node nodes
  | inside {kind : ScopeKind} {children nodes : List Node} (h : .scope kind children ∈ nodes)
      (hnode : Occurs node children) : Occurs node nodes

variable {node : Node} {nodes : List Node}

theorem Occurs.trans {kind : ScopeKind} {children : List Node} (hnode : Occurs node children)
    (h : Occurs (.scope kind children) nodes) : Occurs node nodes := by
  induction h with
  | here h => exact .inside h hnode
  | inside h _ ih => exact .inside h ih

/-- The nodes up to the last that is no trivia. -/
def covered (nodes : List Node) : List Node :=
  dropEndWhile isTrivia nodes

@[simp] theorem covered_nil : covered [] = [] := rfl

theorem covered_concat_of_trivia (h : node.isTrivia = true) (nodes : List Node) :
    covered (nodes ++ [node]) = covered nodes := by
  simp [covered, dropEndWhile_eq, h]

theorem covered_concat (h : node.isTrivia = false) (nodes : List Node) :
    covered (nodes ++ [node]) = nodes ++ [node] := by
  simp [covered, dropEndWhile_eq, h]

theorem covered_split (nodes : List Node) :
    ∃ trivia, nodes = covered nodes ++ trivia ∧ ∀ node ∈ trivia, node.isTrivia = true := by
  obtain ⟨trivia, hnodes, htrivia⟩ := dropEndWhile_split isTrivia nodes
  exact ⟨trivia, hnodes, List.all_eq_true.1 htrivia⟩

theorem textOfAll_covered (nodes : List Node) :
    ∃ trivia, textOfAll nodes = textOfAll (covered nodes) ++ textOfAll trivia := by
  obtain ⟨trivia, hnodes, -⟩ := covered_split nodes
  exact ⟨trivia, by rw [← textOfAll_append, ← hnodes]⟩

/-- The text of the parts of a declaration in front of its body. -/
def headText (parts : List Node) : List Char :=
  textOfAll (parts.takeWhile fun part => !part.isBody)

theorem headText_append {head tail children : List Node} (h : ∀ part ∈ head, part.isBody = false) :
    headText (head ++ .scope .body children :: tail) = textOfAll head := by
  rw [headText, List.takeWhile_append_of_pos fun part hpart => by rw [h part hpart]; rfl,
    List.takeWhile_cons_of_neg (by simp [isBody]), List.append_nil]

theorem headText_isPrefix (parts : List Node) : headText parts <+: textOfAll parts := by
  refine ⟨textOfAll (parts.dropWhile fun part => !part.isBody), ?_⟩
  rw [headText, ← textOfAll_append, List.takeWhile_append_dropWhile]

end Node

open Node (textOfAll covered headText Occurs)

/-- What the declarations of a tree are found by. -/
structure SyntaxTree.Sound (tree : SyntaxTree) (source : List Char) : Prop where
  text_eq : textOfAll tree.nodes = source
  comments : ∀ text, Occurs (.comment text) tree.nodes → text.head? = some '/'
  /-- A declaration starts with a token of its own. -/
  declarations : ∀ header parts, Occurs (.scope (.declaration header) parts) tree.nodes →
    headText parts ≠ []

/-- Nodes do not have blanks or line breaks at their edges where that matters to a declaration:
in comments, at its start, and at the end of the last node in front of it. -/
structure SyntaxTree.Tidy (tree : SyntaxTree) : Prop where
  comments : ∀ text, Occurs (.comment text) tree.nodes → Inked (dropEndWhile isBreak text)
  declarations : ∀ header parts, Occurs (.scope (.declaration header) parts) tree.nodes →
    (textOfAll parts).head? ≠ some '\n'
  outermost : ∀ before header parts after,
    tree.nodes = before ++ .scope (.declaration header) parts :: after →
      Anchored (textOfAll (covered before))
  /-- Inside a scope, something stands in front of the first declaration. -/
  inner : ∀ kind before header parts after,
    Occurs (.scope kind (before ++ .scope (.declaration header) parts :: after)) tree.nodes →
      textOfAll (covered before) ≠ [] ∧ Anchored (textOfAll (covered before))

/-- The tree that a parser gives for a text, if it gives one, is sound. -/
def Parser.IsSoundOn (parser : Parser) (source : List Char) : Prop :=
  ∀ tree, parser source = some tree → tree.Sound source

/-- The tree that a parser gives for a text, if it gives one, is tidy. -/
def Parser.IsTidyOn (parser : Parser) (source : List Char) : Prop :=
  ∀ tree, parser source = some tree → tree.Tidy

/-- In a text that cannot be read there is nothing to be looked at. -/
theorem not_occurs_unread {source : List Char} {node : Node} (hnode : ∀ text, node ≠ .token text) :
    ¬ Occurs node (SyntaxTree.unread source).nodes := by
  intro h
  cases h with
  | here hmem => exact hnode source (List.mem_singleton.1 hmem)
  | inside hmem => cases List.mem_singleton.1 hmem

theorem sound_unread (source : List Char) : (SyntaxTree.unread source).Sound source where
  text_eq := by simp [SyntaxTree.unread, textOfAll, Node.text]
  comments _ hin := absurd hin (not_occurs_unread (by simp))
  declarations _ _ hin := absurd hin (not_occurs_unread (by simp))

theorem tidy_unread (source : List Char) : (SyntaxTree.unread source).Tidy where
  comments _ hin := absurd hin (not_occurs_unread (by simp))
  declarations _ _ hin := absurd hin (not_occurs_unread (by simp))
  outermost before header parts after heq := by
    have hin : Occurs (.scope (.declaration header) parts) (SyntaxTree.unread source).nodes := by
      rw [heq]
      exact .here (List.mem_append_right _ List.mem_cons_self)
    exact absurd hin (not_occurs_unread (by simp))
  inner _ _ _ _ _ hin := absurd hin (not_occurs_unread (by simp))

/-- The nodes of a scope of a tree. `outer` is the text in front of them. -/
inductive IsScope (nodes : List Node) : (outer : List Char) → List Node → Prop where
  | outermost : IsScope nodes [] nodes
  | inner {kind : ScopeKind} {children : List Node} (outer : List Char)
      (h : Occurs (.scope kind children) nodes) : IsScope nodes outer children

variable {nodes siblings : List Node} {outer : List Char}

theorem IsScope.occurs (h : IsScope nodes outer siblings) {node : Node} (hnode : node ∈ siblings) :
    Occurs node nodes := by
  cases h with
  | outermost => exact .here hnode
  | inner _ h => exact Occurs.trans (.here hnode) h

theorem SyntaxTree.Tidy.anchored {tree : SyntaxTree} (h : tree.Tidy) {before after parts : List Node}
    {header : Header}
    (hscope : IsScope tree.nodes outer (before ++ .scope (.declaration header) parts :: after)) :
    Anchored (outer ++ textOfAll (covered before)) := by
  generalize hsiblings : before ++ .scope (.declaration header) parts :: after = siblings at hscope
  cases hscope with
  | outermost =>
    rw [List.nil_append]
    exact h.outermost _ _ _ _ hsiblings.symm
  | inner _ hin =>
    rw [← hsiblings] at hin
    obtain ⟨hne, hanchored⟩ := h.inner _ _ _ _ _ hin
    exact hanchored.append hne outer

end Gloss.Source
