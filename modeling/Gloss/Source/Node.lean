import Gloss.Source.Header
import Gloss.Text.Offset

/-!
# Syntax nodes

A source text as a tree of nodes: namespaces, conditional blocks, declarations
with their bodies, and between them trivia and other tokens. The nodes put
together are the text (`text_ofTrees`), so siblings follow one another and
children lie inside their parents.
-/

namespace Gloss.Source

open Gloss.Text

/-- What a node with children is. -/
inductive ScopeKind where
  /-- A namespace declaration with brackets. -/
  | namespaceBlock
  /-- A namespace declaration for the rest of a file. Its members may be its children or
  stand behind it. -/
  | fileNamespace
  /-- What stands from `#if` to `#endif`. -/
  | conditional
  /-- The members of a namespace or type between their brackets. -/
  | body
  | declaration (header : Header)
  deriving Repr, Inhabited

/-- A part of a source text. -/
inductive Node where
  | blank (text : List Char)
  | comment (text : List Char)
  | directive (text : List Char)
  /-- A part that is not looked into. -/
  | token (text : List Char)
  | scope (kind : ScopeKind) (children : List Node)
  deriving Repr, Inhabited

namespace Node

mutual

/-- The text of a node. -/
def text : Node → List Char
  | blank t | comment t | directive t | token t => t
  | scope _ children => textOfAll children

/-- The text of a list of nodes. -/
def textOfAll : List Node → List Char
  | [] => []
  | node :: nodes => node.text ++ textOfAll nodes

end

/-- How many bytes a node takes. -/
def width (node : Node) : Nat :=
  byteLength node.text

/-- Whether a node stands between the others only. -/
def isTrivia : Node → Bool
  | blank _ | comment _ | directive _ => true
  | _ => false

/-- Whether a node holds the members of a namespace or type. -/
def isBody : Node → Bool
  | scope .body _ => true
  | _ => false

theorem textOfAll_append (a b : List Node) :
    textOfAll (a ++ b) = textOfAll a ++ textOfAll b := by
  induction a with
  | nil => rfl
  | cons node nodes ih => rw [List.cons_append, textOfAll, textOfAll, ih, List.append_assoc]

end Node

/-! ## Reading -/

/-- A part of a declaration that is being read. -/
inductive Part where
  | tree (tree : TokenTree)
  /-- A body that has been read. -/
  | body (nodes : List Node)
  deriving Repr

/-- The trees of the parts in front of a body. -/
def headTrees : List Part → List TokenTree
  | .tree t :: parts => t :: headTrees parts
  | _ => []

/-- The nodes of the parts of a declaration. -/
def partNodes (parts : List Part) : List Node :=
  parts.map fun
    | .tree t => .token (lexemesText t.lexemes)
    | .body nodes => .scope .body nodes

/-- The node of a complete list of parts. -/
def nodeOfParts (parts : List Part) : Node :=
  match headingOf (headTrees parts) with
  | .namespaceBlock =>
    .scope (if (partNodes parts).any Node.isBody then .namespaceBlock else .fileNamespace)
      (partNodes parts)
  | .declaration header => .scope (.declaration header) (partNodes parts)
  | .other => .token (Node.textOfAll (partNodes parts))

/-- The node of a lexeme that stands between declarations. -/
def nodeOfLexeme (l : Lexeme) : Node :=
  match l.kind with
  | .blank => .blank l.text
  | .comment => .comment l.text
  | .directive => .directive l.text
  | _ => .token l.text

/-- Whether the next tree that is no trivia is a given symbol. -/
def nextIs (symbol : String) (trees : List TokenTree) : Bool :=
  (trees.find? fun t => !t.isTrivia).any (·.isSymbol symbol)

/-- Whether a value or an expression body has started. -/
def hasValue (pending : List Part) : Bool :=
  pending.any fun
    | .tree t => t.isSymbol "=" || t.isSymbol "=>"
    | .body _ => false

/-- What the parts read so far, the last first, are the start of. -/
def pendingHeading (pending : List Part) : Heading :=
  headingOf (headTrees pending.reverse)

/-- Whether members stand in the curly brackets behind such a start. -/
def Heading.opensScope : Heading → Bool
  | namespaceBlock => true
  | declaration header => header.kind.isType && header.kind != .enumType
  | other => false

/-- Whether a semicolon may follow the curly brackets behind such a start. -/
def Heading.takesSemicolon : Heading → Bool
  | namespaceBlock => true
  | declaration header => header.kind.isType
  | other => false

/-- Whether a group holds attributes of the whole assembly. -/
def isGlobalAttribute (children : List TokenTree) : Bool :=
  match children.filter fun t => !t.isTrivia with
  | .leaf l :: colon :: _ => (l.isWord "assembly" || l.isWord "module") && colon.isSymbol ":"
  | _ => false

/-- The nodes of a scope; `pending` holds the parts of an unfinished declaration,
the last first. A declaration ends at a semicolon, or at curly brackets with
nothing behind them that belongs to it. -/
def nodesFrom (pending : List Part) (trees : List TokenTree) : Option (List Node) :=
  match trees with
  | [] => if pending.isEmpty then some [] else none
  | .leaf l :: rest =>
    if pending.isEmpty && l.isTrivia then
      (nodesFrom [] rest).map (nodeOfLexeme l :: ·)
    else if l.isSymbol ";" then
      (nodesFrom [] rest).map (nodeOfParts (.tree (.leaf l) :: pending).reverse :: ·)
    else nodesFrom (.tree (.leaf l) :: pending) rest
  | .group .conditional opening children closing :: rest =>
    if pending.isEmpty then do
      let inside ← nodesFrom [] children
      let nodes ← nodesFrom [] rest
      return .scope .conditional (.token opening.text :: inside ++ [.token closing.text]) :: nodes
    else nodesFrom (.tree (.group .conditional opening children closing) :: pending) rest
  | .group .curly opening children closing :: rest =>
    let heading := pendingHeading pending
    if hasValue pending then
      nodesFrom (.tree (.group .curly opening children closing) :: pending) rest
    else if heading.opensScope then do
      let inside ← nodesFrom [] children
      let part := .body (.token opening.text :: inside ++ [.token closing.text])
      if nextIs ";" rest then nodesFrom (part :: pending) rest
      else do
        let nodes ← nodesFrom [] rest
        return nodeOfParts (part :: pending).reverse :: nodes
    else
      let part := .tree (.group .curly opening children closing)
      if nextIs "=" rest || (heading.takesSemicolon && nextIs ";" rest) then
        nodesFrom (part :: pending) rest
      else (nodesFrom [] rest).map (nodeOfParts (part :: pending).reverse :: ·)
  | .group .square opening children closing :: rest =>
    let part := .tree (.group .square opening children closing)
    if pending.isEmpty && isGlobalAttribute children then
      (nodesFrom [] rest).map (nodeOfParts [part] :: ·)
    else nodesFrom (part :: pending) rest
  | .group .round opening children closing :: rest =>
    nodesFrom (.tree (.group .round opening children closing) :: pending) rest
  termination_by sizeOf trees
  decreasing_by
    all_goals
      simp only [List.cons.sizeOf_spec, TokenTree.leaf.sizeOf_spec, TokenTree.group.sizeOf_spec]
      omega

/-! ## The text is kept -/

/-- The text of the parts of a declaration. -/
def textOfParts (parts : List Part) : List Char :=
  Node.textOfAll (partNodes parts)

theorem text_nodeOfParts (parts : List Part) : (nodeOfParts parts).text = textOfParts parts := by
  unfold nodeOfParts
  split <;> rfl

theorem text_nodeOfLexeme (l : Lexeme) : (nodeOfLexeme l).text = l.text := by
  unfold nodeOfLexeme
  split <;> rfl

theorem textOfParts_reverse_cons (part : Part) (pending : List Part) :
    textOfParts (part :: pending).reverse = textOfParts pending.reverse ++ textOfParts [part] := by
  simp [textOfParts, partNodes, Node.textOfAll_append]

theorem textOfParts_tree (t : TokenTree) :
    textOfParts [.tree t] = lexemesText t.lexemes := by
  simp [textOfParts, partNodes, Node.textOfAll, Node.text]

theorem lexemesText_append (a b : List Lexeme) :
    lexemesText (a ++ b) = lexemesText a ++ lexemesText b := by
  simp [lexemesText]

theorem lexemesText_group (b : Bracket) (opening closing : Lexeme) (children : List TokenTree) :
    lexemesText (TokenTree.group b opening children closing).lexemes =
      opening.text ++ TokenTree.textOfAll children ++ closing.text := by
  simp [TokenTree.lexemes, TokenTree.textOfAll, lexemesText]

theorem textOfAll_cons (t : TokenTree) (trees : List TokenTree) :
    TokenTree.textOfAll (t :: trees) = lexemesText t.lexemes ++ TokenTree.textOfAll trees := by
  simp [TokenTree.textOfAll, TokenTree.lexemesOfAll, lexemesText_append]

theorem text_between (opening closing : List Char) (inside : List Node) :
    Node.textOfAll (.token opening :: inside ++ [.token closing]) =
      opening ++ Node.textOfAll inside ++ closing := by
  simp [Node.textOfAll, Node.textOfAll_append, Node.text]

theorem textOfParts_body (opening closing : List Char) (inside : List Node) :
    textOfParts [.body (.token opening :: inside ++ [.token closing])] =
      opening ++ Node.textOfAll inside ++ closing := by
  simp [textOfParts, partNodes, Node.textOfAll, Node.textOfAll_append, Node.text]

theorem text_nodesFrom {pending : List Part} {trees : List TokenTree} {nodes : List Node}
    (h : nodesFrom pending trees = some nodes) :
    Node.textOfAll nodes = textOfParts pending.reverse ++ TokenTree.textOfAll trees := by
  fun_induction nodesFrom pending trees generalizing nodes with
  | case1 pending hp =>
    cases h
    cases List.isEmpty_iff.1 hp
    rfl
  | case2 => cases h
  | case3 pending l rest hl ih =>
    obtain ⟨tail, ht, rfl⟩ := Option.map_eq_some_iff.1 h
    simp only [Bool.and_eq_true, List.isEmpty_iff] at hl
    cases hl.1
    rw [Node.textOfAll, ih ht, text_nodeOfLexeme, textOfAll_cons]
    simp [TokenTree.lexemes, lexemesText, textOfParts, partNodes, Node.textOfAll]
  | case4 pending l rest _ _ ih =>
    obtain ⟨tail, ht, rfl⟩ := Option.map_eq_some_iff.1 h
    rw [Node.textOfAll, ih ht, text_nodeOfParts, textOfParts_reverse_cons, textOfParts_tree,
      textOfAll_cons]
    simp [textOfParts, partNodes, Node.textOfAll]
  | case5 pending l rest _ _ ih =>
    rw [ih h, textOfParts_reverse_cons, textOfParts_tree, textOfAll_cons, List.append_assoc]
  | case6 pending opening children closing rest hp ih1 ih2 =>
    obtain ⟨inside, hi, h⟩ := Option.bind_eq_some_iff.1 h
    obtain ⟨tail, ht, h⟩ := Option.bind_eq_some_iff.1 h
    cases h
    cases List.isEmpty_iff.1 hp
    rw [Node.textOfAll, ih2 ht, Node.text, text_between, ih1 hi, textOfAll_cons,
      lexemesText_group]
    rfl
  | case7 pending opening children closing rest _ ih =>
    rw [ih h, textOfParts_reverse_cons, textOfParts_tree, textOfAll_cons, List.append_assoc]
  | case8 pending opening children closing rest _ ih =>
    rw [ih h, textOfParts_reverse_cons, textOfParts_tree, textOfAll_cons, List.append_assoc]
  | case9 pending opening children closing rest =>
    rename_i ih1 ih2 ih3
    obtain ⟨inside, hi, h⟩ := Option.bind_eq_some_iff.1 h
    have hbody : textOfParts [.body (.token opening.text :: inside ++ [.token closing.text])] =
        lexemesText (TokenTree.group .curly opening children closing).lexemes := by
      rw [textOfParts_body, ih1 hi, lexemesText_group]
      rfl
    dsimp only at h
    split at h
    · rw [ih2 inside h, textOfParts_reverse_cons, hbody, textOfAll_cons, List.append_assoc]
    · obtain ⟨tail, ht, h⟩ := Option.bind_eq_some_iff.1 h
      cases h
      rw [Node.textOfAll, ih3 ht, text_nodeOfParts, textOfParts_reverse_cons, hbody,
        textOfAll_cons]
      simp [textOfParts, partNodes, Node.textOfAll]
  | case10 pending opening children closing rest =>
    rename_i ih
    rw [ih h, textOfParts_reverse_cons, textOfParts_tree, textOfAll_cons, List.append_assoc]
  | case11 pending opening children closing rest =>
    rename_i ih
    obtain ⟨tail, ht, rfl⟩ := Option.map_eq_some_iff.1 h
    rw [Node.textOfAll, ih ht, text_nodeOfParts, textOfParts_reverse_cons, textOfParts_tree,
      textOfAll_cons]
    simp [textOfParts, partNodes, Node.textOfAll]
  | case12 pending opening children closing rest =>
    rename_i hp ih
    obtain ⟨tail, ht, rfl⟩ := Option.map_eq_some_iff.1 h
    simp only [Bool.and_eq_true, List.isEmpty_iff] at hp
    cases hp.1
    rw [Node.textOfAll, ih ht, text_nodeOfParts, textOfParts_tree, textOfAll_cons]
    rfl
  | case13 pending opening children closing rest =>
    rename_i ih
    rw [ih h, textOfParts_reverse_cons, textOfParts_tree, textOfAll_cons, List.append_assoc]
  | case14 pending opening children closing rest ih =>
    rw [ih h, textOfParts_reverse_cons, textOfParts_tree, textOfAll_cons, List.append_assoc]

/-- The nodes of a list of trees; none if a declaration does not end. -/
def Node.ofTrees? (trees : List TokenTree) : Option (List Node) :=
  nodesFrom [] trees

/-- Reading trees keeps the text. -/
theorem text_ofTrees {trees : List TokenTree} {nodes : List Node}
    (h : Node.ofTrees? trees = some nodes) :
    Node.textOfAll nodes = TokenTree.textOfAll trees := by
  rw [text_nodesFrom h]
  rfl

/-- The nodes of a source text; none if it cannot be read. -/
def Node.ofText? (cs : List Char) : Option (List Node) :=
  (group (lexemes cs)).bind Node.ofTrees?

/-- Reading a source text keeps it. -/
theorem text_ofText {cs : List Char} {nodes : List Node} (h : Node.ofText? cs = some nodes) :
    Node.textOfAll nodes = cs := by
  obtain ⟨trees, ht, hn⟩ := Option.bind_eq_some_iff.1 h
  rw [text_ofTrees hn, text_group ht, text_lexemes]

/-! ## Parsers -/

/-- The syntax tree of a source text. -/
structure SyntaxTree where
  nodes : List Node
  /-- Whether the text has syntax errors. -/
  hasError : Bool := false
  deriving Repr, Inhabited

/-- A parser of source texts. It may recover from syntax errors: the tree of a text that
has some still holds what could be made out. -/
abbrev Parser := List Char → Option SyntaxTree

/-- A text that cannot be read, as one node. -/
def SyntaxTree.unread (cs : List Char) : SyntaxTree :=
  ⟨[.token cs], true⟩

/-- The parser that does not recover from syntax errors. -/
def Parser.strict : Parser := fun cs =>
  some (((Node.ofText? cs).map fun nodes => ⟨nodes, false⟩).getD (.unread cs))

end Gloss.Source
