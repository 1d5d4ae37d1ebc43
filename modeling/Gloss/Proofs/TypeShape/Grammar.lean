import Gloss.Proofs.TypeShape.Lexemes

/-!
# Trees of written types

The nodes that types have in a syntax tree (`IsType`), by the grammar of C#: a mark is put
around the type in front of it, so marks nest to the left, and type arguments are the nodes
of a list. Nothing is said about shapes. What a parser is asked for is such a node
(`ReadsType`), with the text it was given.

The shape of the node is regular and written as the node is (`IsType.spells`), by
induction on the node with one lemma for each kind. Which shape it is follows only
from how shapes are written.
-/

namespace Gloss

open Gloss.Source Gloss.Text

/-! ## Children -/

namespace Source.SyntaxNode

open TypeShape (keywordTypes identifierText)

/-- The type that a mark stands behind. -/
def element? (node : SyntaxNode) : Option SyntaxNode :=
  (node.childByField .type).or (node.children.find? (·.isNamed))

/-- The name in front of type arguments. -/
def name? (node : SyntaxNode) : Option SyntaxNode :=
  (node.childByField .name).or (node.childOfKind .identifier)

/-- The types in a list of type arguments. -/
def listed (node : SyntaxNode) : List SyntaxNode :=
  node.children.filter fun child => child.isNamed && child.kind != .comment

/-- The type arguments behind a name. -/
def arguments (node : SyntaxNode) : List SyntaxNode :=
  ((node.childOfKind .typeArgumentList).map listed).getD []

theorem firstShape_eq (test : SyntaxNode → Bool) (nodes : List SyntaxNode) :
    firstShape test nodes = (nodes.find? test).map shape := by
  induction nodes with
  | nil => rfl
  | cons node nodes ih => cases h : test node <;> simp [firstShape, h, ih]

theorem elementShape_eq (node : SyntaxNode) :
    (firstShape isElement node.children).or (firstShape (·.isNamed) node.children) =
      node.element?.map shape := by
  rw [firstShape_eq, firstShape_eq, ← Option.map_or]
  rfl

theorem namedShapes_eq (nodes : List SyntaxNode) :
    namedShapes nodes =
      (nodes.filter fun node => node.isNamed && node.kind != .comment).map shape := by
  induction nodes with
  | nil => rfl
  | cons node nodes ih =>
    cases h : node.isNamed && node.kind != .comment <;> simp [namedShapes, h, ih]

theorem argumentShapes_cons (node : SyntaxNode) (nodes : List SyntaxNode) :
    argumentShapes (node :: nodes) =
      if node.kind = .typeArgumentList then node.listed.map shape else argumentShapes nodes := by
  cases node
  rw [argumentShapes, namedShapes_eq]
  rfl

theorem argumentShapes_eq (node : SyntaxNode) :
    argumentShapes node.children = node.arguments.map shape := by
  rw [arguments, childOfKind]
  induction node.children with
  | nil => rfl
  | cons child children ih =>
    rw [argumentShapes_cons]
    by_cases hkind : child.kind = .typeArgumentList
    · simp [hkind]
    · rw [if_neg hkind, ih, List.find?_cons_of_neg (by simpa using hkind)]

/-- How the shape of a node is told, by its kind. -/
theorem shape_eq (node : SyntaxNode) :
    node.shape =
      let written := String.ofList (squeeze node.text)
      if written ∈ keywordTypes then .primitive written
      else match node.kind with
        | .predefinedType => .primitive written
        | .identifier => .named (identifierText (squeeze node.text))
        | .genericName => node.name?.elim (.other written) fun name =>
            .generic (identifierText name.text) (node.arguments.map shape)
        | .qualifiedName | .aliasQualifiedName => .qualified written
        | .arrayType => node.element?.elim (.other written) fun element => .array element.shape
        | .nullableType => node.element?.elim (.other written) fun inner => .nullable inner.shape
        | .typeArgumentList | .variableDeclaration | .comment | .other => .other written := by
  have helement := elementShape_eq node
  rw [← argumentShapes_eq]
  rcases node with ⟨kind, field, isNamed, hasError, text, children⟩
  rw [shape.eq_def]
  simp only [List.contains_iff_mem]
  split
  · rfl
  · cases kind with
    | genericName =>
      simp only [name?]
      cases Option.or _ _ <;> rfl
    | arrayType =>
      simp only at helement ⊢
      rw [helement]
      cases element? _ <;> rfl
    | nullableType =>
      simp only at helement ⊢
      rw [helement]
      cases element? _ <;> rfl
    | _ => rfl

/-- What a node is to its parent does not change its shape. -/
theorem shape_withField (node : SyntaxNode) (field : Option SyntaxField) :
    { node with field := field }.shape = node.shape := by
  rw [shape_eq, shape_eq]
  rfl

theorem kind_eq_of_shape_eq_nullable {node : SyntaxNode} {inner : TypeShape}
    (h : node.shape = .nullable inner) : node.kind = .nullableType := by
  rw [shape_eq] at h
  dsimp only at h
  split at h
  · cases h
  · cases hkind : node.kind with
    | nullableType => rfl
    | genericName => cases hname : node.name? <;> simp [hkind, hname] at h
    | arrayType => cases helement : node.element? <;> simp [hkind, helement] at h
    | _ => simp [hkind] at h

end Source.SyntaxNode

namespace TypeShape

/-! ## Nodes of types -/

/-- The nodes of types that are written with one space behind each comma and no other
blank. A mark is the last of the text of its node, and the node in front of it may have marks
of its own; nothing is nullable twice. -/
inductive IsType : SyntaxNode → Prop where
  | keyword {node : SyntaxNode} {name : String}
      (hkind : node.kind ∈ [.predefinedType, .identifier]) (h : name ∈ keywordTypes)
      (hvoid : name ≠ "void") (htext : node.text = name.toList) : IsType node
  | name {node : SyntaxNode} {name : String} (hkind : node.kind = .identifier) (h : IsName name)
      (htext : node.text = name.toList) : IsType node
  | qualified {node : SyntaxNode} {parts : List String} (hkind : node.kind = .qualifiedName)
      (h : ∀ part ∈ parts, IsName part) (hlen : 2 ≤ parts.length)
      (htext : node.text = (".".intercalate parts).toList) : IsType node
  | generic {node name : SyntaxNode} {base : String} (hkind : node.kind = .genericName)
      (hname : node.name? = some name) (h : IsName base) (hbase : name.text = base.toList)
      (hargs : ∀ arg ∈ node.arguments, IsType arg) (hne : node.arguments ≠ [])
      (htext : node.text = base.toList ++ '<' ::
        (List.intercalate [',', ' '] (node.arguments.map SyntaxNode.text) ++ ['>'])) : IsType node
  | array {node element : SyntaxNode} (hkind : node.kind = .arrayType)
      (helement : node.element? = some element) (h : IsType element)
      (htext : node.text = element.text ++ ['[', ']']) : IsType node
  | nullable {node element : SyntaxNode} (hkind : node.kind = .nullableType)
      (helement : node.element? = some element) (h : IsType element)
      (hnot : element.kind ≠ .nullableType) (htext : node.text = element.text ++ ['?']) :
      IsType node

/-- A parser gives a written type, put in a class as the type of a field, a node by the grammar:
the first variable declaration of the tree is that of the field, and its type is a node
without errors that spans what was written. -/
def ReadsType (parser : List Char → Option SyntaxNode) (written : List Char) : Prop :=
  ∃ node, fieldType? parser written = some node ∧ node.hasError = false ∧
    node.text = written ∧ IsType node

theorem IsType.withField {node : SyntaxNode} (h : IsType node) (field : Option SyntaxField) :
    IsType { node with field := field } := by
  cases h with
  | keyword hkind h hvoid htext => exact .keyword hkind h hvoid htext
  | name hkind h htext => exact .name hkind h htext
  | qualified hkind h hlen htext => exact .qualified hkind h hlen htext
  | generic hkind hname h hbase hargs hne htext =>
    exact .generic hkind hname h hbase hargs hne htext
  | array hkind helement h htext => exact .array hkind helement h htext
  | nullable hkind helement h hnot htext => exact .nullable hkind helement h hnot htext

/-! ## Shapes of types -/

/-- Only a keyword is written as one. -/
theorem Regular.eq_primitive {shape : TypeShape} (h : Regular shape)
    (hkey : shape.display ∈ keywordTypes) : shape = .primitive shape.display := by
  have hsymbol (c : Char) (hc : c ∈ typeSymbols) : c ∉ shape.display.toList :=
    not_mem_of_isPlainWord (keywordTypes_plain _ hkey) hc
  cases h with
  | primitive h => rfl
  | named h => exact absurd hkey h.not_mem.1
  | @qualified parts h hlen =>
    match parts, hlen with
    | first :: next :: more, _ =>
      exact absurd (by simp [display, String.toList_intercalate]) (hsymbol '.' (by decide))
  | generic h => exact absurd (by simp [display_generic]) (hsymbol '<' (by decide))
  | array h => exact absurd (by simp [display]) (hsymbol ']' (by decide))
  | nullable h => exact absurd (by simp [display]) (hsymbol '?' (by decide))

/-- A node has a regular shape, which is written as the node is. -/
structure Spells (shape : TypeShape) (node : SyntaxNode) : Prop where
  shape_eq : node.shape = shape
  regular : Regular shape
  display_eq : shape.display.toList = node.text

theorem Spells.self {shape : TypeShape} {node : SyntaxNode} (h : Spells shape node) :
    Spells node.shape node := by
  rw [h.shape_eq]
  exact h

/-- A written shape has no blanks that could be squeezed and is taken for a keyword only if
it is one. So the kind of a node is what tells its shape. -/
theorem spells_of_kind {node : SyntaxNode} {shape : TypeShape} (h : Regular shape)
    (htext : shape.display.toList = node.text)
    (hshape : String.ofList node.text ∉ keywordTypes → squeeze node.text = node.text →
      node.shape = shape) :
    Spells shape node := by
  have hsqueeze : squeeze node.text = node.text := by
    rw [← htext]
    exact h.spaced.squeeze_eq
  have hdisplay : String.ofList node.text = shape.display := by
    rw [← htext, String.ofList_toList]
  refine ⟨?_, h, htext⟩
  by_cases hkey : shape.display ∈ keywordTypes
  · rw [SyntaxNode.shape_eq, hsqueeze, hdisplay, if_pos hkey, ← h.eq_primitive hkey]
  · exact hshape (hdisplay ▸ hkey) hsqueeze

section Kinds

variable {node : SyntaxNode}

theorem spells_keyword {name : String} (h : name ∈ keywordTypes) (hvoid : name ≠ "void")
    (htext : node.text = name.toList) : Spells (.primitive name) node := by
  refine spells_of_kind (.primitive h hvoid) htext.symm fun hkey => ?_
  rw [htext, String.ofList_toList] at hkey
  exact absurd h hkey

theorem spells_name {name : String} (hkind : node.kind = .identifier) (h : IsName name)
    (htext : node.text = name.toList) : Spells (.named name) node := by
  refine spells_of_kind (.named h) htext.symm fun hkey hsqueeze => ?_
  rw [SyntaxNode.shape_eq, hsqueeze, if_neg hkey, hkind, htext, h.identifierText]

theorem spells_qualified {parts : List String} (hkind : node.kind = .qualifiedName)
    (h : ∀ part ∈ parts, IsName part) (hlen : 2 ≤ parts.length)
    (htext : node.text = (".".intercalate parts).toList) :
    Spells (.qualified (".".intercalate parts)) node := by
  refine spells_of_kind (.qualified h hlen) htext.symm fun hkey hsqueeze => ?_
  rw [SyntaxNode.shape_eq, hsqueeze, if_neg hkey, hkind, htext, String.ofList_toList]

theorem argumentsText_map {nodes : List SyntaxNode}
    (h : ∀ node ∈ nodes, Spells node.shape node) :
    argumentsText (nodes.map SyntaxNode.shape) =
      List.intercalate [',', ' '] (nodes.map SyntaxNode.text) := by
  rw [argumentsText, List.map_map]
  exact congrArg _ (List.map_congr_left fun node hnode => (h node hnode).display_eq)

theorem spells_generic {name : SyntaxNode} {base : String} (hkind : node.kind = .genericName)
    (hname : node.name? = some name) (h : IsName base) (hbase : name.text = base.toList)
    (hargs : ∀ arg ∈ node.arguments, Spells arg.shape arg) (hne : node.arguments ≠ [])
    (htext : node.text = base.toList ++ '<' ::
      (List.intercalate [',', ' '] (node.arguments.map SyntaxNode.text) ++ ['>'])) :
    Spells (.generic base (node.arguments.map SyntaxNode.shape)) node := by
  have hregular : ∀ arg ∈ node.arguments.map SyntaxNode.shape, Regular arg := by
    simp only [List.mem_map]
    rintro - ⟨arg, harg, rfl⟩
    exact (hargs arg harg).regular
  refine spells_of_kind (.generic h hregular (mt List.map_eq_nil_iff.1 hne)) ?_
    fun hkey hsqueeze => ?_
  · rw [display_generic, argumentsText_map hargs, htext]
  · rw [SyntaxNode.shape_eq, hsqueeze, if_neg hkey, hkind]
    simp only [hname, Option.elim_some, hbase, h.identifierText]

theorem spells_array {element : SyntaxNode} {shape : TypeShape} (hkind : node.kind = .arrayType)
    (helement : node.element? = some element) (h : Spells shape element)
    (htext : node.text = element.text ++ ['[', ']']) : Spells (.array shape) node := by
  refine spells_of_kind (.array h.regular) ?_ fun hkey hsqueeze => ?_
  · rw [display, String.toList_append, h.display_eq, htext]
    rfl
  · rw [SyntaxNode.shape_eq, hsqueeze, if_neg hkey, hkind]
    simp only [helement, Option.elim_some, h.shape_eq]

theorem spells_nullable {element : SyntaxNode} {shape : TypeShape}
    (hkind : node.kind = .nullableType) (helement : node.element? = some element)
    (h : Spells shape element) (hnot : element.kind ≠ .nullableType)
    (htext : node.text = element.text ++ ['?']) : Spells (.nullable shape) node := by
  have hinner : ∀ inner, shape ≠ .nullable inner := by
    rintro inner rfl
    exact hnot (SyntaxNode.kind_eq_of_shape_eq_nullable h.shape_eq)
  refine spells_of_kind (.nullable h.regular hinner) ?_ fun hkey hsqueeze => ?_
  · rw [display, String.toList_append, h.display_eq, htext]
    rfl
  · rw [SyntaxNode.shape_eq, hsqueeze, if_neg hkey, hkind]
    simp only [helement, Option.elim_some, h.shape_eq]

end Kinds

/-- A node by the grammar spells its shape. -/
theorem IsType.spells {node : SyntaxNode} (h : IsType node) : Spells node.shape node := by
  induction h with
  | keyword _ h hvoid htext => exact (spells_keyword h hvoid htext).self
  | name hkind h htext => exact (spells_name hkind h htext).self
  | qualified hkind h hlen htext => exact (spells_qualified hkind h hlen htext).self
  | generic hkind hname h hbase _ hne htext ih =>
    exact (spells_generic hkind hname h hbase ih hne htext).self
  | array hkind helement _ htext ih => exact (spells_array hkind helement ih htext).self
  | nullable hkind helement _ hnot htext ih =>
    exact (spells_nullable hkind helement ih hnot htext).self

theorem IsType.kind_ne_comment {node : SyntaxNode} (h : IsType node) : node.kind ≠ .comment := by
  intro hcomment
  cases h with
  | keyword hkind => simp [hcomment] at hkind
  | name hkind | qualified hkind | generic hkind | array hkind | nullable hkind =>
    rw [hcomment] at hkind
    cases hkind

theorem IsType.exists_nullable {node : SyntaxNode} (h : IsType node)
    (hnullable : node.kind = .nullableType) : ∃ inner, node.shape = .nullable inner := by
  cases h with
  | keyword hkind => simp [hnullable] at hkind
  | nullable hkind helement h hnot htext =>
    exact ⟨_, (spells_nullable hkind helement h.spells hnot htext).shape_eq⟩
  | name hkind | qualified hkind | generic hkind | array hkind =>
    rw [hnullable] at hkind
    cases hkind

end TypeShape

end Gloss
