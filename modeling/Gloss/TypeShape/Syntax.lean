import Gloss.Text.Blank
import Gloss.TypeShape.Basic

/-!
# Types in syntax trees

The shape of a written type is told from its node in a syntax tree (`SyntaxNode.shape`). A
type that is given as a text is written where a field has its type, and a parser gives the
tree (`TypeShape.parse`); a text that is not exactly one type is kept as it is written.
-/

namespace Gloss

open Gloss.Text

/-! ## Nodes -/

namespace Source

/-- What nodes of a syntax tree are, as far as types are told by them. -/
inductive SyntaxKind where
  | predefinedType
  | identifier
  | genericName
  | typeArgumentList
  | qualifiedName
  | aliasQualifiedName
  | arrayType
  | nullableType
  | variableDeclaration
  | comment
  /-- Anything else. -/
  | other
  deriving DecidableEq, Repr, Inhabited

/-- What a node can be to its parent. -/
inductive SyntaxField where
  | type
  | name
  deriving DecidableEq, Repr

/-- A node of a syntax tree. Brackets and the like are nodes without a name. -/
structure SyntaxNode where
  kind : SyntaxKind
  field : Option SyntaxField := none
  isNamed : Bool := true
  hasError : Bool := false
  text : List Char
  children : List SyntaxNode := []
  deriving Repr, Inhabited

namespace SyntaxNode

/-- The first child of a kind. -/
def childOfKind (kind : SyntaxKind) (node : SyntaxNode) : Option SyntaxNode :=
  node.children.find? fun child => decide (child.kind = kind)

/-- The child that is something to the node. -/
def childByField (field : SyntaxField) (node : SyntaxNode) : Option SyntaxNode :=
  node.children.find? fun child => decide (child.field = some field)

mutual

/-- The first node of a kind, in the order of the text and from outside in. -/
def findKind (kind : SyntaxKind) : SyntaxNode → Option SyntaxNode
  | ⟨kind', field, isNamed, hasError, text, children⟩ =>
    if kind' = kind then some ⟨kind', field, isNamed, hasError, text, children⟩
    else findKindIn kind children

/-- The first node of a kind in some nodes; those without a name are not looked into. -/
def findKindIn (kind : SyntaxKind) : List SyntaxNode → Option SyntaxNode
  | [] => none
  | node :: nodes =>
    if node.isNamed then (findKind kind node).or (findKindIn kind nodes)
    else findKindIn kind nodes

end

end SyntaxNode

end Source

open Source (SyntaxNode)

/-! ## Shapes -/

namespace TypeShape

/-- The words that name a type by themselves. -/
def keywordTypes : List String :=
  ["bool", "byte", "sbyte", "char", "decimal", "double", "float", "int", "uint", "long",
    "ulong", "short", "ushort", "object", "string", "void", "nint", "nuint", "dynamic"]

/-- The identifier that a word stands for: without the mark in front of it. -/
def identifierText (word : List Char) : String :=
  String.ofList (word.dropWhile (· == '@'))

end TypeShape

namespace Source.SyntaxNode

open TypeShape (keywordTypes identifierText)

/-- Whether a node is the type that its parent puts a mark behind. -/
def isElement (node : SyntaxNode) : Bool :=
  decide (node.field = some .type)

mutual

/-- The shape of a type. -/
def shape : SyntaxNode → TypeShape
  | ⟨kind, field, isNamed, hasError, text, children⟩ =>
    let node : SyntaxNode := ⟨kind, field, isNamed, hasError, text, children⟩
    let written := squeeze text
    if keywordTypes.contains (String.ofList written) then .primitive (String.ofList written)
    else
      match kind with
      | .predefinedType => .primitive (String.ofList written)
      | .identifier => .named (identifierText written)
      | .genericName =>
        match (node.childByField .name).or (node.childOfKind .identifier) with
        | some name => .generic (identifierText name.text) (argumentShapes children)
        | none => .other (String.ofList written)
      | .qualifiedName | .aliasQualifiedName => .qualified (String.ofList written)
      | .arrayType =>
        match (firstShape isElement children).or (firstShape (·.isNamed) children) with
        | some element => .array element
        | none => .other (String.ofList written)
      | .nullableType =>
        match (firstShape isElement children).or (firstShape (·.isNamed) children) with
        | some inner => .nullable inner
        | none => .other (String.ofList written)
      | .typeArgumentList | .variableDeclaration | .comment | .other =>
        .other (String.ofList written)

/-- The shape of the first node that passes a test. -/
def firstShape (test : SyntaxNode → Bool) : List SyntaxNode → Option TypeShape
  | [] => none
  | node :: nodes => if test node then some node.shape else firstShape test nodes

/-- The shapes of the type arguments among the children of a generic name. -/
def argumentShapes : List SyntaxNode → List TypeShape
  | [] => []
  | ⟨kind, _, _, _, _, children⟩ :: nodes =>
    if kind = .typeArgumentList then namedShapes children else argumentShapes nodes

/-- The shapes of the nodes with a name, but for comments. -/
def namedShapes : List SyntaxNode → List TypeShape
  | [] => []
  | node :: nodes =>
    if node.isNamed && node.kind != .comment then node.shape :: namedShapes nodes
    else namedShapes nodes

end

end Source.SyntaxNode

/-! ## Texts -/

namespace TypeShape

/-- A class with one field, of a type that is given. -/
def inField (written : List Char) : List Char :=
  "class __Type \x7b ".toList ++ written ++ " __value; \x7d".toList

/-- The node of a written type, with a parser for the class that it is put in. -/
def fieldType? (parser : List Char → Option SyntaxNode) (written : List Char) :
    Option SyntaxNode := do
  let root ← parser (inField written)
  let declaration ← root.findKind .variableDeclaration
  declaration.childByField .type

/-- The shape of a written type. A node that has an error in it, or spans another text, tells
nothing of the type. -/
def parse (parser : List Char → Option SyntaxNode) (text : String) : TypeShape :=
  let written := squeeze text.toList
  if written.isEmpty then .other (String.ofList written)
  else if keywordTypes.contains (String.ofList written) then .primitive (String.ofList written)
  else
    match (fieldType? parser written).filter fun node =>
      !node.hasError && squeeze node.text == written with
    | some node => node.shape
    | none => .other (String.ofList written)

end TypeShape

end Gloss
