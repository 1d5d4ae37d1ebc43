import Gloss.Source.Leading
import Gloss.Source.Node

/-!
# Collecting declarations

A walk over the syntax nodes of a source text, in order, that gives each
declaration its place, its leading trivia, its visibility and the type around
it. Members count only inside a type. A namespace opens a scope without a type
around it, a conditional block keeps the one it stands in.
-/

namespace Gloss.Source

open Gloss.Text

/-- The visibility of a declaration: what is written, or what C# takes for
granted at its place. -/
def resolveVisibility (access : List Visibility) (container : Option Container) : Visibility :=
  if access.contains .publicAccess then .publicAccess
  else if access.contains .privateAccess then .privateAccess
  else if access.contains .protectedAccess then .protectedAccess
  else if access.contains .internalAccess then .internalAccess
  else
    match container with
    | none => .internalAccess
    | some c => if c.kind = .interfaceType then .publicAccess else .privateAccess

/-- The type around the members of a declared type. Inside a type that hides its
members it hides its own. -/
def nestedContainer (header : Header) (container : Option Container) : Container where
  kind := header.kind
  name := header.name
  visibility :=
    if container.all Container.exposesMembers then resolveVisibility header.access container
    else .privateAccess

/-- The characters in front of a place on its line. -/
def linePrefix (before : List Char) : List Char :=
  (before.reverse.takeWhile (· != '\n')).reverse

/-- The declaration with a header at a place of a source text. -/
def declarationAt (source : List Char) (container : Option Container)
    (comments : List CommentSpan) (span : TextSpan) (header : Header) : Declaration :=
  let before := ((cut span.start source).map (·.1)).getD []
  let lead := linePrefix before
  { kind := header.kind
    name := header.name
    visibility := resolveVisibility header.access container
    modifiers := header.modifiers
    container := container
    parameters := header.parameters
    returnType := if header.kind = .method then header.valueType else none
    property := if header.kind = .property then
        header.valueType.map fun shape => ⟨shape, header.hasSetter⟩
      else none
    fieldType := if header.kind = .field then header.valueType else none
    leadingTrivia := leadingTrivia source span.leadingStart span.start comments
    sourceText := String.ofList (trimEnd ((slice span.start span.stop source).getD []))
    indent := if lead.all fun c => c == ' ' || c == '\t' then String.ofList lead else ""
    span := span
    line := before.count '\n' + 1
    column := lead.length + 1 }

/-- The places of the comments among the nodes of a scope that starts at `pos`. -/
def commentSpans (pos : Nat) : List Node → List CommentSpan
  | [] => []
  | node :: nodes =>
    match node with
    | .comment _ => ⟨pos, pos + node.width⟩ :: commentSpans (pos + node.width) nodes
    | _ => commentSpans (pos + node.width) nodes

mutual

/-- The declarations of the nodes of a scope from `pos` on; `lead` is the end of
the last node before them that is no trivia. -/
def collectNodes (source : List Char) (container : Option Container)
    (comments : List CommentSpan) (lead pos : Nat) : List Node → List Declaration
  | [] => []
  | node :: nodes =>
    if node.isTrivia then
      collectNodes source container comments lead (pos + node.width) nodes
    else
      collectNode source container comments lead pos node ++
        collectNodes source container comments (max lead (pos + node.width)) (pos + node.width)
          nodes

/-- The declarations of a node at `pos`, whose leading trivia starts at `lead`. -/
def collectNode (source : List Char) (container : Option Container)
    (comments : List CommentSpan) (lead pos : Nat) : Node → List Declaration
  | .scope .namespaceBlock children => collectBody source none pos children
  | .scope .fileNamespace children =>
    collectNodes source none (commentSpans pos children) pos pos children
  | .scope .conditional children =>
    collectNodes source container (commentSpans pos children) pos pos children
  | .scope (.declaration header) children =>
    let span : TextSpan := ⟨lead, pos, pos + byteLength (Node.textOfAll children)⟩
    if header.kind.isType then
      declarationAt source container comments span header ::
        if header.kind = .enumType then []
        else collectBody source (some (nestedContainer header container)) pos children
    else if container.isSome then [declarationAt source container comments span header]
    else []
  | _ => []

/-- The declarations in the body among the parts of a declaration that starts at
`pos`. -/
def collectBody (source : List Char) (container : Option Container) (pos : Nat) :
    List Node → List Declaration
  | [] => []
  | .scope .body children :: _ =>
    collectNodes source container (commentSpans pos children) pos pos children
  | node :: nodes => collectBody source container (pos + node.width) nodes

end

/-- The declarations of the nodes of a source text. -/
def collect (source : List Char) (nodes : List Node) : List Declaration :=
  collectNodes source none (commentSpans 0 nodes) 0 0 nodes

end Gloss.Source
