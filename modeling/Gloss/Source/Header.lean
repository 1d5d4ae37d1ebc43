import Gloss.Declaration.Basic
import Gloss.TypeShape.Read

/-!
# Headers of declarations

What the trees of a declaration say in front of its body: its kind, name,
modifiers, parameters and type. Attributes in front are skipped. What is no
declaration that gets a comment (a directive for the compiler, an event, an
operator, a statement) has the heading `other`.
-/

namespace Gloss.Source

open Gloss.Text Gloss.TypeShape

/-- What a declaration says of itself. -/
structure Header where
  kind : Declaration.Kind
  name : String
  /-- The visibilities written in front of it. -/
  access : List Visibility := []
  modifiers : Modifiers := {}
  parameters : List Parameter := []
  /-- The type of the result, the property or the field. -/
  valueType : Option TypeShape := none
  hasSetter : Bool := false
  deriving Repr, Inhabited

/-- What a list of trees starts. -/
inductive Heading where
  | namespaceBlock
  | declaration (header : Header)
  | other
  deriving Repr, Inhabited

/-! ## Modifiers -/

/-- The words that may stand in front of a declaration. -/
def modifierWords : List String :=
  ["abstract", "async", "const", "extern", "file", "fixed", "internal", "new", "override",
    "partial", "private", "protected", "public", "readonly", "required", "sealed", "static",
    "unsafe", "virtual", "volatile"]

/-- The visibility that a word gives. -/
def accessOfWord : String → Option Visibility
  | "public" => some .publicAccess
  | "private" => some .privateAccess
  | "protected" => some .protectedAccess
  | "internal" => some .internalAccess
  | _ => none

/-- The lexemes that are no trivia. -/
def withoutTrivia (ls : List Lexeme) : List Lexeme :=
  ls.filter fun l => !l.isTrivia

/-- Whether a lexeme is a modifier. -/
def isModifier (l : Lexeme) : Bool :=
  l.kind == .word && modifierWords.contains (String.ofList l.text)

/-- The modifiers at the start of some lexemes, and the lexemes behind them. -/
def splitModifiers (ls : List Lexeme) : List String × List Lexeme :=
  let isLeading := fun (l : Lexeme) => l.isTrivia || isModifier l
  ((withoutTrivia (ls.takeWhile isLeading)).map fun l => String.ofList l.text,
    ls.dropWhile isLeading)

/-- The modifiers that matter beside the visibility. -/
def modifiersOfWords (words : List String) : Modifiers where
  isConst := words.contains "const"
  isStatic := words.contains "static"
  isReadonly := words.contains "readonly"
  isAbstract := words.contains "abstract"

/-! ## Parameters -/

/-- The lexemes between the commas of a list. Commas inside brackets do not count;
angle brackets are brackets up to the default value of a parameter. -/
def splitCommas (depth : Nat) (inDefault : Bool) (current : List Lexeme) :
    List Lexeme → List (List Lexeme)
  | [] => [current.reverse]
  | l :: ls =>
    if depth = 0 ∧ l.isSymbol "," then current.reverse :: splitCommas 0 false [] ls
    else
      let inDefault := inDefault || (depth == 0 && l.isSymbol "=")
      let depth := match l.role with
        | .opens _ => depth + 1
        | .closes _ => depth - 1
        | _ =>
          if inDefault then depth
          else if l.isSymbol "<" then depth + 1
          else if l.isSymbol ">" then depth - 1
          else depth
      splitCommas depth inDefault (l :: current) ls

/-- The words that may stand in front of the type of a parameter. -/
def parameterWords : List String := ["ref", "out", "in", "this", "scoped", "readonly"]

/-- The lexemes behind the attributes at the start of some lexemes. -/
def behindAttributes : Nat → List Lexeme → List Lexeme
  | 0, ls => ls
  | fuel + 1, ls =>
    match behindSymbol? "[" ls with
    | none => ls
    | some inside =>
      match insideGroup 0 inside with
      | some (_, behind) => behindAttributes fuel behind
      | none => ls

/-- The parameter in the lexemes between two commas. One that takes the remaining
arguments is not told. -/
def parameterOf (ls : List Lexeme) : Option Parameter := do
  let rest := (behindAttributes ls.length ls).dropWhile fun l =>
    l.isTrivia || (l.kind == .word && parameterWords.contains (String.ofList l.text))
  if rest.head?.any (·.isWord "params") then none
  let (shape, rest) ← ofLexemes? rest
  let (name, _) ← identifier? rest
  return ⟨identifierText name, shape⟩

/-- The parameters of a list without its brackets. -/
def parametersOf (inside : List Lexeme) : List Parameter :=
  (splitCommas 0 false [] inside).filterMap parameterOf

/-! ## Accessors -/

/-- The words of the accessors of a property, up to their bodies. -/
def accessorWords (words : List String) (inBody : Bool) : List TokenTree → List (List String)
  | [] => []
  | .leaf l :: trees =>
    if l.isSymbol ";" then words.reverse :: accessorWords [] false trees
    else if l.isSymbol "=>" then accessorWords words true trees
    else if l.kind == .word && !inBody then
      accessorWords (String.ofList l.text :: words) inBody trees
    else accessorWords words inBody trees
  | .group .curly _ _ _ :: trees =>
    if inBody then accessorWords words inBody trees
    else words.reverse :: accessorWords [] false trees
  | .group _ _ _ _ :: trees => accessorWords words inBody trees

/-- Whether one of the accessors sets the property for users of the type. -/
def accessibleSetter (trees : List TokenTree) : Bool :=
  (accessorWords [] false trees).any fun words =>
    words.contains "set" && !words.contains "private" && !words.contains "internal"

/-- The accessors in the first curly group of a declaration. -/
def accessorTrees : List TokenTree → List TokenTree
  | [] => []
  | .group .curly _ children _ :: _ => children
  | .leaf l :: trees => if l.isSymbol "=>" || l.isSymbol "=" then [] else accessorTrees trees
  | _ :: trees => accessorTrees trees

/-! ## Headings -/

/-- The name in front of the parameters, body or value of a member, with the
lexemes behind it and its type parameters: the last of the parts that a
qualified name has. -/
def memberName : Nat → List Lexeme → Option (List Char × List Lexeme)
  | 0, _ => none
  | fuel + 1, ls => do
    let (name, rest) ← identifier? ls
    let rest ← match behindSymbol? "<" rest with
      | some inside => behindAngles 0 inside
      | none => some rest
    match behindSymbol? "." rest with
    | some more => memberName fuel more
    | none => return (name, rest)

/-- The header of a member that has a type, by what follows its name. -/
def typedMember (trees : List TokenTree) (header : Header) (shape : TypeShape)
    (rest : List Lexeme) : Heading :=
  match memberName rest.length rest with
  | none => .other
  | some (name, behind) =>
    let header := { header with name := identifierText name, valueType := some shape }
    match significant behind with
    | [] => .other
    | l :: more =>
      if l.isSymbol "(" then
        match insideGroup 0 more with
        | some (inside, _) =>
          .declaration { header with kind := .method, parameters := parametersOf inside }
        | none => .other
      else if l.isSymbol "\x7b" || l.isSymbol "=>" then
        .declaration
          { header with kind := .property, hasSetter := accessibleSetter (accessorTrees trees) }
      else if l.isSymbol "=" || l.isSymbol ";" || l.isSymbol "," || l.isSymbol "[" then
        .declaration { header with kind := .field }
      else .other

/-- The header of a constructor, or of a member that has a type. -/
def memberHeading (trees : List TokenTree) (header : Header) (rest : List Lexeme) : Heading :=
  let constructor := do
    let (name, behind) ← identifier? rest
    if !(significant rest).head?.any isIdentifier then none
    let list ← behindSymbol? "(" behind
    let (inside, _) ← insideGroup 0 list
    return { header with
      kind := .constructor, name := identifierText name, parameters := parametersOf inside }
  match constructor with
  | some header => .declaration header
  | none =>
    match ofLexemes? rest with
    | some (shape, behind) => typedMember trees header shape behind
    | none => .other

/-- The heading of a type whose keyword has been read. -/
def typeHeading (header : Header) (kind : Declaration.Kind) (rest : List Lexeme) : Heading :=
  match identifier? rest with
  | some (name, _) => .declaration { header with kind := kind, name := identifierText name }
  | none => .other

/-- The lexemes behind one of some words, if it comes first. -/
def skipWords (words : List String) (ls : List Lexeme) : List Lexeme :=
  match significant ls with
  | l :: rest => if words.any l.isWord then rest else ls
  | [] => ls

/-- The heading of a list of trees. -/
def headingOf (trees : List TokenTree) : Heading :=
  let ls := TokenTree.lexemesOfAll trees
  let (words, rest) := splitModifiers (behindAttributes ls.length ls)
  let header : Header :=
    { kind := .field, name := "", access := words.filterMap accessOfWord
      modifiers := modifiersOfWords words }
  match significant rest with
  | [] => .other
  | l :: more =>
    if l.isWord "namespace" then .namespaceBlock
    else if l.isWord "class" || l.isWord "struct" then typeHeading header .classType more
    else if l.isWord "interface" then typeHeading header .interfaceType more
    else if l.isWord "enum" then typeHeading header .enumType more
    else if l.isWord "record" then
      typeHeading header .classType (skipWords ["class", "struct"] more)
    else
      let behindRef := skipWords ["partial"] more
      if l.isWord "ref" && (significant behindRef).head?.any (·.isWord "struct") then
        typeHeading header .classType (skipWords ["struct"] behindRef)
      else memberHeading trees header (l :: more)

end Gloss.Source
