import Gloss.Source.TokenTree
import Gloss.TypeShape.Syntax

/-!
# Reading types

The node of a type is read from the lexemes of a source text (`typeFrom`): a name with
its qualifiers and type arguments, a tuple, a reference or a function pointer, then
any number of array, nullable and pointer marks. Nodes without a name are left out.
`read` takes a text that must be one complete type; any other text is kept as it is
written.
-/

namespace Gloss.TypeShape

open Gloss.Source Gloss.Text

/-! ## Words -/

/-- The words that name a type by themselves, but are names elsewhere. -/
def contextualTypes : List String :=
  ["nint", "nuint", "dynamic"]

/-- The words that cannot be the name of a type, because something else starts with
them where a type may stand. Any other keyword is read as a name there. -/
def reservedWords : List String :=
  ["abstract", "async", "class", "const", "delegate", "enum", "event", "explicit", "extern",
    "fixed", "implicit", "interface", "internal", "namespace", "new", "override", "partial",
    "private", "protected", "public", "readonly", "record", "ref", "required", "sealed",
    "static", "struct", "unsafe", "using", "virtual", "volatile"]

/-- The words that start something else where the name of a member may stand. -/
def memberWords : List String :=
  ["this", "operator"]

/-- Whether a lexeme is a keyword that names a type. -/
def isKeywordType (l : Lexeme) : Bool :=
  l.kind == .word && keywordTypes.contains (String.ofList l.text) &&
    !contextualTypes.contains (String.ofList l.text)

/-- Whether a lexeme can name a type. -/
def isIdentifier (l : Lexeme) : Bool :=
  l.kind == .word && !isKeywordType l && !reservedWords.contains (String.ofList l.text)

/-! ## Lexemes -/

/-- The lexemes from the first that is no trivia. -/
def significant (ls : List Lexeme) : List Lexeme :=
  ls.dropWhile Lexeme.isTrivia

/-- The lexemes behind a symbol, if it comes first. -/
def behindSymbol? (symbol : String) (ls : List Lexeme) : Option (List Lexeme) :=
  match significant ls with
  | l :: rest => if l.isSymbol symbol then some rest else none
  | [] => none

/-- A name and the lexemes behind it, if it comes first where only a name may stand:
a keyword is a name there too. -/
def identifier? (ls : List Lexeme) : Option (List Char × List Lexeme) :=
  match significant ls with
  | l :: rest =>
    if l.kind == .word && !memberWords.any l.isWord then some (l.text, rest) else none
  | [] => none

/-- The lexemes up to the bracket that closes the one before them, and those
behind it; `depth` counts the brackets that are open inside. -/
def insideGroup (depth : Nat) : List Lexeme → Option (List Lexeme × List Lexeme)
  | [] => none
  | l :: ls =>
    let keep := fun (inside, rest) => (l :: inside, rest)
    match l.role with
    | .opens _ => (insideGroup (depth + 1) ls).map keep
    | .closes _ =>
      match depth with
      | 0 => some ([], ls)
      | depth + 1 => (insideGroup depth ls).map keep
    | _ => (insideGroup depth ls).map keep

/-- The lexemes behind the angle bracket that closes the one before them. -/
def behindAngles (depth : Nat) : List Lexeme → Option (List Lexeme)
  | [] => none
  | l :: ls =>
    if l.isSymbol "<" then behindAngles (depth + 1) ls
    else if l.isSymbol ">" then
      match depth with
      | 0 => some ls
      | depth + 1 => behindAngles depth ls
    else behindAngles depth ls

/-- The text between two points of a list of lexemes; `rest` is an end of `start`. -/
def between (start rest : List Lexeme) : List Char :=
  lexemesText (start.take (start.length - rest.length))

/-! ## Nodes -/

/-- The node of a name. In place of a type, `var` names none. -/
def nameNode (word : List Char) : SyntaxNode :=
  ⟨if String.ofList word == "var" then .other else .identifier, none, true, false, word, []⟩

/-- A node that is not looked into. -/
def plainNode (kind : SyntaxKind) (text : List Char) : SyntaxNode :=
  ⟨kind, none, true, false, text, []⟩

/-- The node of a name with type arguments behind it. -/
def genericNode (name text : List Char) (args : SyntaxNode) : SyntaxNode :=
  ⟨.genericName, none, true, false, text, [plainNode .identifier name, args]⟩

/-- The node of a type with a mark behind it. -/
def markedNode (kind : SyntaxKind) (mark : List Char) (node : SyntaxNode) : SyntaxNode :=
  ⟨kind, none, true, false, node.text ++ mark, [{ node with field := some .type }]⟩

/-! ## Types -/

/-- The lexemes behind the commas and the closing bracket of arguments that are
left out. -/
def unboundArguments (ls : List Lexeme) : Option (List Lexeme) :=
  behindSymbol? ">" (ls.dropWhile fun l => l.isTrivia || l.isSymbol ",")

/-- The array, nullable and pointer marks behind a type. Nothing is nullable twice. -/
def marksFrom : Nat → SyntaxNode → List Lexeme → SyntaxNode × List Lexeme
  | 0, node, rest => (node, rest)
  | fuel + 1, node, rest =>
    match significant rest with
    | [] => (node, rest)
    | l :: more =>
      if l.isSymbol "[" then
        match insideGroup 0 more with
        | some (_, behind) =>
          marksFrom fuel (markedNode .arrayType (between rest behind) node) behind
        | none => (node, rest)
      else if l.isSymbol "*" then marksFrom fuel (markedNode .other (between rest more) node) more
      else if l.isSymbol "?" && node.kind != .nullableType then
        marksFrom fuel (markedNode .nullableType (between rest more) node) more
      else (node, rest)

/-- The lexemes behind a function pointer whose `delegate` has been read. -/
def functionPointerFrom (ls : List Lexeme) : Option (List Lexeme) := do
  let behind ← behindSymbol? "*" ls
  let bracket := behind.dropWhile fun l => !l.isSymbol "<"
  behindAngles 0 (bracket.drop 1)

mutual

/-- A type at the start of some lexemes, and the lexemes behind it. -/
def typeFrom : Nat → List Lexeme → Option (SyntaxNode × List Lexeme)
  | 0, _ => none
  | fuel + 1, ls => do
    let (node, rest) ← baseFrom fuel (significant ls)
    return marksFrom rest.length node rest

/-- A type without marks behind it. Two colons may stand only behind the first
name. -/
def baseFrom : Nat → List Lexeme → Option (SyntaxNode × List Lexeme)
  | 0, _ => none
  | _ + 1, [] => none
  | fuel + 1, l :: rest =>
    if l.isSymbol "(" then do
      let (inside, behind) ← insideGroup 0 rest
      let elements ← elementsFrom fuel inside
      if elements < 2 then none else return (plainNode .other (between (l :: rest) behind), behind)
    else if l.isWord "ref" then do
      let target := match significant rest with
        | m :: more => if m.isWord "readonly" then more else rest
        | [] => rest
      let (_, behind) ← typeFrom fuel target
      return (plainNode .other (between (l :: rest) behind), behind)
    else if l.isWord "delegate" then do
      let behind ← functionPointerFrom rest
      return (plainNode .other (between (l :: rest) behind), behind)
    else if isKeywordType l then some (plainNode .predefinedType l.text, rest)
    else if isIdentifier l then
      match behindSymbol? "::" rest with
      | some more => do
        let (_, behind) ← identifier? more
        let (_, behind) ← argumentsFrom fuel behind
        qualifiersFrom fuel (plainNode .aliasQualifiedName (between (l :: rest) behind)) behind
      | none => do
        let (args, behind) ← argumentsFrom fuel rest
        qualifiersFrom fuel
          (match args with
            | some args => genericNode l.text (between (l :: rest) behind) args
            | none => nameNode l.text)
          behind
    else none

/-- The qualified parts behind a name. -/
def qualifiersFrom : Nat → SyntaxNode → List Lexeme → Option (SyntaxNode × List Lexeme)
  | 0, _, _ => none
  | fuel + 1, node, rest =>
    match behindSymbol? "." rest with
    | none => some (node, rest)
    | some more => do
      let (_, behind) ← identifier? more
      let (_, behind) ← argumentsFrom fuel behind
      qualifiersFrom fuel (plainNode .qualifiedName (node.text ++ between rest behind)) behind

/-- The type arguments at the start of some lexemes, if there are any. -/
def argumentsFrom : Nat → List Lexeme → Option (Option SyntaxNode × List Lexeme)
  | 0, _ => none
  | fuel + 1, ls =>
    match behindSymbol? "<" ls with
    | none => some (none, ls)
    | some inside =>
      match unboundArguments inside with
      | some behind => some (some (plainNode .typeArgumentList (between ls behind)), behind)
      | none =>
        (argumentListFrom fuel inside).map fun (args, behind) =>
          (some { plainNode .typeArgumentList (between ls behind) with children := args }, behind)

/-- Type arguments up to the closing bracket. -/
def argumentListFrom : Nat → List Lexeme → Option (List SyntaxNode × List Lexeme)
  | 0, _ => none
  | fuel + 1, ls => do
    let (node, rest) ← typeFrom fuel ls
    match behindSymbol? ">" rest with
    | some behind => return ([node], behind)
    | none => do
      let more ← behindSymbol? "," rest
      let (nodes, behind) ← argumentListFrom fuel more
      return (node :: nodes, behind)

/-- How many elements a tuple has, each a type that may have a name. -/
def elementsFrom : Nat → List Lexeme → Option Nat
  | 0, _ => none
  | fuel + 1, ls => do
    let (_, rest) ← typeFrom fuel ls
    let rest := match identifier? rest with
      | some (_, behind) => behind
      | none => rest
    match significant rest with
    | [] => return 1
    | _ :: _ => do
      let more ← behindSymbol? "," rest
      let elements ← elementsFrom fuel more
      return elements + 1

end

/-- The node of a type at the start of some lexemes, and the lexemes behind it. Reading
takes at most four steps for each lexeme. -/
def nodeOfLexemes? (ls : List Lexeme) : Option (SyntaxNode × List Lexeme) :=
  typeFrom (4 * ls.length + 4) ls

/-- The shape of a type at the start of some lexemes, and the lexemes behind it. -/
def ofLexemes? (ls : List Lexeme) : Option (TypeShape × List Lexeme) :=
  (nodeOfLexemes? ls).map fun (node, rest) => (node.shape, rest)

/-- The lexemes behind a word, if it comes first. -/
def behindWord? (word : String) (ls : List Lexeme) : Option (List Lexeme) :=
  match significant ls with
  | l :: rest => if l.isWord word then some rest else none
  | [] => none

/-- The tree of a class with one field and nothing else, with the nodes that the type of
the field is found by. -/
def fieldTree? (cs : List Char) : Option SyntaxNode := do
  let (_, rest) ← identifier? (← behindWord? "class" (lexemes cs))
  let start ← behindSymbol? "\x7b" rest
  let (type, rest) ← nodeOfLexemes? start
  let (name, behind) ← identifier? rest
  let rest ← behindSymbol? "\x7d" (← behindSymbol? ";" behind)
  if rest.isEmpty then
    return ⟨.other, none, true, false, cs,
      [⟨.variableDeclaration, none, true, false, between (significant start) behind,
        [{ type with field := some .type }, plainNode .other name]⟩]⟩
  else none

/-- The shape of a written type. -/
def read (text : String) : TypeShape :=
  parse fieldTree? text

end Gloss.TypeShape
