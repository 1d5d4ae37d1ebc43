import Gloss.Comment.Read
import Gloss.Trivia
import Gloss.TypeShape.Basic

/-!
# Declarations

A declaration of a C# source text with all that documenting it needs: what it
declares, where it stands, and the trivia in front of it.
-/

namespace Gloss

/-- What a declaration declares. Structures and records count as classes. -/
inductive Declaration.Kind where
  | classType
  | interfaceType
  | enumType
  | constructor
  | method
  | property
  | field
  deriving DecidableEq, Repr, Inhabited

namespace Declaration.Kind

/-- The word for a kind. -/
def label : Kind → String
  | classType => "class"
  | interfaceType => "interface"
  | enumType => "enum"
  | constructor => "constructor"
  | method => "method"
  | property => "property"
  | field => "field"

/-- All kinds. -/
def all : List Kind :=
  [classType, interfaceType, enumType, constructor, method, property, field]

/-- Whether the kind declares a type. -/
def isType : Kind → Bool
  | classType | interfaceType | enumType => true
  | _ => false

end Declaration.Kind

/-- Who may use a declaration. -/
inductive Visibility where
  | publicAccess
  | privateAccess
  | internalAccess
  | protectedAccess
  deriving DecidableEq, Repr, Inhabited

namespace Visibility

/-- The word for a visibility. -/
def label : Visibility → String
  | publicAccess => "public"
  | privateAccess => "private"
  | internalAccess => "internal"
  | protectedAccess => "protected"

/-- Whether everyone may use the declaration. -/
def isPublic : Visibility → Bool
  | publicAccess => true
  | _ => false

end Visibility

/-- The modifiers that matter beside the visibility. -/
structure Modifiers where
  isConst : Bool := false
  isStatic : Bool := false
  isReadonly : Bool := false
  isAbstract : Bool := false
  deriving DecidableEq, Repr, Inhabited

/-- The type a declaration stands in. -/
structure Container where
  kind : Declaration.Kind
  name : String
  visibility : Visibility
  deriving DecidableEq, Repr, Inhabited

/-- Whether public members of the type can be seen from outside. -/
def Container.exposesMembers (container : Container) : Bool :=
  container.visibility.isPublic || container.kind == .interfaceType

/-- A parameter of a method or constructor. -/
structure Parameter where
  name : String
  shape : TypeShape
  deriving Repr, Inhabited

/-- What is known of a property. -/
structure PropertyInfo where
  shape : TypeShape
  hasSetter : Bool
  deriving Repr, Inhabited

/-- Where a declaration stands, in bytes: its leading trivia runs from
`leadingStart` to `start`, its own text from `start` to `stop`. -/
structure TextSpan where
  leadingStart : Nat := 0
  start : Nat := 0
  stop : Nat := 0
  deriving DecidableEq, Repr, Inhabited

/-- A declaration. -/
structure Declaration where
  kind : Declaration.Kind
  name : String
  visibility : Visibility := .publicAccess
  modifiers : Modifiers := {}
  container : Option Container := none
  parameters : List Parameter := []
  returnType : Option TypeShape := none
  property : Option PropertyInfo := none
  fieldType : Option TypeShape := none
  leadingTrivia : List Trivia := []
  sourceText : String := ""
  /-- The blanks in front of the declaration on its line. -/
  indent : String := ""
  span : TextSpan := {}
  line : Nat := 0
  column : Nat := 0
  deriving Repr, Inhabited

namespace Declaration

/-- The documentation lines in front of a declaration. -/
def docLines (d : Declaration) : List String :=
  d.leadingTrivia.filterMap fun
    | .docComment line => some line
    | _ => none

/-- The comment that a declaration has, if it has documentation lines. -/
def existingComment (d : Declaration) : Except Comment.Fault (Option Comment) :=
  if d.docLines.isEmpty then .ok none else (Comment.readLines d.docLines).map some

/-- Whether there is a result to describe. -/
def returnsValue (d : Declaration) : Bool :=
  d.returnType.any fun shape => !shape.isVoid

/-- The name of the type that a constructor builds; other declarations have
their own. -/
def ownerName (d : Declaration) : String :=
  match d.kind, d.container with
  | .constructor, some container => container.name
  | _, _ => d.name

end Declaration

/-- Whether a comment describes exactly the parameters of a declaration, in
order, and its result if there is one. -/
def Comment.conformsTo (comment : Comment) (d : Declaration) : Bool :=
  comment.params.map (·.1) == d.parameters.map (·.name) &&
    comment.returns?.isSome == d.returnsValue

end Gloss
