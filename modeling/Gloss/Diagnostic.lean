import Gloss.Declaration.Basic

/-!
# Diagnostics

What is reported of a declaration without a comment.
-/

namespace Gloss

/-- The identifier under which a missing comment is reported. -/
def Declaration.Kind.diagnosticId : Declaration.Kind → String
  | classType => "ClassDocumentationHeader"
  | interfaceType => "InterfaceDocumentationHeader"
  | enumType => "EnumDocumentationHeader"
  | constructor => "ConstructorDocumentationHeader"
  | method => "MethodDocumentationHeader"
  | property => "PropertyDocumentationHeader"
  | field => "ConstFieldDocumentationHeader"

/-- The title of the fix for a missing comment. -/
def Declaration.Kind.fixTitle (kind : Declaration.Kind) : String :=
  "Add documentation header to this " ++ kind.label

/-- A missing comment. -/
structure Diagnostic where
  id : String
  category : String
  kind : Declaration.Kind
  name : String
  line : Nat
  column : Nat
  message : String
  deriving DecidableEq, Repr, Inhabited

/-- The category of all diagnostics. -/
def Diagnostic.documentationCategory : String := "DocumentationComment"

/-- The diagnostic of a declaration without a comment. -/
def Diagnostic.ofDeclaration (d : Declaration) : Diagnostic :=
  let label := if d.kind == .field && d.modifiers.isConst then "const field" else d.kind.label
  { id := d.kind.diagnosticId
    category := documentationCategory
    kind := d.kind
    name := d.name
    line := d.line
    column := d.column
    message := "This " ++ label ++ " should have a documentation header." }

end Gloss
