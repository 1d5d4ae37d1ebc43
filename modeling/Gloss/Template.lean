import Gloss.Declaration.Basic
import Gloss.Error
import Gloss.Phrase

/-!
# Templates

A template builds the comment of a declaration. There is one for each kind, and
a caller may put another in its place. A registry never gives out a comment that
is not well formed.
-/

namespace Gloss

/-- Builds the comment of a declaration. -/
abbrev Template : Type := Declaration → Except DocError Comment

namespace Template

/-- A comment with the descriptions of the parameters added. -/
def describeParameters (comment : Comment) (parameters : List Parameter) : Comment :=
  parameters.foldl (fun c p => c.withParam p.name (Phrase.parameter p.name p.shape)) comment

/-- The template of classes, enumerations and fields. -/
def common : Template := fun d => .ok (.ofSummary (Phrase.common d.name))

/-- The template of interfaces. -/
def interface : Template := fun d => .ok (.ofSummary (Phrase.interface d.name))

/-- The template of constructors. -/
def constructor : Template := fun d =>
  .ok (describeParameters
    (.ofSummary (Phrase.constructor d.ownerName (d.visibility == .privateAccess))) d.parameters)

/-- The template of properties. -/
def property : Template := fun d =>
  match d.property with
  | some info => .ok (.ofSummary (Phrase.property d.name info.shape.isBoolean info.hasSetter))
  | none => .ok (.ofSummary (Phrase.property d.name false false))

/-- The template of methods. -/
def method : Template := fun d =>
  let described := describeParameters (.ofSummary (Phrase.method d.name)) d.parameters
  match d.returnType with
  | none => .ok described
  | some shape =>
    match Phrase.returns shape with
    | .error e => .error (.ofUndescribed e)
    | .ok none => .ok described
    | .ok (some text) => .ok (described.withReturns text)

/-- The built-in template of each kind. -/
def builtIn : Declaration.Kind → Template
  | .classType | .enumType | .field => common
  | .interfaceType => interface
  | .constructor => constructor
  | .method => method
  | .property => property

end Template

/-- The templates in use, one for each kind. -/
structure Registry where
  template : Declaration.Kind → Template := Template.builtIn

namespace Registry

/-- Puts a template in the place of the one for a kind. -/
def register (registry : Registry) (kind : Declaration.Kind) (template : Template) : Registry where
  template := fun k => if k = kind then template else registry.template k

/-- Builds the comment of a declaration and checks it. -/
def build (registry : Registry) (d : Declaration) : Except DocError Comment :=
  match registry.template d.kind d with
  | .error e => .error e
  | .ok comment =>
    match comment.validate with
    | .error fault => .error (.malformed fault)
    | .ok () => .ok comment

end Registry

end Gloss
