import Gloss.Declaration.Basic
import Gloss.Error
import Gloss.Log

/-!
# Which declarations need a comment

A declaration needs a comment if it can be seen from outside and has none that
documents it. A comment that does not read still counts if a documenting element
can be recovered from it.
-/

namespace Gloss

/-- What to look at. -/
structure ScanOptions where
  /-- Of the fields, only constants are looked at. -/
  constFieldsOnly : Bool := false
  deriving DecidableEq, Repr, Inhabited

namespace Declaration

/-- Whether the declaration stands in an interface. -/
def inInterface (d : Declaration) : Bool :=
  d.container.any fun container => container.kind == .interfaceType

/-- Whether the type around the declaration, if any, shows its members. -/
def containerExposes (d : Declaration) : Bool :=
  d.container.all Container.exposesMembers

/-- Whether a member can be seen from outside. -/
def memberVisible (d : Declaration) : Bool :=
  (d.visibility.isPublic || d.inInterface) && d.containerExposes

/-- Whether a declaration can be seen from outside and is looked at. -/
def isVisible (d : Declaration) (options : ScanOptions) : Bool :=
  match d.kind with
  | .interfaceType => true
  | .classType | .enumType => d.visibility.isPublic && d.containerExposes
  | .field => !(options.constFieldsOnly && !d.modifiers.isConst) && d.memberVisible
  | .constructor | .method | .property => d.memberVisible

/-- What is known of the comment that a declaration has. -/
inductive Documentation where
  | absent
  /-- It reads, and says whether it documents the declaration. -/
  | readable (documents : Bool)
  /-- It does not read, but a documenting element can be recovered. -/
  | recovered
  | malformed (fault : Comment.Fault)
  deriving DecidableEq, Repr

/-- What is known of the comment in front of a declaration. -/
def documentation (d : Declaration) : Documentation :=
  match d.existingComment with
  | .ok none => .absent
  | .ok (some comment) => .readable (comment.hasSummary || comment.hasInheritDoc)
  | .error fault =>
    if (Comment.recoverLines d.docLines).isSome then .recovered else .malformed fault

/-- Whether a declaration with such a comment still needs one. -/
def Documentation.isMissing : Documentation → Bool
  | absent => true
  | readable documents => !documents
  | recovered => false
  | malformed _ => true

/-- Whether a declaration needs a comment. -/
def shouldDocument (d : Declaration) (options : ScanOptions) : Bool :=
  d.isVisible options && d.documentation.isMissing

/-- What is logged when a declaration is looked at. -/
def scanLog (d : Declaration) (options : ScanOptions) : List Log.Entry :=
  if d.isVisible options then
    match d.documentation with
    | .recovered =>
      [⟨.debug, "malformed documentation comment holds a complete summary",
        [("name", d.name), ("line", toString d.line)]⟩]
    | .malformed fault =>
      [⟨.warn, "existing documentation comment is malformed, treating it as absent",
        [("name", d.name), ("kind", d.kind.label), ("line", toString d.line),
          ("error", (DocError.malformed fault).message)]⟩]
    | _ => []
  else []

end Declaration

end Gloss
