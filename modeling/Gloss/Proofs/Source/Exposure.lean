import Gloss.Scan
import Gloss.Source.Collect
import Mathlib.Data.List.Forall2

/-!
# Which declarations can be seen from outside

A type shows its members to the outside if it is an interface, or if it is public and the
type around it does (`Exposed`). The walk over the nodes does not keep the types around a
declaration: it hands down one container, whose visibility is lowered where a type around
it hides its members. `Reflects` says that this container answers for all the types
around it. It holds where the walk starts and is kept at each type that the walk enters
(`Reflects.nested`), so that at any depth the test of a declaration is about all the types
around it: `isVisible_collect`.
-/

namespace Gloss.Source

/-! ## Places of declarations -/

/-- A declaration and the types around it, the innermost first. -/
structure Place where
  header : Header
  types : List Header

mutual

/-- The declarations of the nodes of a scope that stands in some types. -/
def placesOfAll (types : List Header) : List Node → List Place
  | [] => []
  | node :: nodes => places types node ++ placesOfAll types nodes

/-- The declarations of a node. A namespace stands in no type, a member in one at least, and
an enumeration has no members that are declarations. -/
def places (types : List Header) : Node → List Place
  | .scope .namespaceBlock children => placesInBody [] children
  | .scope .fileNamespace children => placesOfAll [] children
  | .scope .conditional children => placesOfAll types children
  | .scope (.declaration header) children =>
    if header.kind.isType then
      ⟨header, types⟩ ::
        if header.kind = .enumType then [] else placesInBody (header :: types) children
    else if types.isEmpty then []
    else [⟨header, types⟩]
  | _ => []

/-- The declarations in the body among the parts of a declaration. -/
def placesInBody (types : List Header) : List Node → List Place
  | [] => []
  | .scope .body children :: _ => placesOfAll types children
  | _ :: nodes => placesInBody types nodes

end

theorem places_of_isTrivia (types : List Header) {node : Node} (h : node.isTrivia = true) :
    places types node = [] := by
  cases node with
  | scope => cases h
  | blank | comment | directive | token => rfl

/-! ## What can be seen -/

/-- The innermost type is an interface. -/
def InInterface (types : List Header) : Prop :=
  ∃ t ∈ types.head?, t.kind = .interfaceType

/-- A declaration is public if it says so. If it says nothing, only a member of an interface
is. -/
def IsPublic (types : List Header) (header : Header) : Prop :=
  .publicAccess ∈ header.access ∨ header.access = [] ∧ InInterface types

/-- The innermost of some types shows its members to the outside; where there is no type,
nothing is hidden. -/
def Exposed : List Header → Prop
  | [] => True
  | t :: outer => t.kind = .interfaceType ∨ IsPublic outer t ∧ Exposed outer

/-- The declarations that are looked at: all interfaces, the public classes and enumerations
of what is exposed, and the members of an exposed type that are public or that an interface
declares, of the fields possibly only the constants. -/
def Place.IsShown (options : ScanOptions) (place : Place) : Prop :=
  place.header.kind = .interfaceType ∨
    (place.header.kind = .classType ∨ place.header.kind = .enumType) ∧
      IsPublic place.types place.header ∧ Exposed place.types ∨
    place.header.kind ∈ [.constructor, .method, .property, .field] ∧
      (IsPublic place.types place.header ∨ InInterface place.types) ∧
      place.types ≠ [] ∧ Exposed place.types ∧
      (place.header.kind = .field → options.constFieldsOnly = true →
        place.header.modifiers.isConst = true)

/-! ## One container for all types around -/

/-- The container that is handed down tells what the types around a declaration amount to. -/
inductive Reflects : List Header → Option Container → Prop where
  | outside : Reflects [] none
  | inside {t : Header} {outer : List Header} {container : Container}
      (hkind : container.kind = t.kind) (hname : container.name = t.name)
      (hexposed : container.exposesMembers = true ↔ Exposed (t :: outer)) :
      Reflects (t :: outer) (some container)

section

variable {types : List Header} {container : Option Container}

theorem Reflects.isSome (h : Reflects types container) : container.isSome = !types.isEmpty := by
  cases h <;> rfl

theorem Reflects.exposes (h : Reflects types container) :
    container.all Container.exposesMembers = true ↔ Exposed types := by
  cases h with
  | outside => simp [Exposed]
  | inside _ _ hexposed => simpa using hexposed

theorem Reflects.inInterface (h : Reflects types container) :
    container.any (fun c => c.kind == .interfaceType) = true ↔ InInterface types := by
  cases h with
  | outside => simp [InInterface]
  | inside hkind => simp [InInterface, hkind]

/-- The visibility that is resolved is the one that is written, or the default. -/
theorem Reflects.isPublic (h : Reflects types container) (header : Header) :
    (resolveVisibility header.access container).isPublic = true ↔ IsPublic types header := by
  rw [IsPublic, ← h.inInterface]
  generalize header.access = access
  cases access with
  | nil =>
    cases container with
    | none => simp [resolveVisibility, Visibility.isPublic]
    | some c =>
      by_cases hkind : c.kind = .interfaceType <;>
        simp [resolveVisibility, Visibility.isPublic, hkind]
  | cons v access =>
    by_cases hpublic : .publicAccess ∈ v :: access
    · simp [resolveVisibility, hpublic, Visibility.isPublic]
    · -- One of the other words is written, so the default does not count.
      have hnot : (resolveVisibility (v :: access) container).isPublic = false := by
        unfold resolveVisibility
        rw [if_neg (by simpa using hpublic)]
        split
        · rfl
        split
        · rfl
        split
        · rfl
        · cases v <;> simp_all
      simp [hnot, hpublic]

/-- A type that is entered is reflected by its container if the types around it are. -/
theorem Reflects.nested (h : Reflects types container) (header : Header) :
    Reflects (header :: types) (some (nestedContainer header container)) := by
  refine .inside rfl rfl ?_
  rw [Container.exposesMembers, nestedContainer, Bool.or_eq_true, beq_iff_eq, Exposed,
    ← h.exposes, ← h.isPublic header]
  split
  · rename_i hall
    simp [hall, or_comm]
  · rename_i hall
    simp [hall, Visibility.isPublic]

end

/-! ## The walk -/

/-- The test of a declaration at a place is about all the types around it. -/
theorem isVisible_declarationAt {types : List Header} {container : Option Container}
    (h : Reflects types container) {header : Header}
    (hmember : header.kind.isType = true ∨ types ≠ []) (source : List Char)
    (comments : List CommentSpan) (span : TextSpan) (options : ScanOptions) :
    (declarationAt source container comments span header).isVisible options = true ↔
      Place.IsShown options ⟨header, types⟩ := by
  have hvisible : (declarationAt source container comments span header).visibility.isPublic =
      true ↔ IsPublic types header := h.isPublic header
  have hexposes : (declarationAt source container comments span header).containerExposes =
      true ↔ Exposed types := h.exposes
  have hinside : (declarationAt source container comments span header).inInterface =
      true ↔ InInterface types := h.inInterface
  have hkind : (declarationAt source container comments span header).kind = header.kind := rfl
  have hmodifiers : (declarationAt source container comments span header).modifiers =
      header.modifiers := rfl
  rw [Declaration.isVisible, hkind]
  cases hk : header.kind with
  | interfaceType => simp [Place.IsShown, hk]
  | classType | enumType =>
    simp [Place.IsShown, hk, hvisible, hexposes]
  | constructor | method | property =>
    have hne : types ≠ [] := hmember.resolve_left (by simp [hk, Declaration.Kind.isType])
    simp [Place.IsShown, hk, Declaration.memberVisible, hvisible, hexposes, hinside, hne]
  | field =>
    have hne : types ≠ [] := hmember.resolve_left (by simp [hk, Declaration.Kind.isType])
    have hconst : (!(options.constFieldsOnly && !header.modifiers.isConst)) = true ↔
        (options.constFieldsOnly = true → header.modifiers.isConst = true) := by
      cases options.constFieldsOnly <;> simp
    rw [Bool.and_eq_true, hmodifiers, hconst, and_comm]
    simp [Place.IsShown, hk, Declaration.memberVisible, hvisible, hexposes, hinside, hne, and_assoc]

/-- A declaration that is listed, and its place. -/
def ShowsAs (options : ScanOptions) (d : Declaration) (place : Place) : Prop :=
  d.kind = place.header.kind ∧ d.name = place.header.name ∧
    d.container.map (·.name) = place.types.head?.map (·.name) ∧
    (d.isVisible options = true ↔ place.IsShown options)

theorem showsAs_declarationAt {types : List Header} {container : Option Container}
    (h : Reflects types container) {header : Header}
    (hmember : header.kind.isType = true ∨ types ≠ []) (source : List Char)
    (comments : List CommentSpan) (span : TextSpan) (options : ScanOptions) :
    ShowsAs options (declarationAt source container comments span header) ⟨header, types⟩ := by
  refine ⟨rfl, rfl, ?_, isVisible_declarationAt h hmember source comments span options⟩
  cases h with
  | outside => rfl
  | inside _ hname => exact congrArg some hname

mutual

/-- The declarations of the nodes of a scope. -/
theorem showsAs_collectNodes (source : List Char) (options : ScanOptions) {types : List Header}
    {container : Option Container} (h : Reflects types container) (comments : List CommentSpan)
    (lead pos : Nat) :
    ∀ nodes : List Node,
      List.Forall₂ (ShowsAs options) (collectNodes source container comments lead pos nodes)
        (placesOfAll types nodes)
  | [] => by
    rw [collectNodes, placesOfAll]
    exact .nil
  | node :: nodes => by
    rw [collectNodes, placesOfAll]
    split
    · rename_i htrivia
      rw [places_of_isTrivia types htrivia, List.nil_append]
      exact showsAs_collectNodes source options h comments _ _ nodes
    · exact List.rel_append (showsAs_collectNode source options h comments lead pos node)
        (showsAs_collectNodes source options h comments _ _ nodes)

/-- The declarations of a node. -/
theorem showsAs_collectNode (source : List Char) (options : ScanOptions) {types : List Header}
    {container : Option Container} (h : Reflects types container) (comments : List CommentSpan)
    (lead pos : Nat) :
    ∀ node : Node,
      List.Forall₂ (ShowsAs options) (collectNode source container comments lead pos node)
        (places types node)
  | .scope .namespaceBlock children => by
    rw [collectNode, places]
    exact showsAs_collectBody source options .outside pos children
  | .scope .fileNamespace children => by
    rw [collectNode, places]
    exact showsAs_collectNodes source options .outside _ pos pos children
  | .scope .conditional children => by
    rw [collectNode, places]
    exact showsAs_collectNodes source options h _ pos pos children
  | .scope (.declaration header) children => by
    rw [collectNode, places]
    split
    · rename_i htype
      refine .cons (showsAs_declarationAt h (.inl htype) source comments _ options) ?_
      split
      · exact .nil
      · exact showsAs_collectBody source options (h.nested header) pos children
    · rw [h.isSome]
      cases types with
      | nil => exact .nil
      | cons t outer =>
        exact .cons (showsAs_declarationAt h (.inr (by simp)) source comments _ options) .nil
  | .scope .body _ | .blank _ | .comment _ | .directive _ | .token _ => .nil

/-- The declarations of a body. -/
theorem showsAs_collectBody (source : List Char) (options : ScanOptions) {types : List Header}
    {container : Option Container} (h : Reflects types container) (pos : Nat) :
    ∀ nodes : List Node,
      List.Forall₂ (ShowsAs options) (collectBody source container pos nodes)
        (placesInBody types nodes)
  | [] => by
    rw [collectBody, placesInBody]
    exact .nil
  | node :: nodes => by
    cases node with
    | scope kind children =>
      cases kind with
      | body =>
        rw [collectBody, placesInBody]
        exact showsAs_collectNodes source options h _ pos pos children
      | _ => exact showsAs_collectBody source options h _ nodes
    | _ => exact showsAs_collectBody source options h _ nodes

end

/-- Of the declarations of any tree of nodes, exactly those are looked at that can be seen
from outside through all the types around them. -/
theorem isVisible_collect (source : List Char) (nodes : List Node) (options : ScanOptions) :
    List.Forall₂ (ShowsAs options) (collect source nodes) (placesOfAll [] nodes) :=
  showsAs_collectNodes source options .outside (commentSpans 0 nodes) 0 0 nodes

-- A class that is not public hides its members, but not an interface in it and what that shows.
example :
    let text := ("class A \x7b public int B; interface I \x7b void M(); class C \x7b public int D;" ++
      " private class E \x7b public int F; \x7d \x7d \x7d \x7d").toList
    (collect text ((Node.ofText? text).getD [])).map (fun d => (d.name, d.isVisible ⟨false⟩)) =
      [("A", false), ("B", false), ("I", true), ("M", true), ("C", true), ("D", true),
        ("E", false), ("F", false)] := by
  decide +kernel

end Gloss.Source
