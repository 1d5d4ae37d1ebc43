/-!
# Shapes of C# types

What the prose of a comment needs to know of a type: whether it is a keyword, a
plain or qualified name, a generic, an array or a nullable; all else is kept as
written. `display` writes a shape the way C# does.
-/

namespace Gloss

/-- The shape of a written type. -/
inductive TypeShape where
  /-- A keyword type such as `int`. -/
  | primitive (name : String)
  /-- A plain name. -/
  | named (name : String)
  /-- A name with a qualifier, as written. -/
  | qualified (name : String)
  /-- A generic name with its type arguments. -/
  | generic (base : String) (args : List TypeShape)
  | array (element : TypeShape)
  | nullable (inner : TypeShape)
  /-- Any other type, as written. -/
  | other (text : String)
  deriving Repr, Inhabited

namespace TypeShape

mutual

/-- The type as C# writes it. -/
def display : TypeShape → String
  | primitive text | named text | qualified text | other text => text
  | generic base args => base ++ "<" ++ ", ".intercalate (displayAll args) ++ ">"
  | array element => element.display ++ "[]"
  | nullable inner => inner.display ++ "?"

/-- The types of a list as C# writes them. -/
def displayAll : List TypeShape → List String
  | [] => []
  | shape :: shapes => shape.display :: displayAll shapes

end

/-- Whether the type is the Boolean type, under any of its names, or its nullable
form. -/
def isBoolean : TypeShape → Bool
  | primitive name => name == "bool"
  | named name => name == "Boolean"
  | qualified name => name == "System.Boolean"
  | nullable inner => inner.isBoolean
  | _ => false

/-- Whether the type is `void`. -/
def isVoid : TypeShape → Bool
  | primitive name => name == "void"
  | _ => false

theorem displayAll_eq_map (shapes : List TypeShape) : displayAll shapes = shapes.map display := by
  induction shapes with
  | nil => rfl
  | cons shape shapes ih => rw [displayAll, ih, List.map_cons]

end TypeShape

end Gloss
