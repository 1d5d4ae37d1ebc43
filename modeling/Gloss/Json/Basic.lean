/-!
# JSON values

Values with the fields of an object in order. Whole numbers that fit 64 bits are
numbers; any other number is kept as it is written. `merge` lays one value over
another.
-/

namespace Gloss

/-- A JSON value. -/
inductive Json where
  | null
  | bool (value : Bool)
  | natural (value : Nat)
  /-- A number that is negative, broken or too large. -/
  | numeral (text : String)
  | string (value : String)
  | array (items : List Json)
  | object (fields : List (String × Json))
  deriving Repr, Inhabited

namespace Json

/-- The bound of the whole numbers that are told apart. -/
def naturalBound : Nat := 0x10000000000000000

/-- The value of a field. -/
def get? (key : String) : Json → Option Json
  | object fields => fields.lookup key
  | _ => none

/-- Sets a field, in its place if it is there. -/
def setField (key : String) (value : Json) : List (String × Json) → List (String × Json)
  | [] => [(key, value)]
  | (k, v) :: fields =>
    if k = key then (k, value) :: fields else (k, v) :: setField key value fields

mutual

/-- One value laid over another: of two objects, field by field. -/
def merge (under : Json) : Json → Json
  | object fields =>
    match under with
    | object old => object (mergeFields old fields)
    | _ => object fields
  | top => top

/-- Fields laid over others, the later over the earlier. -/
def mergeFields (under : List (String × Json)) :
    List (String × Json) → List (String × Json)
  | [] => under
  | (key, value) :: fields =>
    let merged := match under.lookup key with
      | some old => merge old value
      | none => value
    mergeFields (setField key merged under) fields

end

end Json

end Gloss
