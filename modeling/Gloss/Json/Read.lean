import Gloss.Json.Basic
import Gloss.Text.Numeral
import Gloss.Text.Search

/-!
# Reading JSON

A reader for exactly the values of the format, without blanks of other kinds,
comments or stray commas. Values may be nested to a depth of 127.
-/

namespace Gloss.Json

open Gloss.Text

/-- Whether a character may stand between values. -/
def isSpace (c : Char) : Bool :=
  c == ' ' || c == '\n' || c == '\t' || c == '\r'

/-- The text behind blanks. -/
def skipSpace (cs : List Char) : List Char :=
  cs.dropWhile isSpace

/-! ## Strings -/

/-- The value of a hexadecimal digit. -/
def hexValue (c : Char) : Option Nat :=
  if c.isDigit then some (c.toNat - 48)
  else if 'a' ≤ c ∧ c ≤ 'f' then some (c.toNat - 87)
  else if 'A' ≤ c ∧ c ≤ 'F' then some (c.toNat - 55)
  else none

/-- The value of four hexadecimal digits. -/
def hexValue4 (a b c d : Char) : Option Nat := do
  let a ← hexValue a
  let b ← hexValue b
  let c ← hexValue c
  let d ← hexValue d
  return ((a * 16 + b) * 16 + c) * 16 + d

/-- The character that a letter stands for behind a backslash. -/
def escaped : Char → Option Char
  | '"' => some '"'
  | '\\' => some '\\'
  | '/' => some '/'
  | 'b' => some '\x08'
  | 'f' => some '\x0c'
  | 'n' => some '\n'
  | 'r' => some '\r'
  | 't' => some '\t'
  | _ => none

/-- Whether a number is the first half of a character written in two. -/
def isHighHalf (n : Nat) : Bool := decide (0xd800 ≤ n) && decide (n < 0xdc00)

/-- Whether a number is the second half of a character written in two. -/
def isLowHalf (n : Nat) : Bool := decide (0xdc00 ≤ n) && decide (n < 0xe000)

/-- The rest of a string and the text behind its closing quote. -/
def stringFrom : List Char → Option (List Char × List Char)
  | [] => none
  | '"' :: cs => some ([], cs)
  | '\\' :: 'u' :: a :: b :: c :: d :: '\\' :: 'u' :: e :: f :: g :: h :: cs => do
    let n ← hexValue4 a b c d
    if isHighHalf n then
      let m ← hexValue4 e f g h
      if isLowHalf m then
        let (s, rest) ← stringFrom cs
        return (Char.ofNat (0x10000 + (n - 0xd800) * 0x400 + (m - 0xdc00)) :: s, rest)
      else none
    else if isLowHalf n then none
    else
      let (s, rest) ← stringFrom ('\\' :: 'u' :: e :: f :: g :: h :: cs)
      return (Char.ofNat n :: s, rest)
  | '\\' :: 'u' :: a :: b :: c :: d :: cs => do
    let n ← hexValue4 a b c d
    if isHighHalf n || isLowHalf n then none
    else
      let (s, rest) ← stringFrom cs
      return (Char.ofNat n :: s, rest)
  | '\\' :: c :: cs => do
    let c ← escaped c
    let (s, rest) ← stringFrom cs
    return (c :: s, rest)
  | c :: cs =>
    if c.toNat < 0x20 || c == '\\' then none
    else do
      let (s, rest) ← stringFrom cs
      return (c :: s, rest)

/-! ## Numbers -/

/-- Whether a character may stand in a number. -/
def isNumberChar (c : Char) : Bool :=
  c.isDigit || c == '-' || c == '+' || c == '.' || c == 'e' || c == 'E'

/-- Whether a text is an exponent, or nothing. -/
def isExponent : List Char → Bool
  | [] => true
  | e :: '+' :: ds | e :: '-' :: ds => (e == 'e' || e == 'E') && !ds.isEmpty && ds.all Char.isDigit
  | e :: ds => (e == 'e' || e == 'E') && !ds.isEmpty && ds.all Char.isDigit

/-- Whether a text is a fraction with an exponent, either of which may be missing. -/
def isFraction : List Char → Bool
  | '.' :: cs =>
    !(cs.takeWhile Char.isDigit).isEmpty && isExponent (cs.dropWhile Char.isDigit)
  | cs => isExponent cs

/-- Whether a text is a number without a sign. -/
def isUnsigned : List Char → Bool
  | '0' :: cs => isFraction cs
  | cs => !(cs.takeWhile Char.isDigit).isEmpty && isFraction (cs.dropWhile Char.isDigit)

/-- The value of the text of a number. -/
def numberOf (text : List Char) : Option Json :=
  match text with
  | '-' :: cs => if isUnsigned cs then some (numeral (String.ofList text)) else none
  | _ =>
    if isUnsigned text then
      match (digitsValue 0 text).filter fun n => decide (n < naturalBound) with
      | some n => some (natural n)
      | none => some (numeral (String.ofList text))
    else none

/-! ## Values -/

/-- Puts a field in front of others; of fields with one name the last counts. -/
def addField (key : String) (value : Json) (fields : List (String × Json)) :
    List (String × Json) :=
  if fields.any fun field => field.1 == key then fields else (key, value) :: fields

mutual

/-- A value at the start of a text, and the text behind it; `depth` says how far
values may still be nested. -/
def valueFrom : Nat → Nat → List Char → Option (Json × List Char)
  | 0, _, _ => none
  | fuel + 1, depth, cs =>
    match skipSpace cs with
    | '"' :: rest => (stringFrom rest).map fun (s, rest) => (string (String.ofList s), rest)
    | '[' :: rest =>
      if depth ≤ 1 then none
      else
        match skipSpace rest with
        | ']' :: rest => some (array [], rest)
        | rest => (itemsFrom fuel (depth - 1) rest).map fun (items, rest) => (array items, rest)
    | '{' :: rest =>
      if depth ≤ 1 then none
      else
        match skipSpace rest with
        | '}' :: rest => some (object [], rest)
        | rest =>
          (fieldsFrom fuel (depth - 1) rest).map fun (fields, rest) => (object fields, rest)
    | rest =>
      match dropPrefix? "null".toList rest, dropPrefix? "true".toList rest,
        dropPrefix? "false".toList rest with
      | some rest, _, _ => some (null, rest)
      | _, some rest, _ => some (bool true, rest)
      | _, _, some rest => some (bool false, rest)
      | none, none, none =>
        (numberOf (rest.takeWhile isNumberChar)).map fun value =>
          (value, rest.dropWhile isNumberChar)

/-- The items of an array through its closing bracket. -/
def itemsFrom : Nat → Nat → List Char → Option (List Json × List Char)
  | 0, _, _ => none
  | fuel + 1, depth, cs => do
    let (item, rest) ← valueFrom fuel depth cs
    match skipSpace rest with
    | ']' :: rest => return ([item], rest)
    | ',' :: rest =>
      let (items, rest) ← itemsFrom fuel depth rest
      return (item :: items, rest)
    | _ => none

/-- The fields of an object through its closing bracket. -/
def fieldsFrom : Nat → Nat → List Char → Option (List (String × Json) × List Char)
  | 0, _, _ => none
  | fuel + 1, depth, cs =>
    match skipSpace cs with
    | '"' :: rest => do
      let (key, rest) ← stringFrom rest
      match skipSpace rest with
      | ':' :: rest =>
        let (value, rest) ← valueFrom fuel depth rest
        match skipSpace rest with
        | '}' :: rest => return ([(String.ofList key, value)], rest)
        | ',' :: rest =>
          let (fields, rest) ← fieldsFrom fuel depth rest
          return (addField (String.ofList key) value fields, rest)
        | _ => none
      | _ => none
    | _ => none

end

/-- The value that a text writes. Each step reads at least one character. -/
def read? (text : String) : Option Json :=
  match valueFrom (2 * text.length + 2) 128 text.toList with
  | some (value, rest) => if (skipSpace rest).isEmpty then some value else none
  | none => none

end Gloss.Json
