import Gloss.Json.Read
import Gloss.Text.Blank
import Gloss.Text.Pieces

/-!
# Settings in environment variables

A variable whose name starts with `QUILL_`, in any case, sets what the rest of the
name spells in small letters; two underscores go one level down. Its value is read
as a truth value, a number, a quoted text, a list or a table, or else taken as it is.
-/

namespace Gloss.Config.Variable

open Gloss.Text

/-! ## Names -/

/-- What the names of the variables start with. -/
def mark : List Char := "QUILL_".toList

/-- Puts a dot for every two underscores. -/
def dotted : List Char → List Char
  | '_' :: '_' :: cs => '.' :: dotted cs
  | c :: cs => c :: dotted cs
  | [] => []

/-- The keys that lead to the setting of a variable. -/
def keys? (name : String) : Option (List String) :=
  let cs := name.toList
  if (cs.take mark.length).map Char.toUpper == mark then
    let keys := pieces '.' (dotted ((cs.drop mark.length).map Char.toLower))
    if keys.any List.isEmpty then none else some (keys.map String.ofList)
  else none

/-! ## Values -/

/-- Whether a character may stand around a value. -/
def isSpace (c : Char) : Bool :=
  c == ' ' || c == '\t' || c == '\n' || c == '\r' || c == '\x0c'

/-- The text behind blanks. -/
def skipSpace (cs : List Char) : List Char :=
  cs.dropWhile isSpace

/-- Whether a character ends a plain value. -/
def isSeparator (c : Char) : Bool :=
  c == ',' || c == '{' || c == '}' || c == '[' || c == ']'

/-- Whether a character may stand in a plain key. -/
def isKeyChar (c : Char) : Bool :=
  c.isAlphanum || c == '_' || c == '-'

/-- Whether a text is a decimal number with a point. -/
def isDecimal (cs : List Char) : Bool :=
  let body := match cs with
    | '+' :: rest | '-' :: rest => rest
    | _ => cs
  let whole := body.takeWhile Char.isDigit
  match body.dropWhile Char.isDigit with
  | '.' :: rest =>
    (!whole.isEmpty || !(rest.takeWhile Char.isDigit).isEmpty) &&
      Json.isExponent (rest.dropWhile Char.isDigit)
  | _ => false

/-- The value of a plain text. -/
def plain (cs : List Char) : Json :=
  let text := String.ofList cs
  if isDecimal cs then .numeral text
  else
    match readNumeral Json.naturalBound cs with
    | some n => .natural n
    | none =>
      match cs with
      | '-' :: digits =>
        match if digits.isEmpty then none else digitsValue 0 digits with
        | some n =>
          if n = 0 then .natural 0
          else if n ≤ 0x8000000000000000 then .numeral text
          else .string text
        | none => .string text
      | _ => .string text

/-- The character whose number is written in hexadecimal digits. -/
def charOfHex (digits : List Char) : Option Char := do
  let n ← digits.foldlM (fun n c => (Json.hexValue c).map (16 * n + ·)) 0
  if n.isValidChar then some (Char.ofNat n) else none

/-- The rest of a quoted text and what stands behind its closing quote. -/
def quotedFrom : List Char → Option (List Char × List Char)
  | [] => none
  | '"' :: cs => some ([], cs)
  | '\\' :: 'u' :: a :: b :: c :: d :: cs => do
    let x ← charOfHex [a, b, c, d]
    let (s, rest) ← quotedFrom cs
    return (x :: s, rest)
  | '\\' :: 'U' :: a :: b :: c :: d :: e :: f :: g :: h :: cs => do
    let x ← charOfHex [a, b, c, d, e, f, g, h]
    let (s, rest) ← quotedFrom cs
    return (x :: s, rest)
  | '\\' :: '/' :: _ => none
  | '\\' :: c :: cs => do
    let x ← Json.escaped c
    let (s, rest) ← quotedFrom cs
    return (x :: s, rest)
  | c :: cs =>
    if c == '\\' then none
    else do
      let (s, rest) ← quotedFrom cs
      return (c :: s, rest)

/-- A key at the start of a text and what stands behind it. -/
def keyFrom (cs : List Char) : Option (String × List Char) :=
  match cs with
  | '"' :: rest => (quotedFrom rest).map fun (s, rest) => (String.ofList s, rest)
  | _ =>
    let key := cs.takeWhile isKeyChar
    if key.isEmpty then none else some (String.ofList key, cs.dropWhile isKeyChar)

mutual

/-- A value at the start of a text and what stands behind it. -/
def valueFrom : Nat → List Char → Option (Json × List Char)
  | 0, _ => none
  | fuel + 1, cs =>
    let cs := skipSpace cs
    match dropPrefix? "true".toList cs, dropPrefix? "false".toList cs with
    | some rest, _ => some (.bool true, skipSpace rest)
    | _, some rest => some (.bool false, skipSpace rest)
    | none, none =>
      match cs with
      | '{' :: rest =>
        (fieldsFrom fuel rest).map fun (fields, rest) => (.object fields, skipSpace rest)
      | '[' :: rest =>
        (itemsFrom fuel rest).map fun (items, rest) => (.array items, skipSpace rest)
      | '"' :: rest =>
        (quotedFrom rest).map fun (s, rest) => (.string (String.ofList s), skipSpace rest)
      | '\x27' :: c :: '\x27' :: rest => some (.string c.toString, skipSpace rest)
      | '\x27' :: _ => none
      | _ =>
        some (plain (trim (cs.takeWhile (!isSeparator ·))), cs.dropWhile (!isSeparator ·))

/-- The items of a list through its closing bracket. -/
def itemsFrom : Nat → List Char → Option (List Json × List Char)
  | 0, _ => none
  | fuel + 1, cs =>
    match cs with
    | ']' :: rest => some ([], rest)
    | _ => do
      let (item, rest) ← valueFrom fuel cs
      match rest with
      | ',' :: rest =>
        let (items, rest) ← itemsFrom fuel rest
        return (item :: items, rest)
      | ']' :: rest => return ([item], rest)
      | _ => none

/-- The fields of a table through its closing bracket. -/
def fieldsFrom : Nat → List Char → Option (List (String × Json) × List Char)
  | 0, _ => none
  | fuel + 1, cs =>
    match cs with
    | '}' :: rest => some ([], rest)
    | _ => do
      let (key, rest) ← keyFrom (skipSpace cs)
      match skipSpace rest with
      | '=' :: rest =>
        let (value, rest) ← valueFrom fuel (skipSpace rest)
        match skipSpace rest with
        | ',' :: rest =>
          let (fields, rest) ← fieldsFrom fuel rest
          return (Json.addField key value fields, rest)
        | '}' :: rest => return ([(key, value)], rest)
        | _ => none
      | _ => none

end

/-- The value of a variable. Each step reads at least one character. -/
def valueOf (text : String) : Json :=
  match valueFrom (2 * text.length + 2) text.toList with
  | some (value, []) => value
  | _ => .string text

/-! ## Layers -/

/-- A value below keys. -/
def nest (value : Json) : List String → Json
  | [] => value
  | key :: keys => .object [(key, nest value keys)]

/-- What variables set, the later over the earlier. -/
def layer (env : List (String × String)) : Json :=
  env.foldl (fun under (name, text) =>
    match keys? name with
    | some keys => under.merge (nest (valueOf text) keys)
    | none => under) (.object [])

end Gloss.Config.Variable
