import Gloss.Plural
import Gloss.TypeShape.Phrase
import Gloss.Words

/-!
# Phrases from names

The sentences that templates put into comments, made from the words of a name.
-/

namespace Gloss.Phrase

open Gloss.Text

/-- A sentence of the words behind a lead. -/
def sentence (lead : String) (words : List String) : String :=
  if words.isEmpty then lead ++ "." else lead ++ " " ++ " ".intercalate words ++ "."

/-- The summary of a class, an enumeration or a field. -/
def common (name : String) : String :=
  sentence "The" (Words.ofIdentifier name)

/-- The summary of an interface, whose name may start with a lone `I`. -/
def interface (name : String) : String :=
  match Words.lowerTail (Words.split name) with
  | "I" :: rest => sentence "The" (Words.lowerAll rest)
  | pieces => sentence "The" (Words.lowerAll pieces)

/-- The summary of a constructor. -/
def constructor (typeName : String) (isPrivate : Bool) : String :=
  let reference := "<see cref=\"" ++ typeName ++ "\"/>"
  if isPrivate then
    "Prevents a new instance of the " ++ reference ++ " class from being created."
  else "Initializes a new instance of the " ++ reference ++ " class."

/-- The words with the first `is` moved in front of the last of the others. -/
def moveIs (words : List String) : List String :=
  if words.contains "is" then
    let others := words.erase "is"
    others.take (others.length - 1) ++ "is" :: others.drop (others.length - 1)
  else words

/-- The summary of a property. -/
def property (name : String) (isBoolean hasSetter : Bool) : String :=
  let words := Words.ofIdentifier name
  let lead := if hasSetter then "Gets or sets" else "Gets"
  if isBoolean then
    lead ++ " a value indicating whether " ++ " ".intercalate (moveIs words) ++ "."
  else if words.isEmpty then lead ++ "."
  else lead ++ " the " ++ " ".intercalate words ++ "."

/-- The summary of a method: the first word as a verb, the rest as its object. -/
def method (name : String) : String :=
  match Words.lowerTail (Words.split name) with
  | [] => ""
  | verb :: object => " ".intercalate (Plural.pluralize verb :: "the" :: object) ++ "."

/-- The description of a parameter. -/
def parameter (name : String) (shape : TypeShape) : String :=
  let words := Words.ofIdentifier name
  if shape.isBoolean then "If true, " ++ " ".intercalate words ++ "."
  else sentence "The" words

/-- The phrase as a sentence: one full stop at its end. -/
def terminate (phrase : String) : String :=
  String.ofList (dropEndWhile (· == '.') (trimEnd phrase.toList)) ++ "."

/-- The description of a result; `void` has none. -/
def returns (shape : TypeShape) : Except TypeShape.Undescribed (Option String) :=
  if shape.isVoid then .ok none else shape.describe.map fun phrase => some (terminate phrase)

end Gloss.Phrase
