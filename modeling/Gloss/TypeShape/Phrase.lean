import Gloss.Plural
import Gloss.Text.Blank
import Gloss.Text.Search
import Gloss.TypeShape.Basic

/-!
# Types in prose

How a returned type is described. Collections are described by the plural of
what they hold, arrays by the name of their element, anything else by its name
after an article.
-/

namespace Gloss.TypeShape

open Gloss.Text

/-- A type that has no description. -/
structure Undescribed where
  shape : String
  reason : String
  deriving DecidableEq, Repr

/-- The reason given for a type without any name. -/
def Undescribed.noName : String := "no name text to describe"

/-- The reason given for a collection that does not say of what. -/
def Undescribed.noArgument : String := "collection type without a type argument"

/-- Whether a string has no character but blanks. -/
def isBlankString (s : String) : Bool :=
  isBlankText s.toList

/-- The article for a word, by its first letter. -/
def article (word : String) : String :=
  match word.toList.head? with
  | some c => if Plural.isVowel c.toLower then "An" else "A"
  | none => "A"

/-- What stands behind the last point of a dotted name. -/
def lastPart (name : List Char) : List Char :=
  match breakOn ['.'] name.reverse with
  | some (part, _) => part.reverse
  | none => name

/-- The name of a type without its arguments. -/
def nameText (shape : TypeShape) : String :=
  match shape with
  | primitive name | named name => name
  | generic base _ => String.ofList (lastPart base.toList)
  | _ => shape.display

/-- The name of a type without its arguments, which must not be blank. -/
def bareName (shape : TypeShape) : Except Undescribed String :=
  if isBlankString shape.nameText then .error ⟨shape.display, Undescribed.noName⟩
  else .ok shape.nameText

/-- The plural of a type's name, as the end of a sentence. -/
def pluralBareName (shape : TypeShape) : Except Undescribed String := do
  let name ← shape.bareName
  return Plural.pluralize name ++ "."

/-- A name after its article. -/
def withArticle (shape : TypeShape) (text : String) : Except Undescribed String :=
  if isBlankString text then .error ⟨shape.display, Undescribed.noName⟩
  else .ok (article text ++ " " ++ text)

/-- How the prose introduces what a generic type holds, if it is a collection. -/
def collectionLead (base : String) : Option String :=
  if occurs "ReadOnlyCollection" base then some "A read only collection of "
  else if base == "IEnumerable" || occurs "List" base then some "A list of "
  else if base == "Task" then some "A Task result of "
  else none

/-- The description of a type. -/
def describe (shape : TypeShape) : Except Undescribed String :=
  match shape with
  | primitive text | named text | qualified text | other text => shape.withArticle text
  | generic base args =>
    match collectionLead base, args with
    | none, _ => shape.withArticle base
    | some _, [] => .error ⟨shape.display, Undescribed.noArgument⟩
    | some lead, arg :: _ => do
      let plural ← arg.pluralBareName
      return lead ++ plural
  | array element => do
    let name ← element.bareName
    return "An array of " ++ name
  | nullable _ => shape.withArticle shape.display

end Gloss.TypeShape
