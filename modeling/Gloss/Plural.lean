import Gloss.Text.Alphabetic
import Gloss.Text.Lowercase
import Gloss.Text.Uppercase

/-!
# Plurals

The plural of a word, which is also the third person of a verb, by its ending:

* after `s`, `x`, `z`, `ch` and `sh` it takes `es`;
* `y` after a consonant becomes `ies`;
* `o` after a consonant takes `es`;
* any other word takes `s`.

The endings are told without regard to case. An added `es` or `ies` is in upper
case if the last character of the word is.
-/

namespace Gloss.Plural

open Gloss.Text

/-- Whether a lower-case letter is a vowel. -/
def isVowel (c : Char) : Bool :=
  ['a', 'e', 'i', 'o', 'u'].contains c

/-- How the plural of a word is made. -/
inductive Ending where
  /-- `es` is added. -/
  | es
  /-- `ies` takes the place of the last character. -/
  | ies
  /-- `s` is added. -/
  | s
  deriving DecidableEq, Repr

/-- The ending for a lower-case word given backwards. -/
def endingOfReversed : List Char → Ending
  | 's' :: _ | 'x' :: _ | 'z' :: _ => .es
  | 'h' :: 'c' :: _ | 'h' :: 's' :: _ => .es
  | 'y' :: c :: _ => if isAlphabetic c && !isVowel c then .ies else .s
  | 'o' :: c :: _ => if isAlphabetic c && !isVowel c then .es else .s
  | _ => .s

/-- The ending for a word. -/
def ending (word : List Char) : Ending :=
  endingOfReversed (lowercase word).reverse

/-- The plural of a word that ends in `last`. -/
def inflect (word : List Char) (last : Char) : List Char :=
  let suffix := fun (s : List Char) => if isUppercase last then s.map Char.toUpper else s
  match ending word with
  | .es => word ++ suffix ['e', 's']
  | .ies => word.dropLast ++ suffix ['i', 'e', 's']
  | .s => word ++ ['s']

/-- The plural of a word; the empty word has none. -/
def pluralize (word : String) : String :=
  match word.toList.getLast? with
  | none => ""
  | some last => String.ofList (inflect word.toList last)

end Gloss.Plural
