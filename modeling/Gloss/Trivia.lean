/-!
# Trivia

What stands between the declarations of a source text: blanks, line breaks and
comments. `renderTrivia` gives the text back.
-/

namespace Gloss

/-- A piece of text in front of a declaration. -/
inductive Trivia where
  | whitespace (text : String)
  | endOfLine (text : String)
  | comment (text : String)
  | docComment (text : String)
  deriving DecidableEq, Repr, Inhabited

/-- The text of a piece. -/
def Trivia.text : Trivia → String
  | whitespace text | endOfLine text | comment text | docComment text => text

/-- The text of a list of pieces. -/
def renderTrivia (trivia : List Trivia) : String :=
  String.join (trivia.map Trivia.text)

end Gloss
