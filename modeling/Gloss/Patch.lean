import Gloss.Declaration.Basic
import Gloss.Error

/-!
# Putting a comment in front of a declaration

The comment goes behind the trivia that is there, one line each, aligned with
the declaration. The blanks before the declaration stay between it and the
comment, and move in front of the first line.
-/

namespace Gloss

/-- A declaration with a new comment in its leading trivia. -/
structure Patched where
  declaration : Declaration
  comment : Comment
  deriving Repr, Inhabited

namespace Patched

/-- The text in front of the declaration. -/
def leadingText (p : Patched) : String :=
  renderTrivia p.declaration.leadingTrivia

/-- The text of the declaration with what is in front of it. -/
def render (p : Patched) : String :=
  p.leadingText ++ p.declaration.sourceText

end Patched

/-- The first line break among the trivia, or else a line feed. -/
def lineBreakOf (trivia : List Trivia) : String :=
  (trivia.findSome? fun
    | .endOfLine text => some text
    | _ => none).getD "\n"

/-- Blanks as trivia; none if there are none. -/
def spacing (blanks : String) : List Trivia :=
  if blanks.isEmpty then [] else [.whitespace blanks]

/-- The trivia of one line of a comment behind some blanks. -/
def commentLine (lineBreak blanks line : String) : List Trivia :=
  spacing blanks ++ [.docComment line, .endOfLine lineBreak]

/-- The trivia of the lines of a comment: `lead` stands before the first line,
`indent` before the others. -/
def commentTrivia (lineBreak lead indent : String) : List String → List Trivia
  | [] => []
  | first :: rest =>
    commentLine lineBreak lead first ++ rest.flatMap (commentLine lineBreak indent)

/-- The trivia without blanks at its end, and these blanks. -/
def splitAlignment (trivia : List Trivia) : List Trivia × Option String :=
  match trivia.getLast? with
  | some (.whitespace blanks) => (trivia.dropLast, some blanks)
  | _ => (trivia, none)

/-- The leading trivia of a declaration with a comment put into it. -/
def insertComment (d : Declaration) (comment : Comment) : List Trivia :=
  let (before, alignment) := splitAlignment d.leadingTrivia
  let lead := alignment.getD d.indent
  before ++ commentTrivia (lineBreakOf d.leadingTrivia) lead d.indent comment.renderLines ++
    spacing lead

/-- Puts a comment in front of a declaration. -/
def Declaration.patch (d : Declaration) (comment : Comment) : Except DocError Patched :=
  match comment.validateInsertable with
  | .error fault => .error (.malformed fault)
  | .ok () => .ok ⟨{ d with leadingTrivia := insertComment d comment }, comment⟩

end Gloss
