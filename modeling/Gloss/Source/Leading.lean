import Gloss.Source.Lexeme
import Gloss.Text.Offset
import Gloss.Trivia

/-!
# Leading trivia

The text between two declarations cut into trivia. The comments in it are known
by their places; spaces, tabs and byte order marks make runs, line breaks stand
alone, and any other text goes with the comments, up to the end of its line or
to the next comment.
-/

namespace Gloss.Source

open Gloss.Text

/-- Where a comment stands, in bytes. -/
structure CommentSpan where
  start : Nat
  stop : Nat
  deriving DecidableEq, Repr

/-- The longest beginning of a text that takes at most a number of bytes. -/
def takeWithin (bytes : Nat) : List Char → List Char
  | [] => []
  | c :: cs => if c.utf8Size ≤ bytes then c :: takeWithin (bytes - c.utf8Size) cs else []

/-- A comment as trivia: three slashes and not four make a documentation line. -/
def commentPiece (body : List Char) : Trivia :=
  if ['/', '/', '/'].isPrefixOf body && !(['/', '/', '/', '/'].isPrefixOf body) then
    .docComment (String.ofList body)
  else .comment (String.ofList body)

/-- Whether a character makes a run of blanks. -/
def isSpacing (c : Char) : Bool :=
  c == ' ' || c == '\t' || c == '\ufeff'

/-- The first piece of a text that starts with `c` at `pos`, and how many of the
characters behind `c` belong to it. `next` is the next comment at or behind
`pos`. -/
def nextPiece (next : Option CommentSpan) (pos : Nat) (c : Char) (cs : List Char) :
    Trivia × Nat :=
  if next.any (·.start == pos) then
    let body := dropEndWhile isBreak
      (takeWithin (next.elim 0 fun s => s.stop - s.start) (c :: cs))
    (commentPiece body, body.length - 1)
  else if isSpacing c then
    let run := cs.takeWhile isSpacing
    (.whitespace (String.ofList (c :: run)), run.length)
  else if c == '\r' && cs.head? == some '\n' then (.endOfLine "\r\n", 1)
  else if isBreak c then (.endOfLine (String.ofList [c]), 0)
  else
    let line := cs.takeWhile fun d => !isBreak d
    let rest := match next with
      | some s => takeWithin (s.start - (pos + c.utf8Size)) line
      | none => line
    (commentPiece (c :: rest), rest.length)

/-- The pieces of a text that starts at `pos`, with the places of its comments. -/
def splitTrivia (comments : List CommentSpan) (pos : Nat) (region : List Char) : List Trivia :=
  match region with
  | [] => []
  | c :: cs =>
    let ahead := comments.dropWhile fun s => s.start < pos
    let (piece, n) := nextPiece ahead.head? pos c cs
    piece :: splitTrivia ahead (pos + byteLength (c :: cs.take n)) (cs.drop n)
  termination_by region.length
  decreasing_by simp only [List.length_drop, List.length_cons]; omega

/-- The trivia of a text between two byte offsets. -/
def leadingTrivia (source : List Char) (start stop : Nat) (comments : List CommentSpan) :
    List Trivia :=
  let inside := comments.filter fun s => decide (start ≤ s.start) && decide (s.stop ≤ stop)
  splitTrivia inside start ((slice start stop source).getD [])

end Gloss.Source
