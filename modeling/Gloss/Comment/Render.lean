import Gloss.Comment.Basic
import Gloss.Text.Lines

/-!
# Documentation comments as lines

A comment is written as lines that start with three slashes. A summary has its
tags on lines of their own; the other elements stand on the lines of their text.
-/

namespace Gloss

open Gloss.Text

/-- The mark at the start of a documentation line. -/
def docMarker : String := "///"

/-- The documentation line that holds a content. -/
def docLine (content : String) : String :=
  if content.isEmpty then docMarker else docMarker ++ " " ++ content

/-- The contents of the lines of a segment. -/
def Segment.contents : Segment → List String
  | summary text => ["<summary>"] ++ linesOf text ++ ["</summary>"]
  | param name text => linesOf ("<param name=\"" ++ name ++ "\">" ++ text ++ "</param>")
  | returns text => linesOf ("<returns>" ++ text ++ "</returns>")
  | inheritDoc => ["<inheritdoc/>"]
  | verbatim lines => lines

/-- The lines of a comment. -/
def Comment.renderLines (comment : Comment) : List String :=
  (comment.segments.flatMap Segment.contents).map docLine

/-- The text of a comment; every line but the first is indented. -/
def Comment.render (comment : Comment) (indent : String) : String :=
  ("\n" ++ indent).intercalate comment.renderLines

instance : ToString Comment where
  toString comment := "\n".intercalate comment.renderLines

end Gloss
