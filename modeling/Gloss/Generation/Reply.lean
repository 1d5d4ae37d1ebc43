import Gloss.Comment.Read
import Gloss.Error

/-!
# Replies of a model

The comment lines in a reply: those of the first fenced part that has any, or
else of the whole reply. A reply is accepted if these lines read as a comment
that may be put in front of a declaration.
-/

namespace Gloss.Generation

open Gloss.Text

/-- The mark around a fenced part. -/
def fence : List Char := ['\x60', '\x60', '\x60']

theorem length_behind_fence {text lead behindFence line content body rest : List Char}
    (ho : breakOn fence text = some (lead, behindFence))
    (hl : breakOn ['\n'] behindFence = some (line, content))
    (hc : breakOn fence content = some (body, rest)) : rest.length < text.length := by
  have h1 := length_after_breakOn ho
  have h2 := length_after_breakOn hl
  have h3 := length_after_breakOn hc
  have hf : fence.length = 3 := rfl
  omega

/-- The first fenced part that holds a documentation mark. A fence that has no
line behind it, or is not closed, ends the search. -/
def fencedBody (text : List Char) : Option (List Char) :=
  match ho : breakOn fence text with
  | none => none
  | some (_, behindFence) =>
    match hl : breakOn ['\n'] behindFence with
    | none => none
    | some (_, content) =>
      match hc : breakOn fence content with
      | none => none
      | some (body, rest) =>
        have : rest.length < text.length := length_behind_fence ho hl hc
        if occursIn docMarker.toList body then some body else fencedBody rest
  termination_by text.length
  decreasing_by omega

/-- Whether a line starts with the documentation mark. -/
def isDocLine (line : List Char) : Bool :=
  docMarker.toList.isPrefixOf line

/-- Whether a documentation line has anything behind its slashes. -/
def hasContent (line : List Char) : Bool :=
  !isBlankText (line.dropWhile (· == '/'))

/-- The first block of documentation lines of a reply, if it has any content. -/
def extractBlock (text : String) : Option String :=
  let body := (fencedBody text.toList).getD text.toList
  let trimmed := (lines body).map trim
  let block := (trimmed.dropWhile fun line => !isDocLine line).takeWhile isDocLine
  if block.any hasContent then some (String.ofList (joinLines block)) else none

/-- The block of a reply that can be used as it is. -/
def accept (raw : String) : Except Failure String :=
  if isBlankText raw.toList then .error .emptyReply
  else
    match extractBlock raw with
    | none => .error (.invalidReply "no /// comment block found" raw)
    | some block =>
      match (Comment.read block).bind Comment.validateInsertable with
      | .error fault => .error (.invalidReply (DocError.malformed fault).message raw)
      | .ok () => .ok block

end Gloss.Generation
