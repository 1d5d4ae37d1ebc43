import Gloss.Text.Blank
import Gloss.Text.Search

/-!
# Documentation comments

A comment is a list of segments: the elements of an XML documentation comment
that this library knows, and all else kept verbatim. `validate` says which
comments are well formed, `validateInsertable` which of them may be put in front
of a declaration; both name the first fault.
-/

namespace Gloss

open Gloss.Text

/-- One element of a documentation comment. -/
inductive Segment where
  | summary (text : String)
  | param (name text : String)
  | returns (text : String)
  | inheritDoc
  /-- Lines kept as they were found. -/
  | verbatim (lines : List String)
  deriving DecidableEq, Repr, Inhabited

/-- A documentation comment. -/
structure Comment where
  segments : List Segment := []
  deriving DecidableEq, Repr, Inhabited

/-- What is wrong with a documentation comment. -/
inductive Comment.Fault where
  | noSegments
  | unnamedParam
  | quoteInName (name : String)
  | repeatedParam (name : String)
  | closesItself (tag : String)
  | manySummaries
  | manyInheritDocs
  | summaryWithInheritDoc
  | manyReturns
  | saysNothing
  | notDocLine (line : String)
  | openXmlComment
  | openTag
  | strayClosing (tag : String)
  | unnamedElement
  | neverClosed (name : String)
  | paramWithoutName
  /-- A fault given in words. -/
  | stated (text : String)
  deriving DecidableEq, Repr

/-- The wording of a fault. -/
def Comment.Fault.message : Comment.Fault → String
  | noSegments => "comment has no segments"
  | unnamedParam => "parameter without a name"
  | quoteInName name => "parameter name '" ++ name ++ "' contains a quote"
  | repeatedParam name => "parameter '" ++ name ++ "' is documented twice"
  | closesItself tag => tag ++ " text closes its own element"
  | manySummaries => "more than one summary"
  | manyInheritDocs => "more than one inheritdoc marker"
  | summaryWithInheritDoc => "summary and inheritdoc are exclusive"
  | manyReturns => "more than one returns element"
  | saysNothing => "comment needs a summary or an inheritdoc marker"
  | notDocLine line => "line is not a documentation line: " ++ line
  | openXmlComment => "unterminated XML comment"
  | openTag => "unterminated start tag"
  | strayClosing tag => "unexpected closing tag <" ++ tag ++ ">"
  | unnamedElement => "element without a name"
  | neverClosed name => "element <" ++ name ++ "> is never closed"
  | paramWithoutName => "param element without a name attribute"
  | stated text => text

namespace Segment

/-- Whether the segment is a summary. -/
def isSummary : Segment → Bool
  | summary _ => true
  | _ => false

/-- Whether the segment describes the result. -/
def isReturns : Segment → Bool
  | returns _ => true
  | _ => false

end Segment

namespace Comment

/-- The comment that holds a summary. -/
def ofSummary (text : String) : Comment := ⟨[.summary text]⟩

/-- The comment that refers to an inherited one. -/
def ofInheritDoc : Comment := ⟨[.inheritDoc]⟩

/-- Adds the description of a parameter. -/
def withParam (comment : Comment) (name text : String) : Comment :=
  ⟨comment.segments ++ [.param name text]⟩

/-- Adds the description of the result. -/
def withReturns (comment : Comment) (text : String) : Comment :=
  ⟨comment.segments ++ [.returns text]⟩

/-- Whether the comment has no segment. -/
def isEmpty (comment : Comment) : Bool :=
  comment.segments.isEmpty

/-- Whether the comment has a summary. -/
def hasSummary (comment : Comment) : Bool :=
  comment.segments.any Segment.isSummary

/-- Whether the comment refers to an inherited one. -/
def hasInheritDoc (comment : Comment) : Bool :=
  comment.segments.contains .inheritDoc

/-- The text of the first summary. -/
def summary? (comment : Comment) : Option String :=
  comment.segments.findSome? fun
    | .summary text => some text
    | _ => none

/-- The text of the first description of the result. -/
def returns? (comment : Comment) : Option String :=
  comment.segments.findSome? fun
    | .returns text => some text
    | _ => none

/-- The described parameters with their texts. -/
def params (comment : Comment) : List (String × String) :=
  comment.segments.filterMap fun
    | .param name text => some (name, text)
    | _ => none

/-! ## Validation -/

/-- The closing tag of an element. -/
def closingTag (name : List Char) : List Char :=
  '<' :: '/' :: name ++ ['>']

/-- Refuses a text that would close the element it stands in. -/
def checkText (tag text : String) : Except Fault Unit :=
  if occursIn (closingTag tag.toList) text.toList then .error (.closesItself tag) else .ok ()

/-- Checks the segments one by one; `seen` holds the parameters met so far. -/
def checkSegments (seen : List String) : List Segment → Except Fault Unit
  | [] => .ok ()
  | .summary text :: rest => do
    checkText "summary" text
    checkSegments seen rest
  | .param name text :: rest =>
    if isBlankText name.toList then .error .unnamedParam
    else if name.toList.contains '"' then .error (.quoteInName name)
    else if seen.contains name then .error (.repeatedParam name)
    else do
      checkText "param" text
      checkSegments (name :: seen) rest
  | .returns text :: rest => do
    checkText "returns" text
    checkSegments seen rest
  | .inheritDoc :: rest => checkSegments seen rest
  | .verbatim _ :: rest => checkSegments seen rest

/-- Checks how often the segments occur that may stand once. -/
def checkCounts (segments : List Segment) : Except Fault Unit :=
  let summaries := segments.countP Segment.isSummary
  let inheritDocs := segments.count .inheritDoc
  if summaries > 1 then .error .manySummaries
  else if inheritDocs > 1 then .error .manyInheritDocs
  else if summaries = 1 ∧ inheritDocs = 1 then .error .summaryWithInheritDoc
  else if segments.countP Segment.isReturns > 1 then .error .manyReturns
  else .ok ()

/-- Checks that a comment is well formed. -/
def validate (comment : Comment) : Except Fault Unit :=
  if comment.isEmpty then .error .noSegments
  else do
    checkSegments [] comment.segments
    checkCounts comment.segments

/-- Checks that a comment may be put in front of a declaration: it is well formed
and documents something. -/
def validateInsertable (comment : Comment) : Except Fault Unit := do
  comment.validate
  if comment.hasSummary || comment.hasInheritDoc then .ok () else .error .saysNothing

end Comment

end Gloss
