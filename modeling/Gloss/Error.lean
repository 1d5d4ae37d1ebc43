import Gloss.Comment.Basic
import Gloss.Generation.Failure
import Gloss.TypeShape.Phrase

/-!
# Errors of documenting

Everything that can keep a declaration from getting its comment, with one
wording for each cause.
-/

namespace Gloss

/-- Why a file could not be read as a source text. -/
inductive Unreadable where
  | missing
  | directory
  | notText
  deriving DecidableEq, Repr

/-- The wording of a cause. -/
def Unreadable.message : Unreadable → String
  | missing => "No such file or directory (os error 2)"
  | directory => "Is a directory (os error 21)"
  | notText => "stream did not contain valid UTF-8"

/-- Why a declaration or a source text could not be documented. -/
inductive DocError where
  /-- A type has no description. -/
  | unsupportedShape (shape reason : String)
  /-- The model gave no usable comment. -/
  | generation (failure : Generation.Failure)
  | malformed (fault : Comment.Fault)
  | unreadable (path : String) (cause : Unreadable)
  | other (message : String)
  deriving DecidableEq, Repr

/-- The wording of an error. -/
def DocError.message : DocError → String
  | unsupportedShape shape reason => "unsupported type shape '" ++ shape ++ "': " ++ reason
  | generation failure => "comment generation failed: " ++ failure.message
  | malformed fault => "malformed documentation comment: " ++ fault.message
  | unreadable path cause => "failed to access source '" ++ path ++ "': " ++ cause.message
  | other message => message

/-- A type without a description as an error of documenting. -/
def DocError.ofUndescribed (e : TypeShape.Undescribed) : DocError :=
  .unsupportedShape e.shape e.reason

end Gloss
