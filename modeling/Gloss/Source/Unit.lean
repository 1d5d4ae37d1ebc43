import Gloss.Diagnostic
import Gloss.Patch
import Gloss.Scan
import Gloss.Source.Collect

/-!
# Source units

A source text with its declarations: getting them from a parser, finding those that
lack a comment, and applying patches to the text.
-/

namespace Gloss

open Gloss.Text

/-- A source text with its declarations. -/
structure SourceUnit where
  text : String
  declarations : List Declaration := []
  /-- Whether the text has syntax errors. -/
  broken : Bool := false
  deriving Repr, Inhabited

namespace SourceUnit

/-- A source text with the declarations of the tree that a parser gives. Syntax errors do
not matter: what the parser has made out is listed. -/
def parse (parser : Source.Parser) (text : String) : SourceUnit :=
  match parser text.toList with
  | some tree =>
    { text := text
      declarations := Source.collect text.toList tree.nodes
      broken := tree.hasError }
  | none => { text := text }

/-- Reads a source text with the parser that does not recover from syntax errors. A text with
errors, or one that this parser takes to have some, has no declarations here; a parser that
recovers would give those it has made out. -/
def read (text : String) : SourceUnit :=
  parse Source.Parser.strict text

/-- What is logged when a source text is read. -/
def readLog (unit : SourceUnit) : List Log.Entry :=
  (if unit.broken then [⟨.debug, "source unit has syntax errors", []⟩] else []) ++
    [⟨.debug, "parsed source unit", [("declarations", toString unit.declarations.length)]⟩]

/-! ## Missing comments -/

/-- The declarations that need a comment, as diagnostics. -/
def missing (unit : SourceUnit) (options : ScanOptions) : List Diagnostic :=
  (unit.declarations.filter (·.shouldDocument options)).map Diagnostic.ofDeclaration

/-- What is logged when a unit is scanned. -/
def missingLog (unit : SourceUnit) (options : ScanOptions) : List Log.Entry :=
  unit.declarations.flatMap (·.scanLog options) ++
    [⟨.debug, "scanned source unit",
      [("declarations", toString unit.declarations.length),
        ("missing", toString (unit.missing options).length)]⟩]

/-! ## Patches -/

/-- Whether a patch fits a text whose part from `limit` on has been patched
already: the declaration stands where the patch says. -/
def fits (source : List Char) (limit : Option Nat) (d : Declaration) : Bool :=
  decide (d.span.leadingStart ≤ d.span.start) &&
    limit.all (fun n => decide (d.span.start ≤ n)) &&
    ((cut d.span.start source).any fun (_, rest) => d.sourceText.toList.isPrefixOf rest) &&
    (slice d.span.leadingStart d.span.start source).isSome

/-- The text with the part between two byte offsets replaced. -/
def replaceRange (start stop : Nat) (replacement cs : List Char) : List Char :=
  match cut start cs with
  | none => cs
  | some (before, rest) =>
    match cut (stop - start) rest with
    | none => cs
    | some (_, after) => before ++ replacement ++ after

/-- A text that is being patched from its end. -/
structure Patching where
  text : List Char
  /-- Where the last patch was put in. -/
  limit : Option Nat := none
  /-- The declarations whose patches did not fit, in the order of trial. -/
  skipped : List Declaration := []
  deriving Repr

/-- Puts in one more patch, if it fits the source text. -/
def Patching.add (source : List Char) (state : Patching) (p : Patched) : Patching :=
  let d := p.declaration
  if fits source state.limit d then
    { state with
      text := replaceRange d.span.leadingStart d.span.start p.leadingText.toList state.text
      limit := some d.span.leadingStart }
  else { state with skipped := state.skipped ++ [d] }

/-- The patches from the last to the first by where their trivia starts; those
with the same start stay in order. -/
def orderPatches (patches : List Patched) : List Patched :=
  patches.mergeSort fun a b =>
    decide (b.declaration.span.leadingStart ≤ a.declaration.span.leadingStart)

/-- Applies patches to a text. -/
def patching (unit : SourceUnit) (patches : List Patched) : Patching :=
  (orderPatches patches).foldl (Patching.add unit.text.toList) { text := unit.text.toList }

/-- The text with the patches that fit applied. -/
def apply (unit : SourceUnit) (patches : List Patched) : String :=
  String.ofList (unit.patching patches).text

/-- What is logged when patches are applied. -/
def applyLog (unit : SourceUnit) (patches : List Patched) : List Log.Entry :=
  (unit.patching patches).skipped.map fun d =>
    ⟨.warn, "patch does not match the source unit, skipping",
      [("name", d.name), ("line", toString d.line)]⟩

end SourceUnit

end Gloss
