import Gloss.Comment.Render

/-!
# Reading documentation comments

Documentation lines are stripped of their marks and read as XML, one element at
a time. `summary`, `param`, `returns` and `inheritdoc` become segments of their
own; other elements, XML comments and loose text are kept verbatim.

An element ends at the closing tag that balances it (`findClosing`). The search
looks at the leftmost place where the name follows a `<` and asks only then
whether an element of that name opens there.
-/

namespace Gloss.Comment

open Gloss.Text

/-! ## Contents -/

/-- The text of an element: its lines are trimmed, and empty lines at both ends
dropped. -/
def normalizeText (content : List Char) : String :=
  let trimmed := (lines content).map trim
  String.ofList (joinLines (dropEndWhile List.isEmpty (trimmed.dropWhile List.isEmpty)))

/-- The segment that keeps a text. -/
def keepVerbatim (raw : List Char) : Segment :=
  .verbatim ((lines (trim raw)).map fun line => String.ofList (trimEnd line))

/-! ## Attributes -/

/-- The text inside the quotes at the start of a text. -/
def quotedValue : List Char → Option (List Char)
  | [] => none
  | quote :: inner =>
    if quote = '"' ∨ quote = '\x27' then (breakOn [quote] inner).map (·.1) else none

/-- The value of the attribute `name` in a tag. It counts where a blank stands
before it and an equals sign after it. -/
def nameAttribute (tag : List Char) : Option (List Char) :=
  match h : breakOn ['n', 'a', 'm', 'e'] tag with
  | none => none
  | some (before, after) =>
    have : after.length < tag.length := by
      have := length_after_breakOn h
      simp at this
      omega
    if before.getLast?.any isBlank then
      match trimStart after with
      | '=' :: value => quotedValue (trimStart value)
      | _ => nameAttribute after
    else nameAttribute after
  termination_by tag.length

/-! ## Elements -/

/-- Whether the text behind a tag's name shows that the name ends there. -/
def endsName : List Char → Bool
  | [] => false
  | c :: _ => isBlank c || c == '>' || c == '/'

/-- The next tag that opens an element `name` in front of the position `limit`:
the text through the tag, whether the tag closes itself, and the rest. -/
def nextOpening (name : List Char) (limit : Nat) (rest : List Char) :
    Option (List Char × Bool × List Char) :=
  match breakOn ('<' :: name) rest with
  | none => none
  | some (before, after) =>
    if before.length < limit && endsName after then
      (breakOn ['>'] after).map fun (tail, beyond) =>
        (before ++ '<' :: name ++ tail ++ ['>'], ('<' :: name ++ tail).getLast? == some '/', beyond)
    else none

theorem nextOpening_eq {name rest through beyond : List Char} {limit : Nat} {closed : Bool}
    (h : nextOpening name limit rest = some (through, closed, beyond)) :
    rest = through ++ beyond ∧ through ≠ [] := by
  unfold nextOpening at h
  split at h
  · cases h
  · rename_i before after hb
    split at h
    · obtain ⟨⟨tail, b⟩, ht, heq⟩ := Option.map_eq_some_iff.1 h
      simp only [Prod.mk.injEq] at heq
      obtain ⟨rfl, -, rfl⟩ := heq
      have h1 := breakOn_eq hb
      have h2 := breakOn_eq ht
      refine ⟨?_, by simp⟩
      rw [h1, h2]
      simp
    · cases h

/-- The content of an element and the text behind its closing tag; `depth` counts
the elements of the same name that are open inside it. -/
def findClosing (name : List Char) (depth : Nat) (rest : List Char) :
    Option (List Char × List Char) :=
  match hc : breakOn (closingTag name) rest with
  | none => none
  | some (before, after) =>
    match ho : nextOpening name before.length rest with
    | some (through, closed, beyond) =>
      have : beyond.length < rest.length := by
        obtain ⟨rfl, hne⟩ := nextOpening_eq ho
        have := List.length_pos_iff.2 hne
        simp
        omega
      (findClosing name (if closed then depth else depth + 1) beyond).map
        fun (content, tail) => (through ++ content, tail)
    | none =>
      have : after.length < rest.length := by
        have := length_after_breakOn hc
        simp [closingTag] at this
        omega
      match depth with
      | 0 => some (before, after)
      | depth + 1 =>
        (findClosing name depth after).map
          fun (content, tail) => (before ++ closingTag name ++ content, tail)
  termination_by rest.length

theorem findClosing_eq {name rest content tail : List Char} {depth : Nat}
    (h : findClosing name depth rest = some (content, tail)) :
    rest = content ++ closingTag name ++ tail := by
  fun_induction findClosing name depth rest generalizing content with
  | case1 => cases h
  | case2 depth rest before after hc through closed beyond ho hlt ih =>
    obtain ⟨⟨c, t⟩, hf, heq⟩ := Option.map_eq_some_iff.1 h
    simp only [Prod.mk.injEq] at heq
    obtain ⟨rfl, rfl⟩ := heq
    rw [(nextOpening_eq ho).1, ih hf]
    simp
  | case3 rest before after hc ho hlt =>
    simp only [Option.some.injEq, Prod.mk.injEq] at h
    obtain ⟨rfl, rfl⟩ := h
    exact breakOn_eq hc
  | case4 rest before after hc ho hlt depth ih =>
    obtain ⟨⟨c, t⟩, hf, heq⟩ := Option.map_eq_some_iff.1 h
    simp only [Prod.mk.injEq] at heq
    obtain ⟨rfl, rfl⟩ := heq
    have h1 := breakOn_eq hc
    rw [ih hf] at h1
    rw [h1]
    simp

/-- The name of a tag: what stands before a blank or a slash. -/
def tagName (tag : List Char) : List Char :=
  tag.takeWhile fun c => !isBlank c && c != '/'

/-- The segment of an element with a tag, a name and a content. -/
def elementSegment (tag name content : List Char) : Except Fault Segment :=
  if name = "summary".toList then .ok (.summary (normalizeText content))
  else if name = "returns".toList then .ok (.returns (normalizeText content))
  else if name = "param".toList then
    match nameAttribute tag with
    | some value => .ok (.param (String.ofList value) (normalizeText content))
    | none => .error .paramWithoutName
  else if name = "inheritdoc".toList then .ok .inheritDoc
  else .ok (keepVerbatim ('<' :: tag ++ ['>'] ++ content ++ closingTag name))

/-- Reads an element behind its opening `<`, and gives the text behind it. -/
def readElement (rest : List Char) : Except Fault (Segment × List Char) :=
  match breakOn ['>'] rest with
  | none => .error .openTag
  | some (tag, after) =>
    let name := tagName tag
    if tag.head? = some '/' then .error (.strayClosing (String.ofList tag))
    else if name.isEmpty then .error .unnamedElement
    else if tag.getLast? = some '/' then
      if name = "inheritdoc".toList then .ok (.inheritDoc, after)
      else .ok (keepVerbatim ('<' :: tag ++ ['>']), after)
    else
      match findClosing name 0 after with
      | none => .error (.neverClosed (String.ofList name))
      | some (content, tail) => (elementSegment tag name content).map (·, tail)

theorem length_readElement_lt {rest tail : List Char} {segment : Segment}
    (h : readElement rest = .ok (segment, tail)) : tail.length < rest.length := by
  unfold readElement at h
  split at h
  · cases h
  · rename_i tag after hb
    have hlen := length_after_breakOn hb
    simp only [List.length_singleton] at hlen
    dsimp only at h
    split at h
    · cases h
    split at h
    · cases h
    split at h
    · split at h <;> cases h <;> omega
    split at h
    · cases h
    · rename_i content t hf
      have hsplit := congrArg List.length (findClosing_eq hf)
      simp only [List.length_append] at hsplit
      cases hs : elementSegment tag (tagName tag) content with
      | error e => rw [hs] at h; cases h
      | ok s =>
        rw [hs] at h
        cases h
        omega

/-! ## Comments -/

/-- Reads the segments of the body of a comment. -/
def readSegments (body : List Char) : Except Fault (List Segment) :=
  match hb : trimStart body with
  | [] => .ok []
  | c :: more =>
    have hle : more.length < body.length := by
      have := length_trimStart_le body
      rw [hb, List.length_cons] at this
      omega
    if c ≠ '<' then
      let text := (c :: more).takeWhile (· != '<')
      have : (more.dropWhile (· != '<')).length < body.length :=
        Nat.lt_of_le_of_lt (List.dropWhile_sublist _).length_le hle
      (readSegments (more.dropWhile (· != '<'))).map (keepVerbatim text :: ·)
    else if ['!', '-', '-'].isPrefixOf more then
      match hx : breakOn ['-', '-', '>'] (c :: more) with
      | none => .error .openXmlComment
      | some (inside, after) =>
        have : after.length < body.length := by
          have := length_after_breakOn hx
          simp at this
          omega
        (readSegments after).map (keepVerbatim (inside ++ ['-', '-', '>']) :: ·)
    else
      match he : readElement more with
      | .error fault => .error fault
      | .ok (segment, after) =>
        have : after.length < body.length := Nat.lt_trans (length_readElement_lt he) hle
        (readSegments after).map (segment :: ·)
  termination_by body.length

/-- The content of a documentation line: what follows the mark, without one space
before and the blanks behind it. -/
def lineContent (line : String) : Except Fault (List Char) :=
  let trimmed := trimStart line.toList
  match dropPrefix? docMarker.toList trimmed with
  | none => .error (.notDocLine (String.ofList trimmed))
  | some (' ' :: rest) => .ok (trimEnd rest)
  | some rest => .ok (trimEnd rest)

/-- The contents of documentation lines, up to the first that is none. -/
def lineContents : List String → Except Fault (List (List Char))
  | [] => .ok []
  | line :: rest => do
    let content ← lineContent line
    let contents ← lineContents rest
    return content :: contents

/-- Reads a comment from its documentation lines. -/
def readLines (docLines : List String) : Except Fault Comment := do
  let contents ← lineContents docLines
  let segments ← readSegments (joinLines contents)
  return ⟨segments⟩

/-- Reads a comment from a block of text, whose blank lines do not count. -/
def read (block : String) : Except Fault Comment :=
  readLines ((linesOf block).filter fun line => !isBlankText line.toList)

/-! ## Recovery -/

/-- The lines of the documenting element that starts on the first line: a summary
through the line that closes it, or a line with an `inheritdoc`. -/
def documentingLines : List String → Option (List String)
  | [] => none
  | line :: rest =>
    if occurs "<summary" line then
      ((line :: rest).findIdx? (occurs "</summary>")).map fun last =>
        (line :: rest).take (last + 1)
    else if occurs "<inheritdoc" line then some [line]
    else none

/-- The comment in the element that starts on the first line, if it documents
something. -/
def recoverHere (docLines : List String) : Option Comment :=
  match documentingLines docLines with
  | none => none
  | some part =>
    match readLines part with
    | .ok comment => if comment.hasSummary || comment.hasInheritDoc then some comment else none
    | .error _ => none

/-- The last documenting element among lines that do not read as a whole. -/
def recoverLines : List String → Option Comment
  | [] => none
  | line :: rest => (recoverLines rest).or (recoverHere (line :: rest))

end Gloss.Comment
