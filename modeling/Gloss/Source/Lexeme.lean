import Gloss.Text.Blank
import Gloss.Text.Identifier
import Gloss.Text.Search

/-!
# Lexemes of a C# text

A text is cut into lexemes without losing a character: `text_lexemes` says that
the lexemes put together are the text. A literal is one lexeme, with all strings
nested in the holes of an interpolated one. Directive lines are lexemes too, and
of the conditional ones only the part that belongs to the condition.
-/

namespace Gloss.Source

open Gloss.Text

/-- What a lexeme is. -/
inductive LexemeKind where
  | blank
  | comment
  /-- A directive line that does not take part in conditional compilation. -/
  | directive
  /-- `#if` with its condition. -/
  | conditionStart
  /-- `#elif` with its condition, or `#else`. -/
  | conditionTurn
  /-- `#endif`. -/
  | conditionEnd
  /-- An identifier or a keyword. -/
  | word
  | number
  /-- A string or character literal. -/
  | literal
  | symbol
  /-- Text that starts no lexeme, or one that does not end. -/
  | stray
  deriving DecidableEq, Repr

/-- A lexeme with its text. -/
structure Lexeme where
  kind : LexemeKind
  text : List Char
  deriving DecidableEq, Repr

/-- The text of a list of lexemes. -/
def lexemesText (ls : List Lexeme) : List Char :=
  ls.flatMap Lexeme.text

/-- Whether a lexeme may stand anywhere between the others. -/
def Lexeme.isTrivia (l : Lexeme) : Bool :=
  match l.kind with
  | .blank | .comment | .directive | .conditionStart | .conditionTurn | .conditionEnd => true
  | _ => false

/-- Whether a lexeme is a given symbol. -/
def Lexeme.isSymbol (l : Lexeme) (symbol : String) : Bool :=
  l.kind == .symbol && l.text == symbol.toList

/-- Whether a lexeme is a given word. -/
def Lexeme.isWord (l : Lexeme) (word : String) : Bool :=
  l.kind == .word && l.text == word.toList

/-! ## Characters -/

/-- Whether a character is blank in a source text: a byte order mark counts. -/
def isSourceBlank (c : Char) : Bool :=
  isBlank c || c == '\ufeff'

/-- Whether a character belongs to a line break. -/
def isBreak (c : Char) : Bool :=
  c == '\n' || c == '\r'

/-! ## Literals -/

/-- An open part of a literal. -/
inductive Quote where
  /-- One character that is taken as it is. -/
  | escape
  /-- `"…"`, with holes if it is interpolated. -/
  | plain (holes : Bool)
  /-- `@"…"`, with holes if it is interpolated. -/
  | verbatim (holes : Bool)
  /-- A literal between runs of `quotes` quotes; a run of `dollars` braces opens a
  hole, and none does if there is no dollar. The last two count the quotes and
  the braces met in a row. -/
  | raw (quotes dollars quoteRun braceRun : Nat)
  /-- A character between apostrophes. -/
  | character
  /-- A hole that ends at `closers` closing braces: open braces inside, and the
  closing braces met in a row. -/
  | hole (closers depth closeRun : Nat)
  deriving DecidableEq, Repr

/-- The parts that are open after a character inside a plain or verbatim text. -/
def openHole (holes : Bool) (next : Option Char) (stack : List Quote) : List Quote :=
  if holes then
    if next == some '{' then .escape :: stack else .hole 1 0 0 :: stack
  else stack

/-- The parts that are open after a character, which `next` follows. -/
def advance (stack : List Quote) (c : Char) (next : Option Char) : List Quote :=
  match stack with
  | [] => []
  | .escape :: outer => outer
  | .plain holes :: outer =>
    if c == '\\' then .escape :: stack
    else if c == '"' then outer
    else if c == '{' then openHole holes next stack
    else stack
  | .verbatim holes :: outer =>
    if c == '"' then if next == some '"' then .escape :: stack else outer
    else if c == '{' then openHole holes next stack
    else stack
  | .raw quotes dollars quoteRun braceRun :: outer =>
    if c == '"' then
      if quoteRun + 1 == quotes then outer else .raw quotes dollars (quoteRun + 1) 0 :: outer
    else if c == '{' && dollars != 0 then
      if braceRun + 1 == dollars then .hole dollars 0 0 :: .raw quotes dollars 0 0 :: outer
      else .raw quotes dollars 0 (braceRun + 1) :: outer
    else .raw quotes dollars 0 0 :: outer
  | .character :: outer =>
    if c == '\\' then .escape :: stack
    else if c == '\x27' then outer
    else stack
  | .hole closers depth closeRun :: outer =>
    if c == '{' then .hole closers (depth + 1) 0 :: outer
    else if c == '}' then
      if depth != 0 then .hole closers (depth - 1) 0 :: outer
      else if closeRun + 1 == closers then outer
      else .hole closers 0 (closeRun + 1) :: outer
    else if c == '"' then .plain false :: stack
    else if c == '\x27' then .character :: stack
    else if c == '$' && next == some '"' then .escape :: .plain true :: stack
    else if c == '@' && next == some '"' then .escape :: .verbatim false :: stack
    else stack

/-- How many characters close all open parts; none if they stay open. -/
def literalLength (stack : List Quote) : List Char → Option Nat
  | [] => none
  | c :: cs =>
    match advance stack c cs.head? with
    | [] => some 1
    | inner :: outer => (literalLength (inner :: outer) cs).map (· + 1)

/-- The part that the quotes at the start of a text open behind some dollars, and
how many quotes open it. -/
def openQuotes (dollars : Nat) (cs : List Char) : Option (Quote × Nat) :=
  let quotes := (cs.takeWhile (· == '"')).length
  if quotes = 0 then none
  else if quotes < 3 then some (.plain (dollars != 0), 1)
  else some (.raw quotes dollars 0 0, quotes)

/-- The part that a literal at the start of a text opens, and the length of its
opening. -/
def openLiteral (cs : List Char) : Option (Quote × Nat) :=
  match cs with
  | '\x27' :: _ => some (.character, 1)
  | '@' :: '"' :: _ => some (.verbatim false, 2)
  | '@' :: '$' :: '"' :: _ => some (.verbatim true, 3)
  | '$' :: '@' :: '"' :: _ => some (.verbatim true, 3)
  | _ =>
    let dollars := (cs.takeWhile (· == '$')).length
    (openQuotes dollars (cs.drop dollars)).map fun (quote, quotes) => (quote, dollars + quotes)

/-! ## Directives -/

/-- The part of a line in front of a comment. -/
def beforeComment : List Char → List Char
  | [] => []
  | '/' :: '/' :: _ => []
  | '/' :: '*' :: _ => []
  | c :: cs => c :: beforeComment cs

/-- The kind and the length of the directive whose text follows a `#`. -/
def directiveExtent (cs : List Char) : LexemeKind × Nat :=
  let line := cs.takeWhile fun c => !isBreak c
  let gap := (line.takeWhile isBlank).length
  let name := (line.drop gap).takeWhile Char.isAlpha
  if name = "if".toList then (.conditionStart, (trimEnd (beforeComment line)).length)
  else if name = "elif".toList then (.conditionTurn, (trimEnd (beforeComment line)).length)
  else if name = "else".toList then (.conditionTurn, gap + name.length)
  else if name = "endif".toList then (.conditionEnd, gap + name.length)
  else (.directive, line.length)

/-! ## Lexemes -/

/-- The symbols of two characters that must not be read as two. -/
def longSymbols : List (Char × Char) :=
  [('=', '>'), ('=', '='), ('!', '='), ('<', '='), ('>', '='), (':', ':'), ('?', '?')]

/-- Whether a character is a symbol by itself. -/
def isSymbolChar (c : Char) : Bool :=
  "()[]\x7b\x7d<>.,;:?=+-*/%&|^!~".toList.contains c

/-- The kind of the lexeme that starts with a character, and how many of the
characters behind it belong to it. -/
def extent (c : Char) (cs : List Char) : LexemeKind × Nat :=
  if isSourceBlank c then (.blank, (cs.takeWhile isSourceBlank).length)
  else if c == '/' && cs.head? == some '/' then
    (.comment, (cs.takeWhile fun d => !isBreak d).length)
  else if c == '/' && cs.head? == some '*' then
    match breakOn ['*', '/'] (cs.drop 1) with
    | some (inside, _) => (.comment, inside.length + 3)
    | none => (.stray, cs.length)
  else if c == '#' then directiveExtent cs
  else if isIdentifierStart c then (.word, (cs.takeWhile isIdentifierPart).length)
  else if c == '@' && (cs.head?.any isIdentifierStart) then
    (.word, (cs.takeWhile isIdentifierPart).length)
  else if c.isDigit then (.number, (cs.takeWhile isIdentifierPart).length)
  else
    match openLiteral (c :: cs) with
    | some (quote, opening) =>
      match literalLength [quote] ((c :: cs).drop opening) with
      | some n => (.literal, opening - 1 + n)
      | none => (.stray, cs.length)
    | none =>
      if cs.head?.any fun d => longSymbols.contains (c, d) then (.symbol, 1)
      else if isSymbolChar c then (.symbol, 0)
      else (.stray, 0)

/-- The lexemes of a text. -/
def lexemes (cs : List Char) : List Lexeme :=
  match cs with
  | [] => []
  | c :: rest =>
    let (kind, n) := extent c rest
    ⟨kind, c :: rest.take n⟩ :: lexemes (rest.drop n)
  termination_by cs.length
  decreasing_by simp only [List.length_drop, List.length_cons]; omega

/-- No character is lost. -/
theorem text_lexemes (cs : List Char) : lexemesText (lexemes cs) = cs := by
  fun_induction lexemes cs with
  | case1 => rfl
  | case2 c rest kind n _ ih =>
    have h : lexemesText (⟨kind, c :: rest.take n⟩ :: lexemes (rest.drop n)) =
        (c :: rest.take n) ++ lexemesText (lexemes (rest.drop n)) :=
      rfl
    rw [h, ih, List.cons_append, List.take_append_drop]

end Gloss.Source
