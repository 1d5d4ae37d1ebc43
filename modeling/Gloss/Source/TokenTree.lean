import Gloss.Source.Lexeme

/-!
# Token trees

Lexemes grouped by the brackets around them. Round, square and curly brackets
make groups, and so do `#if` and `#endif`. A text whose brackets do not match, or
that has stray text, has no trees. `text_group` says that grouping keeps the
text.
-/

namespace Gloss.Source

/-- What holds a group together. -/
inductive Bracket where
  | round
  | square
  | curly
  /-- `#if` and `#endif`. -/
  | conditional
  deriving DecidableEq, Repr

/-- A lexeme, or a group of trees between its brackets. -/
inductive TokenTree where
  | leaf (lexeme : Lexeme)
  | group (bracket : Bracket) (opening : Lexeme) (children : List TokenTree) (closing : Lexeme)
  deriving Repr

namespace TokenTree

mutual

/-- The lexemes of a tree. -/
def lexemes : TokenTree → List Lexeme
  | leaf lexeme => [lexeme]
  | group _ opening children closing => opening :: lexemesOfAll children ++ [closing]

/-- The lexemes of a list of trees. -/
def lexemesOfAll : List TokenTree → List Lexeme
  | [] => []
  | tree :: trees => tree.lexemes ++ lexemesOfAll trees

end

/-- The text of a list of trees. -/
def textOfAll (trees : List TokenTree) : List Char :=
  lexemesText (lexemesOfAll trees)

theorem lexemesOfAll_append (a b : List TokenTree) :
    lexemesOfAll (a ++ b) = lexemesOfAll a ++ lexemesOfAll b := by
  induction a with
  | nil => rfl
  | cons tree trees ih => rw [List.cons_append, lexemesOfAll, lexemesOfAll, ih, List.append_assoc]

/-- Whether a tree is a lexeme that may stand anywhere. -/
def isTrivia : TokenTree → Bool
  | leaf l => l.isTrivia
  | group .. => false

/-- Whether a tree is a given symbol. -/
def isSymbol (tree : TokenTree) (symbol : String) : Bool :=
  match tree with
  | leaf l => l.isSymbol symbol
  | group .. => false

end TokenTree

/-! ## Grouping -/

/-- What a lexeme does to the groups. -/
inductive Role where
  | opens (bracket : Bracket)
  | closes (bracket : Bracket)
  | stays
  | breaks
  deriving DecidableEq, Repr

/-- What a symbol does to the groups. -/
def symbolRole : List Char → Role
  | ['('] => .opens .round
  | [')'] => .closes .round
  | ['['] => .opens .square
  | [']'] => .closes .square
  | ['{'] => .opens .curly
  | ['}'] => .closes .curly
  | _ => .stays

/-- What a lexeme does to the groups. -/
def Lexeme.role (l : Lexeme) : Role :=
  match l.kind with
  | .symbol => symbolRole l.text
  | .conditionStart => .opens .conditional
  | .conditionEnd => .closes .conditional
  | .stray => .breaks
  | _ => .stays

/-- A group that is not closed yet, with the trees before it, the last first. -/
structure OpenGroup where
  bracket : Bracket
  opening : Lexeme
  before : List TokenTree
  deriving Repr

/-- Groups lexemes behind the open groups `stack`; `done` are the trees since the
last opening, the last first. -/
def groupFrom (stack : List OpenGroup) (done : List TokenTree) :
    List Lexeme → Option (List TokenTree)
  | [] => if stack.isEmpty then some done.reverse else none
  | l :: ls =>
    match l.role with
    | .opens bracket => groupFrom (⟨bracket, l, done⟩ :: stack) [] ls
    | .closes bracket =>
      match stack with
      | [] => none
      | g :: outer =>
        if g.bracket = bracket then
          groupFrom outer (.group bracket g.opening done.reverse l :: g.before) ls
        else none
    | .stays => groupFrom stack (.leaf l :: done) ls
    | .breaks => none

/-- The trees of a list of lexemes; none if brackets do not match. -/
def group (ls : List Lexeme) : Option (List TokenTree) :=
  groupFrom [] [] ls

/-- The lexemes in front of the point that grouping has reached. -/
def lexemesBefore (done : List TokenTree) : List OpenGroup → List Lexeme
  | [] => TokenTree.lexemesOfAll done.reverse
  | g :: outer => lexemesBefore g.before outer ++ g.opening :: TokenTree.lexemesOfAll done.reverse

theorem lexemesBefore_append (stack : List OpenGroup) (tree : TokenTree) (done : List TokenTree) :
    lexemesBefore (tree :: done) stack = lexemesBefore done stack ++ tree.lexemes := by
  cases stack <;>
    simp [lexemesBefore, TokenTree.lexemesOfAll_append, TokenTree.lexemesOfAll]

theorem lexemes_groupFrom {stack : List OpenGroup} {done trees : List TokenTree}
    {ls : List Lexeme} (h : groupFrom stack done ls = some trees) :
    TokenTree.lexemesOfAll trees = lexemesBefore done stack ++ ls := by
  fun_induction groupFrom stack done ls with
  | case1 stack done hs =>
    cases h
    cases List.isEmpty_iff.1 hs
    simp [lexemesBefore]
  | case2 => cases h
  | case3 stack done l ls bracket hr ih =>
    rw [ih h]
    simp [lexemesBefore, TokenTree.lexemesOfAll]
  | case4 => cases h
  | case5 done l ls g outer hr ih =>
    rw [ih h, lexemesBefore_append]
    simp [lexemesBefore, TokenTree.lexemes]
  | case6 => cases h
  | case7 stack done l ls hr ih =>
    rw [ih h, lexemesBefore_append]
    simp [TokenTree.lexemes]
  | case8 => cases h

/-- Grouping keeps the text. -/
theorem text_group {ls : List Lexeme} {trees : List TokenTree} (h : group ls = some trees) :
    TokenTree.textOfAll trees = lexemesText ls := by
  rw [TokenTree.textOfAll, lexemes_groupFrom h]
  simp [lexemesBefore, TokenTree.lexemesOfAll]

end Gloss.Source
