import Gloss.Proofs.TypeShape.Reader

/-!
# Reading back written types

Reading the text of a regular shape gives the shape, with any parser that gives the text a
node by the grammar (`parse_display`).

Such a node has some regular shape that is written the same (`IsType.spells`). The reader of
this library finds the shape it started from (`read_display`), so no two regular shapes are
written the same (`display_inj`), and the grammar has only one way to read the text.
-/

namespace Gloss.TypeShape

open Gloss.Source Gloss.Text

/-! ## Types of fields -/

/-- The lexemes behind the type in the class that it is put in. -/
def fieldEnd : List Lexeme :=
  [⟨.blank, [' ']⟩, .ofWord "__value".toList, .ofSymbol ';', ⟨.blank, [' ']⟩, .ofSymbol '}']

theorem lexemes_fieldEnd : lexemes " __value; \x7d".toList = fieldEnd := by
  have htext : " __value; \x7d".toList = ' ' :: ("__value".toList ++ [';', ' ', '}']) := rfl
  rw [htext, lexemes_space (by rintro d ⟨⟩; decide),
    lexemes_word (by decide) (by rintro d ⟨⟩; decide),
    lexemes_symbol (by decide) (by rintro d ⟨⟩; decide), lexemes_space (by rintro d ⟨⟩; decide),
    lexemes_symbol (by decide) (by rintro d ⟨⟩), lexemes]
  rfl

theorem inField_eq (written : List Char) :
    inField written = "class".toList ++ ' ' :: ("__Type".toList ++
      ' ' :: '{' :: ' ' :: (written ++ " __value; \x7d".toList)) := by
  have hfront : "class __Type \x7b ".toList =
      "class".toList ++ ' ' :: ("__Type".toList ++ [' ', '{', ' ']) := by decide
  have hassoc (a b c : List Char) : a ++ ' ' :: (b ++ [' ', '{', ' ']) ++ written ++ c =
      a ++ ' ' :: (b ++ ' ' :: '{' :: ' ' :: (written ++ c)) := by simp
  exact (congrArg (· ++ written ++ " __value; \x7d".toList) hfront).trans (hassoc _ _ _)

theorem lexemes_inField {shape : TypeShape} (h : Regular shape) :
    lexemes (inField shape.display.toList) =
      .ofWord "class".toList :: ⟨.blank, [' ']⟩ :: .ofWord "__Type".toList :: ⟨.blank, [' ']⟩ ::
        .ofSymbol '{' :: ⟨.blank, [' ']⟩ :: (shape.tokens ++ fieldEnd) := by
  obtain ⟨c, cs, hcs, hc⟩ := h.exists_start
  have htype := lexemes_display h " __value; \x7d".toList (by simp [Border])
  have hblank : ∀ d ∈ (shape.display.toList ++ " __value; \x7d".toList).head?,
      isSourceBlank d = false := by
    rw [hcs]
    rintro d ⟨⟩
    exact isSourceBlank_of_identifier (.inl hc)
  rw [inField_eq, lexemes_word (by decide) (by rintro d ⟨⟩; decide),
    lexemes_space (by rintro d ⟨⟩; decide), lexemes_word (by decide) (by rintro d ⟨⟩; decide),
    lexemes_space (by rintro d ⟨⟩; decide),
    lexemes_symbol (by decide) (by rintro d ⟨⟩; decide), lexemes_space hblank, htype,
    lexemes_fieldEnd]

/-- The class around a written shape is read to a field with a node for the shape. -/
theorem fieldType?_display {shape : TypeShape} (h : Regular shape) :
    ∃ node, fieldType? fieldTree? shape.display.toList = some node ∧ ReadAs shape node := by
  have hcloses : Closes fieldEnd := by
    rintro l ⟨⟩
    exact .inl rfl
  obtain ⟨node, hnode, htype⟩ := h.reads.typeFrom h hcloses
    (show 4 * shape.tokens.length ≤
      4 * ((⟨.blank, [' ']⟩ : Lexeme) :: (shape.tokens ++ fieldEnd)).length + 4 + 1 by
      simp only [List.length_cons, List.length_append]; omega)
  have hstart : nodeOfLexemes? (⟨.blank, [' ']⟩ :: (shape.tokens ++ fieldEnd)) =
      some (node, fieldEnd) := by
    rw [nodeOfLexemes?, typeFrom_blank, htype]
  refine ⟨{ node with field := some .type }, ?_, hnode.withField _⟩
  have hclass (ls : List Lexeme) : behindWord? "class" (.ofWord "class".toList :: ls) = some ls :=
    rfl
  have hname (ls : List Lexeme) :
      identifier? (⟨.blank, [' ']⟩ :: .ofWord "__Type".toList :: ls) =
        some ("__Type".toList, ls) := rfl
  have hopen (ls : List Lexeme) :
      behindSymbol? "\x7b" (⟨.blank, [' ']⟩ :: .ofSymbol '{' :: ls) = some ls := rfl
  rw [fieldType?, fieldTree?, lexemes_inField h]
  simp only [hclass, hname, hopen, hstart, Option.bind_eq_bind, Option.bind_some]
  rfl

/-- The reader of this library reads types by the grammar. -/
theorem readsType_fieldTree? {shape : TypeShape} (h : Regular shape) :
    ReadsType fieldTree? shape.display.toList := by
  obtain ⟨node, hfield, hnode⟩ := fieldType?_display h
  exact ⟨node, hfield, hnode.hasError, hnode.spells.display_eq.symm, hnode.isType⟩

/-! ## Shapes of texts -/

/-- A node without errors that spans the text of its shape tells the shape of the text. -/
theorem parse_of_shape_eq {parser : List Char → Option SyntaxNode} {shape : TypeShape}
    {node : SyntaxNode} (h : Regular shape)
    (hnode : fieldType? parser shape.display.toList = some node) (herror : node.hasError = false)
    (htext : node.text = shape.display.toList) (hshape : node.shape = shape) :
    parse parser shape.display = shape := by
  obtain ⟨c, cs, hcs, -⟩ := h.exists_start
  have hsqueeze : squeeze shape.display.toList = shape.display.toList := h.spaced.squeeze_eq
  have hempty : shape.display.toList.isEmpty = false := by rw [hcs]; rfl
  have hkept : (some node).filter (fun node =>
      !node.hasError && squeeze node.text == shape.display.toList) = some node := by
    rw [Option.filter_some, herror, htext, hsqueeze, beq_self_eq_true]
    rfl
  rw [parse, hsqueeze, hempty, String.ofList_toList, hnode, hkept]
  by_cases hkey : shape.display ∈ keywordTypes
  · simp [hkey, ← h.eq_primitive hkey]
  · simp [hkey, hshape]

theorem read_display {shape : TypeShape} (h : Regular shape) : read shape.display = shape := by
  obtain ⟨node, hfield, hnode⟩ := fieldType?_display h
  exact parse_of_shape_eq h hfield hnode.hasError hnode.spells.display_eq.symm hnode.shape_eq

/-- No two regular shapes are written the same. -/
theorem display_inj {a b : TypeShape} (ha : Regular a) (hb : Regular b)
    (h : a.display = b.display) : a = b := by
  rw [← read_display ha, h, read_display hb]

/-- Reading the text of a regular shape gives the shape, with any parser that reads the text by
the grammar. -/
theorem parse_display (parser : List Char → Option SyntaxNode) {shape : TypeShape}
    (h : Regular shape) (hparser : ReadsType parser shape.display.toList) :
    parse parser shape.display = shape := by
  obtain ⟨node, hnode, herror, htext, htype⟩ := hparser
  obtain ⟨-, hregular, hdisplay⟩ := htype.spells
  have hshape : node.shape = shape :=
    display_inj hregular h (String.toList_inj.1 (hdisplay.trans htext))
  exact parse_of_shape_eq h hnode herror htext hshape

theorem parse_display_nested :
    let shape : TypeShape := .nullable (.array (.generic "Dictionary"
      [.primitive "string", .array (.nullable (.qualified "System.Guid"))]))
    Regular shape ∧ ReadsType fieldTree? shape.display.toList ∧
      parse fieldTree? "Dictionary<string, System.Guid?[]>[]?" = shape := by
  intro shape
  have hname : ∀ name ∈ ["Dictionary", "System", "Guid"], IsName name := by
    have hall : ∀ name ∈ ["Dictionary", "System", "Guid"], isPlainWord name.toList = true ∧
        name ∉ keywordTypes ++ reservedWords ++ memberWords ++ ["var"] := by decide
    exact fun name h => ⟨(hall name h).1, (hall name h).2⟩
  have hparts : ∀ part ∈ ["System", "Guid"], IsName part :=
    fun part h => hname part (List.mem_cons_of_mem _ h)
  have hguid : Regular (.qualified "System.Guid") := by
    rw [show "System.Guid" = ".".intercalate ["System", "Guid"] by decide]
    exact .qualified hparts (by decide)
  have hargs : ∀ arg ∈ [.primitive "string", .array (.nullable (.qualified "System.Guid"))],
      Regular arg := by
    simpa using ⟨.primitive (by decide) (by decide), .array (.nullable hguid (by simp))⟩
  have hregular : Regular shape :=
    .nullable (.array (.generic (hname _ (by simp)) hargs (by simp))) (by simp)
  have hdisplay : shape.display = "Dictionary<string, System.Guid?[]>[]?" := by decide
  have hparse := parse_display fieldTree? hregular (readsType_fieldTree? hregular)
  rw [hdisplay] at hparse
  exact ⟨hregular, readsType_fieldTree? hregular, hparse⟩

end Gloss.TypeShape
