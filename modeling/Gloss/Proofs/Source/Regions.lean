import Gloss.Proofs.Source.Tree

/-!
# Where declarations stand

The declarations of a tree stand one behind the other in the text, each with its trivia in
front of it (`Regions`): the trivia of a declaration start behind the start of the
declaration before it, be that one finished or around it. `regions_collect` says so of all
sound trees.

The proof goes along the walk. A scope is seen as the siblings that have been passed and
those that are left: leading trivia start where the last of the passed ends that is no
trivia (`Node.covered`).
-/

namespace Gloss.Source

open Gloss.Text
open Node (textOfAll covered headText Occurs)

variable {nodes : List Node} {source : List Char}

/-- A comment of a tree without the line breaks at its end. -/
def CommentOf (nodes : List Node) (text : List Char) : Prop :=
  ∃ whole, Occurs (.comment whole) nodes ∧ text = dropEndWhile isBreak whole

/-- The node of a declaration: the text in front of its trivia ends with the siblings in front
of it, and its own text comes behind the trivia. -/
def IsPlaced (nodes : List Node) (before after : List Char) : Prop :=
  ∃ outer passed header parts left rest,
    IsScope nodes outer (passed ++ .scope (.declaration header) parts :: left) ∧
      before = outer ++ textOfAll (covered passed) ∧ after = textOfAll parts ++ rest

/-- A declaration in a source text: `before` and its trivia stand in front of it. -/
structure Stands (nodes : List Node) (source before region after : List Char) (d : Declaration) :
    Prop where
  source_eq : source = before ++ (region ++ after)
  leadingStart_eq : d.span.leadingStart = byteLength before
  start_eq : d.span.start = byteLength (before ++ region)
  placed : IsPlaced nodes before after
  pieces : Pieces (CommentOf nodes) region d.leadingTrivia
  sourceText_isPrefix : d.sourceText.toList <+: after
  indent_eq : d.indent =
    if (linePrefix (before ++ region)).all (fun c => c == ' ' || c == '\t') then
      String.ofList (linePrefix (before ++ region))
    else ""

theorem SyntaxTree.Tidy.inked {tree : SyntaxTree} (h : tree.Tidy) {text : List Char}
    (htext : CommentOf tree.nodes text) : Inked text := by
  obtain ⟨whole, hin, rfl⟩ := htext
  exact h.comments whole hin

theorem Stands.anchored {tree : SyntaxTree} {before region after : List Char} {d : Declaration}
    (h : Stands tree.nodes source before region after d) (htidy : tree.Tidy) : Anchored before := by
  obtain ⟨outer, passed, header, parts, left, rest, hscope, rfl, -⟩ := h.placed
  exact htidy.anchored hscope

theorem Stands.head?_ne {tree : SyntaxTree} {before region after : List Char} {d : Declaration}
    (h : Stands tree.nodes source before region after d) (hsound : tree.Sound source)
    (htidy : tree.Tidy) : after.head? ≠ some '\n' := by
  obtain ⟨outer, passed, header, parts, left, rest, hscope, -, rfl⟩ := h.placed
  have hin := hscope.occurs (List.mem_append_right _ List.mem_cons_self)
  have hne : textOfAll parts ≠ [] := by
    intro hnil
    have hhead := Node.headText_isPrefix parts
    rw [hnil, List.prefix_nil] at hhead
    exact hsound.declarations header parts hin hhead
  rw [List.head?_append_of_ne_nil _ hne]
  exact htidy.declarations header parts hin

/-- Declarations that stand one behind the other between two offsets. -/
structure Regions (nodes : List Node) (source : List Char) (start stop : Nat)
    (ds : List Declaration) : Prop where
  stands : ∀ d ∈ ds, ∃ before region after, Stands nodes source before region after d
  ordered : ds.Pairwise fun d d' => d.span.start < d'.span.leadingStart
  within : ∀ d ∈ ds, start ≤ d.span.leadingStart ∧ d.span.start < stop

theorem regions_nil (nodes : List Node) (source : List Char) (start stop : Nat) :
    Regions nodes source start stop [] :=
  ⟨fun _ h => absurd h List.not_mem_nil, .nil, fun _ h => absurd h List.not_mem_nil⟩

theorem Regions.mono {start stop start' stop' : Nat} {ds : List Declaration}
    (h : Regions nodes source start stop ds) (hstart : start' ≤ start) (hstop : stop ≤ stop') :
    Regions nodes source start' stop' ds :=
  ⟨h.stands, h.ordered, fun d hd => ⟨Nat.le_trans hstart (h.within d hd).1,
    Nat.lt_of_lt_of_le (h.within d hd).2 hstop⟩⟩

theorem Regions.append {start mid stop : Nat} {ds ds' : List Declaration}
    (h : Regions nodes source start mid ds) (h' : Regions nodes source mid stop ds')
    (hstart : start ≤ mid) (hstop : mid ≤ stop) : Regions nodes source start stop (ds ++ ds') where
  stands d hd := (List.mem_append.1 hd).elim (h.stands d) (h'.stands d)
  ordered := List.pairwise_append.2 ⟨h.ordered, h'.ordered, fun d hd d' hd' => by
    have hlt := (h.within d hd).2
    have hle := (h'.within d' hd').1
    omega⟩
  within d hd := by
    rcases List.mem_append.1 hd with hd | hd
    · exact (h.mono (Nat.le_refl _) hstop).within d hd
    · exact (h'.mono hstart (Nat.le_refl _)).within d hd

/-! ## Comments of a scope -/

/-- The comments of a scope stand where their spans say. -/
theorem at_of_mem_commentSpans {C : List Char → Prop} (before : List Char) {children : List Node}
    {after : List Char} {s : CommentSpan}
    (hsource : source = before ++ (textOfAll children ++ after))
    (hchildren : ∀ text, .comment text ∈ children →
      text.head? = some '/' ∧ C (dropEndWhile isBreak text))
    (hs : s ∈ commentSpans (byteLength before) children) : s.At C source := by
  induction children generalizing before with
  | nil => cases hs
  | cons node children ih =>
    have hbehind : source = (before ++ node.text) ++ (textOfAll children ++ after) := by
      rw [hsource, textOfAll]
      simp only [List.append_assoc]
    have hrest : s ∈ commentSpans (byteLength (before ++ node.text)) children → s.At C source :=
      ih (before ++ node.text) hbehind fun text htext =>
        hchildren text (List.mem_cons_of_mem _ htext)
    have hpos : byteLength before + node.width = byteLength (before ++ node.text) := by
      rw [byteLength_append]
      rfl
    cases node with
    | comment text =>
      rw [commentSpans] at hs
      rcases List.mem_cons.1 hs with rfl | hs
      · refine ⟨before, text, textOfAll children ++ after, ?_, rfl, rfl,
          hchildren text List.mem_cons_self⟩
        rw [hbehind, Node.text, List.append_assoc]
      · exact hrest (hpos ▸ hs)
    | _ =>
      change s ∈ commentSpans (byteLength before + Node.width _) children at hs
      exact hrest (hpos ▸ hs)

theorem SyntaxTree.Sound.at_commentSpans {tree : SyntaxTree} (h : tree.Sound source)
    {outer after : List Char} {siblings : List Node} (hscope : IsScope tree.nodes outer siblings)
    (hsource : source = outer ++ (textOfAll siblings ++ after)) {s : CommentSpan}
    (hs : s ∈ commentSpans (byteLength outer) siblings) : s.At (CommentOf tree.nodes) source :=
  at_of_mem_commentSpans outer hsource
    (fun text htext => ⟨h.comments text (hscope.occurs htext), text, hscope.occurs htext, rfl⟩) hs

/-! ## One declaration -/

theorem stands_declarationAt {container : Option Container} {comments : List CommentSpan}
    {header : Header} {before region text rest : List Char}
    (hsource : source = before ++ (region ++ (text ++ rest)))
    (hplaced : IsPlaced nodes before (text ++ rest))
    (hcomments : ∀ s ∈ comments, s.At (CommentOf nodes) source) :
    Stands nodes source before region (text ++ rest) (declarationAt source container comments
      ⟨byteLength before, byteLength (before ++ region),
        byteLength (before ++ region) + byteLength text⟩ header) := by
  have hassoc : source = (before ++ region) ++ (text ++ rest) := by
    rw [hsource, List.append_assoc]
  have hcut : cut (byteLength (before ++ region)) source =
      some (before ++ region, text ++ rest) := by
    rw [hassoc, cut_byteLength_append]
  have hslice : slice (byteLength (before ++ region))
      (byteLength (before ++ region) + byteLength text) source = some text := by
    rw [hassoc, ← byteLength_append, slice_append]
  refine ⟨hsource, rfl, rfl, hplaced, pieces_leadingTrivia hsource hcomments, ?_, ?_⟩
  · obtain ⟨blanks, hblanks, -⟩ := trimEnd_split text
    refine ⟨blanks ++ rest, ?_⟩
    simp only [declarationAt, hslice, Option.getD_some, String.toList_ofList]
    rw [← List.append_assoc, ← hblanks]
  · simp only [declarationAt, hcut, Option.map_some, Option.getD_some]

/-- The declaration of a node whose siblings `passed` stand in front of it. -/
theorem regions_declarationAt (container : Option Container) {comments : List CommentSpan}
    {header : Header} {outer after : List Char} {passed parts left : List Node}
    (hscope : IsScope nodes outer (passed ++ .scope (.declaration header) parts :: left))
    (hsource : source = outer ++ (textOfAll passed ++ (textOfAll parts ++ after)))
    (hcomments : ∀ s ∈ comments, s.At (CommentOf nodes) source) :
    let lead := byteLength (outer ++ textOfAll (covered passed))
    let pos := byteLength (outer ++ textOfAll passed)
    Regions nodes source lead (pos + 1) [declarationAt source container comments
      ⟨lead, pos, pos + byteLength (textOfAll parts)⟩ header] := by
  intro lead pos
  obtain ⟨trivia, hpassed⟩ := Node.textOfAll_covered passed
  have hpos : byteLength ((outer ++ textOfAll (covered passed)) ++ textOfAll trivia) = pos := by
    rw [List.append_assoc, ← hpassed]
  have hstands : Stands nodes source (outer ++ textOfAll (covered passed)) (textOfAll trivia)
      (textOfAll parts ++ after) (declarationAt source container comments
        ⟨lead, pos, pos + byteLength (textOfAll parts)⟩ header) := by
    rw [← hpos]
    refine stands_declarationAt ?_ ⟨outer, passed, header, parts, left, after, hscope, rfl, rfl⟩
      hcomments
    rw [hsource, hpassed]
    simp only [List.append_assoc]
  refine ⟨fun d hd => ?_, List.pairwise_singleton _ _, fun d hd => ?_⟩
  · rw [List.mem_singleton.1 hd]
    exact ⟨_, _, _, hstands⟩
  · rw [List.mem_singleton.1 hd]
    exact ⟨Nat.le_refl _, Nat.lt_succ_self _⟩

/-! ## The walk -/

theorem byteLength_concat (outer : List Char) (passed : List Node) (node : Node) :
    byteLength (outer ++ textOfAll passed) + node.width =
      byteLength (outer ++ textOfAll (passed ++ [node])) := by
  simp only [Node.textOfAll_append, textOfAll, List.append_nil, byteLength_append, Node.width,
    Nat.add_assoc]

theorem byteLength_covered_le (outer : List Char) (passed : List Node) :
    byteLength (outer ++ textOfAll (covered passed)) ≤ byteLength (outer ++ textOfAll passed) := by
  obtain ⟨trivia, hpassed⟩ := Node.textOfAll_covered passed
  simp only [hpassed, byteLength_append]
  omega

mutual

/-- The declarations of the nodes of a scope of which `passed` are done. -/
theorem regions_collectNodes {tree : SyntaxTree} (htree : tree.Sound source)
    (container : Option Container) {comments : List CommentSpan}
    (hcomments : ∀ s ∈ comments, s.At (CommentOf tree.nodes) source) (outer after : List Char) :
    ∀ nodes passed, IsScope tree.nodes outer (passed ++ nodes) →
      source = outer ++ (textOfAll (passed ++ nodes) ++ after) →
      Regions tree.nodes source (byteLength (outer ++ textOfAll (covered passed)))
        (byteLength (outer ++ textOfAll (passed ++ nodes)))
        (collectNodes source container comments (byteLength (outer ++ textOfAll (covered passed)))
          (byteLength (outer ++ textOfAll passed)) nodes)
  | [], _, _, _ => by
    rw [collectNodes]
    exact regions_nil _ _ _ _
  | node :: nodes, passed, hscope, hsource => by
    have hmove : passed ++ node :: nodes = (passed ++ [node]) ++ nodes := by simp
    have hrest := regions_collectNodes htree container hcomments outer after nodes (passed ++ [node])
      (hmove ▸ hscope) (hmove ▸ hsource)
    have hle := byteLength_covered_le outer passed
    have hwidth := byteLength_concat outer passed node
    rw [collectNodes, hwidth, hmove]
    split
    · rename_i htrivia
      rwa [Node.covered_concat_of_trivia htrivia] at hrest
    · rename_i htrivia
      rw [Node.covered_concat (by simpa using htrivia)] at hrest
      have hmax : max (byteLength (outer ++ textOfAll (covered passed)))
          (byteLength (outer ++ textOfAll (passed ++ [node]))) =
            byteLength (outer ++ textOfAll (passed ++ [node])) := by omega
      rw [hmax]
      have hnode := regions_collectNode htree container hcomments outer
        (textOfAll nodes ++ after) node passed nodes hscope (by
          rw [hsource, Node.textOfAll_append, textOfAll]
          simp only [List.append_assoc])
      refine hnode.append hrest (by omega) ?_
      rw [Node.textOfAll_append (passed ++ [node]), ← List.append_assoc, byteLength_append _
        (textOfAll nodes)]
      omega

/-- The declarations of a node behind the nodes `passed`. -/
theorem regions_collectNode {tree : SyntaxTree} (htree : tree.Sound source)
    (container : Option Container) {comments : List CommentSpan}
    (hcomments : ∀ s ∈ comments, s.At (CommentOf tree.nodes) source) (outer after : List Char) :
    ∀ node passed left, IsScope tree.nodes outer (passed ++ node :: left) →
      source = outer ++ (textOfAll passed ++ (node.text ++ after)) →
      Regions tree.nodes source (byteLength (outer ++ textOfAll (covered passed)))
        (byteLength (outer ++ textOfAll (passed ++ [node])))
        (collectNode source container comments (byteLength (outer ++ textOfAll (covered passed)))
          (byteLength (outer ++ textOfAll passed)) node)
  | .scope kind children, passed, left, hscope, hsource => by
    have hin := hscope.occurs (List.mem_append_right _ List.mem_cons_self)
    have hinner : source = (outer ++ textOfAll passed) ++ (textOfAll children ++ after) := by
      rw [hsource, Node.text, List.append_assoc]
    have hle := byteLength_covered_le outer passed
    have hbody := fun container' low => regions_collectBody htree container'
      (outer ++ textOfAll passed) after low children (fun node hnode => .trans (.here hnode) hin)
      hinner
    have hall : ∀ container', Regions tree.nodes source
        (byteLength (outer ++ textOfAll (covered passed)))
        (byteLength (outer ++ textOfAll passed) + byteLength (textOfAll children))
        (collectNodes source container'
          (commentSpans (byteLength (outer ++ textOfAll passed)) children)
          (byteLength (outer ++ textOfAll passed)) (byteLength (outer ++ textOfAll passed))
          children) := by
      intro container'
      have hchildren := regions_collectNodes htree container'
        (fun _ hs => htree.at_commentSpans (.inner _ hin) hinner hs) (outer ++ textOfAll passed)
        after children [] (.inner _ hin) hinner
      simp only [Node.covered_nil, textOfAll, List.append_nil, List.nil_append] at hchildren
      rw [← byteLength_append]
      exact hchildren.mono hle (Nat.le_refl _)
    rw [← byteLength_concat, Node.width, Node.text]
    cases kind with
    | namespaceBlock =>
      rw [collectNode]
      refine (hbody none _ fun head _ _ _ _ => ?_).mono hle (Nat.le_refl _)
      rw [byteLength_append _ (textOfAll head)]
      omega
    | fileNamespace =>
      rw [collectNode]
      exact hall none
    | conditional =>
      rw [collectNode]
      exact hall container
    | declaration header =>
      have hhead := byteLength_pos (htree.declarations header children hin)
      have hself := regions_declarationAt container hscope hsource hcomments
      have hinside := fun container' => hbody container'
        (byteLength (outer ++ textOfAll passed) + 1) fun head inner tail heq hnone => by
          rw [heq, Node.headText_append hnone] at hhead
          rw [byteLength_append _ (textOfAll head)]
          omega
      have hwhole := byteLength_le_of_isPrefix (Node.headText_isPrefix children)
      have hstop : byteLength (outer ++ textOfAll passed) + 1 ≤
          byteLength (outer ++ textOfAll passed) + byteLength (textOfAll children) := by
        omega
      rw [collectNode]
      split
      · split
        · exact hself.mono (Nat.le_refl _) hstop
        · exact hself.append (hinside _) (by omega) hstop
      · split
        · exact hself.mono (Nat.le_refl _) hstop
        · exact regions_nil _ _ _ _
    | body => exact regions_nil _ _ _ _
  | .blank _, _, _, _, _ | .comment _, _, _, _, _ | .directive _, _, _, _, _
  | .token _, _, _, _, _ => regions_nil _ _ _ _

/-- The declarations of the first body among some parts. -/
theorem regions_collectBody {tree : SyntaxTree} (htree : tree.Sound source)
    (container : Option Container) (outer after : List Char) (low : Nat) :
    ∀ parts, (∀ node ∈ parts, Occurs node tree.nodes) →
      source = outer ++ (textOfAll parts ++ after) →
      (∀ head children tail, parts = head ++ .scope .body children :: tail →
        (∀ part ∈ head, part.isBody = false) → low ≤ byteLength (outer ++ textOfAll head)) →
      Regions tree.nodes source low (byteLength outer + byteLength (textOfAll parts))
        (collectBody source container (byteLength outer) parts)
  | [], _, _, _ => by
    rw [collectBody]
    exact regions_nil _ _ _ _
  | node :: parts, hparts, hsource, hlow => by
    have hstop : byteLength outer + byteLength (textOfAll (node :: parts)) =
        byteLength (outer ++ node.text) + byteLength (textOfAll parts) := by
      simp only [textOfAll, byteLength_append, Nat.add_assoc]
    have hwidth : byteLength outer + node.width = byteLength (outer ++ node.text) := by
      rw [byteLength_append]
      rfl
    have hbehind : node.isBody = false → Regions tree.nodes source low
        (byteLength (outer ++ node.text) + byteLength (textOfAll parts))
        (collectBody source container (byteLength outer + node.width) parts) := by
      intro hnode
      rw [hwidth]
      refine regions_collectBody htree container (outer ++ node.text) after low parts
        (fun part hpart => hparts part (List.mem_cons_of_mem _ hpart)) ?_ ?_
      · rw [hsource, textOfAll]
        simp only [List.append_assoc]
      · rintro head children tail rfl hhead
        have hle := hlow (node :: head) children tail rfl (List.forall_mem_cons.2 ⟨hnode, hhead⟩)
        rwa [textOfAll, ← List.append_assoc] at hle
    rw [hstop]
    cases node with
    | scope kind children =>
      cases kind with
      | body =>
        have hin := hparts _ List.mem_cons_self
        have hinner : source = outer ++ (textOfAll children ++ (textOfAll parts ++ after)) := by
          rw [hsource, textOfAll, Node.text, List.append_assoc]
        have hchildren := regions_collectNodes htree container
          (fun _ hs => htree.at_commentSpans (.inner _ hin) hinner hs) outer _ children []
          (.inner _ hin) hinner
        have hle := hlow [] children parts rfl fun _ h => absurd h List.not_mem_nil
        simp only [Node.covered_nil, textOfAll, List.append_nil, List.nil_append] at hchildren hle
        rw [collectBody]
        exact hchildren.mono hle (by rw [Node.text]; omega)
      | _ => exact hbehind rfl
    | _ => exact hbehind rfl

end

/-- The declarations of a sound tree stand one behind the other. -/
theorem regions_collect {tree : SyntaxTree} (h : tree.Sound source) :
    Regions tree.nodes source 0 (byteLength source) (collect source tree.nodes) := by
  have hsource : source = [] ++ (textOfAll tree.nodes ++ []) := by
    rw [h.text_eq, List.nil_append, List.append_nil]
  have hregions := regions_collectNodes h none
    (fun _ hs => h.at_commentSpans .outermost hsource hs) [] [] tree.nodes [] .outermost hsource
  simp only [Node.covered_nil, textOfAll, List.nil_append, h.text_eq] at hregions
  exact hregions

end Gloss.Source
