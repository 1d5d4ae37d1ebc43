import Gloss.Proofs.Text.Insert
import Gloss.Source.Collect

/-!
# How declarations are nested

The walk over any tree of nodes lists declarations in the order of their places, a type in
front of its members (`nested_collect`). Of two declarations, the one that is listed later
stands behind the other or inside it, trivia included, and each declaration knows the
innermost type around it.

`Nested` says so of the declarations of a part of the tree. Parts that follow one another
are put together by `Nested.append`, a type and its members by `Nested.cons`; the walk does
nothing else.
-/

namespace Gloss

/-- A declared type as the type around its members. -/
def Declaration.asContainer (d : Declaration) : Container where
  kind := d.kind
  name := d.name
  visibility := if d.container.all Container.exposesMembers then d.visibility else .privateAccess

namespace Source

open Gloss.Text
open Node (textOfAll)

/-! ## Trees -/

mutual

/-- Whether no declaration in a node is empty and no namespace stands in the body of a type;
`inType` says whether the node itself stands in one. -/
def Node.isProper (inType : Bool) : Node → Bool
  | .scope .namespaceBlock children | .scope .fileNamespace children =>
    !inType && areProper inType children
  | .scope (.declaration header) children =>
    !(textOfAll children).isEmpty && areProper (inType || header.kind.isType) children
  | .scope .conditional children | .scope .body children => areProper inType children
  | .blank _ | .comment _ | .directive _ | .token _ => true

/-- `isProper` for a list of nodes. -/
def Node.areProper (inType : Bool) : List Node → Bool
  | [] => true
  | node :: nodes => node.isProper inType && areProper inType nodes

end

/-! ## Declarations around one another -/

/-- The text of a declaration takes in that of another. -/
def Encloses (d d' : Declaration) : Prop :=
  d.span.start ≤ d'.span.start ∧ d'.span.stop ≤ d.span.stop

/-- The second declaration, with its trivia, stands behind the first, or inside it if that is
a type. -/
def Follows (d d' : Declaration) : Prop :=
  d.span.stop ≤ d'.span.leadingStart ∨
    d.kind.isType = true ∧ d.span.start ≤ d'.span.leadingStart ∧ d'.span.stop ≤ d.span.stop

/-- A declaration is a member of the innermost type around it, among the declarations that
are listed before it. Where there is none, `outer` is the type around it. -/
inductive Housed (outer : Option Container) (earlier : List Declaration) (d : Declaration) :
    Prop where
  | outside (hcontainer : d.container = outer)
      (hnone : ∀ t ∈ earlier, t.kind.isType = true → ¬ Encloses t d)
  | inside (before after : List Declaration) (t : Declaration)
      (hsplit : earlier = before ++ t :: after) (hcontainer : d.container = some t.asContainer)
      (htype : t.kind.isType = true) (haround : Encloses t d)
      (hinner : ∀ t' ∈ after, t'.kind.isType = true → ¬ Encloses t' d)
      (houter : ∀ t' ∈ before, t'.kind.isType = true → Encloses t' d → Encloses t' t)

/-- The declarations of a part of a text, between two offsets. -/
structure Nested (outer : Option Container) (start stop : Nat) (ds : List Declaration) : Prop where
  spans : ∀ d ∈ ds, d.span.leadingStart ≤ d.span.start ∧ d.span.start < d.span.stop
  within : ∀ d ∈ ds, start ≤ d.span.leadingStart ∧ d.span.stop ≤ stop
  follows : ds.Pairwise Follows
  housed : ∀ before d after, ds = before ++ d :: after → Housed outer before d

section

variable {outer : Option Container} {earlier : List Declaration} {d t : Declaration}

/-- Declarations that are not around another do not matter to it. -/
theorem Housed.prepend (h : Housed outer earlier d) {ts : List Declaration}
    (hts : ∀ t ∈ ts, ¬ Encloses t d) : Housed outer (ts ++ earlier) d := by
  cases h with
  | outside hcontainer hnone =>
    refine .outside hcontainer fun t ht htype => ?_
    rcases List.mem_append.1 ht with ht | ht
    · exact hts t ht
    · exact hnone t ht htype
  | inside before after t hsplit hcontainer htype haround hinner houter =>
    refine .inside (ts ++ before) after t ?_ hcontainer htype haround hinner ?_
    · rw [hsplit, List.append_assoc]
    · intro t' ht' htype' haround'
      rcases List.mem_append.1 ht' with ht' | ht'
      · exact absurd haround' (hts t' ht')
      · exact houter t' ht' htype' haround'

/-- A member of a type, seen with the type. -/
theorem Housed.member (h : Housed (some t.asContainer) earlier d) (htype : t.kind.isType = true)
    (haround : Encloses t d) (hearlier : ∀ t' ∈ earlier, Encloses t t') :
    Housed outer (t :: earlier) d := by
  cases h with
  | outside hcontainer hnone =>
    exact .inside [] earlier t rfl hcontainer htype haround hnone fun _ h =>
      absurd h List.not_mem_nil
  | inside before after t' hsplit hcontainer htype' haround' hinner houter =>
    refine .inside (t :: before) after t' ?_ hcontainer htype' haround' hinner ?_
    · rw [hsplit]
      rfl
    · intro u hu hutype huaround
      rcases List.mem_cons.1 hu with rfl | hu
      · exact hearlier t' (by rw [hsplit]; simp)
      · exact houter u hu hutype huaround

end

section

variable {outer : Option Container} {start mid stop : Nat} {ds ds' : List Declaration}

theorem nested_nil (outer : Option Container) (start stop : Nat) : Nested outer start stop [] where
  spans _ h := absurd h List.not_mem_nil
  within _ h := absurd h List.not_mem_nil
  follows := .nil
  housed before d after h := by simp at h

theorem Nested.mono {start' stop' : Nat} (h : Nested outer start stop ds) (hstart : start' ≤ start)
    (hstop : stop ≤ stop') : Nested outer start' stop' ds where
  spans := h.spans
  within d hd := ⟨Nat.le_trans hstart (h.within d hd).1, Nat.le_trans (h.within d hd).2 hstop⟩
  follows := h.follows
  housed := h.housed

/-- Parts that follow one another. -/
theorem Nested.append (h : Nested outer start mid ds) (h' : Nested outer mid stop ds')
    (hstart : start ≤ mid) (hstop : mid ≤ stop) : Nested outer start stop (ds ++ ds') where
  spans d hd := (List.mem_append.1 hd).elim (h.spans d) (h'.spans d)
  within d hd := by
    rcases List.mem_append.1 hd with hd | hd
    · exact (h.mono (Nat.le_refl _) hstop).within d hd
    · exact (h'.mono hstart (Nat.le_refl _)).within d hd
  follows := by
    refine List.pairwise_append.2 ⟨h.follows, h'.follows, fun d hd d' hd' => .inl ?_⟩
    have hle := (h.within d hd).2
    have hge := (h'.within d' hd').1
    omega
  housed before d after heq := by
    have hbehind : ∀ e, ds' = e ++ d :: after → Housed outer (ds ++ e) d := by
      intro e he
      refine (h'.housed e d after he).prepend fun t ht haround => ?_
      have hd : d ∈ ds' := by rw [he]; simp
      have hle := (h.within t ht).2
      have hge := (h'.within d hd).1
      have hspan := h'.spans d hd
      have hstop := haround.2
      omega
    rcases List.append_eq_append_iff.1 heq with ⟨e, rfl, he⟩ | ⟨e, hds, he⟩
    · exact hbehind e he
    · cases e with
      | nil =>
        rw [List.append_nil] at hds
        have hfirst := hbehind [] he.symm
        rwa [List.append_nil, hds] at hfirst
      | cons d' e =>
        obtain ⟨rfl, -⟩ := List.cons.inj he
        exact h.housed before d e hds

/-- A declaration alone. -/
theorem nested_singleton {lead : Nat} {d : Declaration} (hcontainer : d.container = outer)
    (hspan : d.span = ⟨lead, start, stop⟩) (hlead : lead ≤ start) (hstart : start < stop) :
    Nested outer lead stop [d] where
  spans d' hd' := by
    rw [List.mem_singleton.1 hd', hspan]
    exact ⟨hlead, hstart⟩
  within d' hd' := by
    rw [List.mem_singleton.1 hd', hspan]
    exact ⟨Nat.le_refl _, Nat.le_refl _⟩
  follows := List.pairwise_singleton _ _
  housed before d' after heq := by
    have hbefore : before = [] := by
      cases before with
      | nil => rfl
      | cons _ _ => simp at heq
    subst hbefore
    obtain ⟨rfl, -⟩ := List.cons.inj heq
    exact .outside hcontainer fun _ h => absurd h List.not_mem_nil

/-- A type with its members. -/
theorem Nested.cons {lead : Nat} {t : Declaration} (h : Nested (some t.asContainer) start stop ds)
    (htype : t.kind.isType = true) (hcontainer : t.container = outer)
    (hspan : t.span = ⟨lead, start, stop⟩) (hlead : lead ≤ start) (hstart : start < stop) :
    Nested outer lead stop (t :: ds) := by
  have hone := nested_singleton hcontainer hspan hlead hstart
  have haround : ∀ d ∈ ds, Encloses t d := by
    intro d hd
    rw [Encloses, hspan]
    exact ⟨Nat.le_trans (h.within d hd).1 (h.spans d hd).1, (h.within d hd).2⟩
  refine ⟨?_, ?_, ?_, ?_⟩
  · intro d hd
    rcases List.mem_cons.1 hd with rfl | hd
    · exact hone.spans d List.mem_cons_self
    · exact h.spans d hd
  · intro d hd
    rcases List.mem_cons.1 hd with rfl | hd
    · exact hone.within d List.mem_cons_self
    · exact (h.mono hlead (Nat.le_refl _)).within d hd
  · refine List.pairwise_cons.2 ⟨fun d hd => .inr ⟨htype, ?_⟩, h.follows⟩
    rw [hspan]
    exact h.within d hd
  · intro before d after heq
    cases before with
    | nil =>
      obtain ⟨rfl, -⟩ := List.cons.inj heq
      exact hone.housed [] t [] rfl
    | cons t' before =>
      obtain ⟨rfl, hds⟩ := List.cons.inj heq
      have hmem : ∀ d' ∈ before ++ d :: after, d' ∈ ds := fun d' hd' => hds ▸ hd'
      exact (h.housed before d after hds).member htype (haround d (hmem d (by simp)))
        fun d' hd' => haround d' (hmem d' (List.mem_append_left _ hd'))

end

/-! ## The walk -/

mutual

/-- The declarations of the nodes of a scope. -/
theorem nested_collectNodes (source : List Char) (container : Option Container)
    (comments : List CommentSpan) (lead pos : Nat) (hle : lead ≤ pos) :
    ∀ nodes, Node.areProper container.isSome nodes = true →
      Nested container lead (pos + byteLength (textOfAll nodes))
        (collectNodes source container comments lead pos nodes)
  | [], _ => by
    rw [collectNodes]
    exact nested_nil _ _ _
  | node :: nodes, h => by
    rw [Node.areProper, Bool.and_eq_true] at h
    have hwidth : pos + byteLength (textOfAll (node :: nodes)) =
        pos + node.width + byteLength (textOfAll nodes) := by
      rw [textOfAll, byteLength_append, Node.width, Nat.add_assoc]
    rw [collectNodes, hwidth]
    split
    · exact nested_collectNodes source container comments lead (pos + node.width) (by omega) nodes
        h.2
    · have hmax : max lead (pos + node.width) = pos + node.width := by omega
      rw [hmax]
      exact (nested_collectNode source container comments lead pos hle node h.1).append
        (nested_collectNodes source container comments (pos + node.width) (pos + node.width)
          (Nat.le_refl _) nodes h.2) (by omega) (by omega)

/-- The declarations of a node. -/
theorem nested_collectNode (source : List Char) (container : Option Container)
    (comments : List CommentSpan) (lead pos : Nat) (hle : lead ≤ pos) :
    ∀ node, node.isProper container.isSome = true →
      Nested container lead (pos + node.width)
        (collectNode source container comments lead pos node)
  | .scope .namespaceBlock children, h => by
    rw [Node.isProper, Bool.and_eq_true] at h
    have hnone : container = none := by simpa using h.1
    subst hnone
    rw [collectNode]
    exact (nested_collectBody source none pos children h.2).mono hle (Nat.le_refl _)
  | .scope .fileNamespace children, h => by
    rw [Node.isProper, Bool.and_eq_true] at h
    have hnone : container = none := by simpa using h.1
    subst hnone
    rw [collectNode]
    exact (nested_collectNodes source none (commentSpans pos children) pos pos
      (Nat.le_refl _) children h.2).mono hle (Nat.le_refl _)
  | .scope .conditional children, h => by
    rw [Node.isProper] at h
    rw [collectNode]
    exact (nested_collectNodes source container (commentSpans pos children) pos pos
      (Nat.le_refl _) children h).mono hle (Nat.le_refl _)
  | .scope (.declaration header) children, h => by
    rw [Node.isProper, Bool.and_eq_true] at h
    have hpos : 0 < byteLength (textOfAll children) := byteLength_pos (by simpa using h.1)
    have hspan : pos < pos + byteLength (textOfAll children) := by omega
    rw [collectNode]
    split
    · rename_i htype
      split
      · exact nested_singleton rfl rfl hle hspan
      · rw [htype, Bool.or_true] at h
        refine Nested.cons ?_ htype rfl rfl hle hspan
        exact nested_collectBody source (some (nestedContainer header container)) pos children h.2
    · split
      · exact nested_singleton rfl rfl hle hspan
      · exact nested_nil _ _ _
  | .scope .body children, _ => nested_nil _ _ _
  | .blank _, _ | .comment _, _ | .directive _, _ | .token _, _ => nested_nil _ _ _

/-- The declarations of a body. -/
theorem nested_collectBody (source : List Char) (container : Option Container) (pos : Nat) :
    ∀ nodes, Node.areProper container.isSome nodes = true →
      Nested container pos (pos + byteLength (textOfAll nodes))
        (collectBody source container pos nodes)
  | [], _ => by
    rw [collectBody]
    exact nested_nil _ _ _
  | node :: nodes, h => by
    rw [Node.areProper, Bool.and_eq_true] at h
    have hwidth : pos + byteLength (textOfAll (node :: nodes)) =
        pos + node.width + byteLength (textOfAll nodes) := by
      rw [textOfAll, byteLength_append, Node.width, Nat.add_assoc]
    have hbehind : ∀ ds, Nested container (pos + node.width)
        (pos + node.width + byteLength (textOfAll nodes)) ds →
        Nested container pos (pos + node.width + byteLength (textOfAll nodes)) ds :=
      fun ds hds => hds.mono (by omega) (Nat.le_refl _)
    rw [hwidth]
    cases node with
    | scope kind children =>
      cases kind with
      | body =>
        rw [collectBody]
        exact (nested_collectNodes source container (commentSpans pos children) pos pos
          (Nat.le_refl _) children h.1).mono (Nat.le_refl _) (by rw [Node.width, Node.text]; omega)
      | _ => exact hbehind _ (nested_collectBody source container _ nodes h.2)
    | _ => exact hbehind _ (nested_collectBody source container _ nodes h.2)

end

/-- What is listed behind a declaration is not around it, but for one with the same span. -/
theorem Follows.eq_of_encloses {d t : Declaration} (h : Follows d t)
    (hspan : t.span.leadingStart ≤ t.span.start) (hd : d.span.start < d.span.stop)
    (haround : Encloses t d) : t.span.start = d.span.start ∧ t.span.stop = d.span.stop := by
  have hstart := haround.1
  have hstop := haround.2
  rcases h with hbehind | ⟨-, hlead, hinside⟩
  · omega
  · omega

/-- The declarations of any tree of nodes are listed in the order of their places: each has
its trivia in front of it and behind the start of the one before, of two the later stands
behind the earlier or inside it, and each is a member of the innermost type around it. -/
theorem nested_collect (source : List Char) {nodes : List Node}
    (h : Node.areProper false nodes = true) :
    (∀ d ∈ collect source nodes,
      d.span.leadingStart ≤ d.span.start ∧ d.span.start < d.span.stop) ∧
    (collect source nodes).Pairwise (fun d d' =>
      d.span.start ≤ d'.span.leadingStart ∧
        (d.span.stop ≤ d'.span.leadingStart ∨ d.kind.isType = true ∧ Encloses d d')) ∧
    ∀ before d after, collect source nodes = before ++ d :: after →
      Housed none before d ∧
        ∀ t ∈ after, Encloses t d → t.span.start = d.span.start ∧ t.span.stop = d.span.stop := by
  have hnested : Nested none 0 (0 + byteLength (textOfAll nodes)) (collect source nodes) :=
    nested_collectNodes source none (commentSpans 0 nodes) 0 0 (Nat.le_refl _) nodes h
  refine ⟨hnested.spans, ?_, ?_⟩
  · refine hnested.follows.imp_of_mem fun {d d'} hd hd' hfollows => ?_
    have hspan := hnested.spans d hd
    have hspan' := hnested.spans d' hd'
    rcases hfollows with hbehind | ⟨htype, hlead, hinside⟩
    · exact ⟨by omega, .inl hbehind⟩
    · exact ⟨hlead, .inr ⟨htype, by omega, hinside⟩⟩
  · intro before d after heq
    refine ⟨hnested.housed before d after heq, fun t ht haround => ?_⟩
    have hfollows := hnested.follows
    rw [heq] at hfollows
    have hpair := (List.pairwise_cons.1 (List.pairwise_append.1 hfollows).2.1).1 t ht
    refine hpair.eq_of_encloses (hnested.spans t ?_).1 (hnested.spans d ?_).2 haround
    · rw [heq]
      simp [ht]
    · rw [heq]
      simp

theorem nested_collect_members :
    let lead := "namespace M;\n".toList
    let text := ("namespace N \x7b class A \x7b\n#if X\nint B;\n#endif\nclass C \x7b int D; \x7d" ++
      "\nint E; \x7d \x7d enum F \x7b G \x7d").toList
    let nodes := [Node.scope .fileNamespace (.token lead :: (Node.ofText? text).getD [])]
    textOfAll nodes = lead ++ text ∧ Node.areProper false nodes = true ∧
      (collect (lead ++ text) nodes).map (fun d => (d.name, d.container.map (·.name))) =
        [("A", none), ("B", some "A"), ("C", some "A"), ("D", some "C"), ("E", some "A"),
          ("F", none)] ∧
      (collect (lead ++ text) nodes).Pairwise (fun d d' =>
        d.span.start ≤ d'.span.leadingStart ∧
          (d.span.stop ≤ d'.span.leadingStart ∨ d.kind.isType = true ∧ Encloses d d')) := by
  intro lead text nodes
  have hproper : Node.areProper false nodes = true := by decide +kernel
  exact ⟨by decide +kernel, hproper, by decide +kernel, (nested_collect (lead ++ text) hproper).2.1⟩

end Source

end Gloss
