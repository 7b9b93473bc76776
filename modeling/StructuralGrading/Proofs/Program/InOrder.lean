import StructuralGrading.Proofs.Flow.Append
import StructuralGrading.Proofs.Flow.Shape
import StructuralGrading.Proofs.Program.Grammar

/-! # Constructs in order

The flow graph of a grammatical tree has one head for every construct: for a function, a loop or
a conditional that stands in the tree, and for every `elif` clause of a conditional.  The heads
are in the order of the tree.  What stands in a clause of a loop is left out, and nothing else is.

* `headsAll`: the heads in an outline;
* `Site.head?`: the head for a place in a tree, found without an outline;
* `Tree.heads_node`: the heads of a grammatical node are its own and those of its children;
* `Tree.listed_eq`: they are those for the places in the tree, one by one;
* `Program.flow_in_order`: the heads in a flow graph are those for the places in the tree.

An outline takes the alternatives of a conditional from its children and hands them from clause to
clause.  `Tree.headsAll_chain` says that every one of them is taken once. -/

namespace StructuralGrading

/-! ### Heads of an outline -/

/-- The labels of the blocks that functions, loops and conditionals start with. -/
def BlockLabel.isHead : BlockLabel → Bool
  | .function _ => true
  | .forLoop => true
  | .whileLoop => true
  | .ifCondition => true
  | _ => false

theorem LoopStyle.isHead_label (style : LoopStyle) : style.label.isHead = true := by
  cases style with
  | forLoop => rfl
  | whileLoop => rfl

/-- The labels and lines of the heads that several constructs add. -/
def headsAll (cs : List Construct) : List (BlockLabel × Nat) := (cellsAll cs).filter (·.1.isHead)

theorem headsAll_append (cs ds : List Construct) :
    headsAll (cs ++ ds) = headsAll cs ++ headsAll ds := by
  rw [headsAll, cellsAll_append, List.filter_append, headsAll, headsAll]

theorem headsAll_function (name : String) (line : Nat) (body : List Construct) :
    headsAll [.function name line body] = (.function name, line) :: headsAll body := by
  simp [headsAll, cellsAll, Construct.cells, BlockLabel.isHead]

theorem headsAll_loop (style : LoopStyle) (line : Nat) (body : List Construct) :
    headsAll [.loop style line body] = (style.label, line) :: headsAll body := by
  simp [headsAll, cellsAll, Construct.cells, style.isHead_label]

namespace Clause

/-- The heads that a clause adds without its alternatives. -/
def heads (c : Clause) : List (BlockLabel × Nat) :=
  (.ifCondition, c.line) :: (headsAll c.test ++ headsAll c.thenBody)

theorem headsAll_chain_nil (c : Clause) : headsAll [c.chain []] = c.heads := by
  simp [chain, heads, headsAll, cellsAll, Construct.cells, BlockLabel.isHead]

theorem headsAll_chain_cons (c : Clause) (s : Summary) (ps : List Summary) :
    headsAll [c.chain (s :: ps)] =
      c.heads ++ if s.node.isElif then headsAll [s.clause.chain ps] else headsAll s.body := by
  rw [chain]
  split
  · simp [heads, headsAll, cellsAll, Construct.cells, BlockLabel.isHead]
  · simp [heads, headsAll, cellsAll, Construct.cells, BlockLabel.isHead]

end Clause

/-! ### Heads for the places in a tree -/

namespace Node

/-- Whether a node is an `elif` clause of a conditional, given the nodes above it. -/
def isClause : Node → List Node → Bool
  | _, [] => false
  | m, n :: _ => n.role == .conditional && m.isElif && m.fills "alternative"

/-- Whether `m`, a child of `n`, is a clause of a loop. -/
def isAfterLoop (m n : Node) : Bool := n.role.isLoop && m.fills "alternative"

/-- Whether a node is a clause of a loop or below one, given the nodes above it. -/
def isLeftOut : Node → List Node → Bool
  | _, [] => false
  | m, n :: above => m.isAfterLoop n || n.isLeftOut above

/-- The head for a node with the given children, by its role. -/
def head? (text : Node → String) (n : Node) (below : List Node) : Option (BlockLabel × Nat) :=
  match n.role with
  | .function => some (.function (nameAmong text below), n.line)
  | .conditional => some (.ifCondition, n.line)
  | .loop style => some (style.label, n.line)
  | .plain => none

theorem kind_of_isClause {m : Node} {above : List Node} (h : m.isClause above = true) :
    m.kind = "elif_clause" := by
  cases above with
  | nil => cases h
  | cons n above =>
      simp only [isClause, Bool.and_eq_true] at h
      exact eq_of_beq h.1.2

theorem role_of_kind {n : Node} {kind : String} (h : n.kind = kind)
    (hkind : kind ∉ ["function_definition", "if_statement", "for_statement", "while_statement"]) :
    n.role = .plain := by
  apply IsInert.role
  rw [IsInert, h]
  exact hkind

end Node

/-- The head for a place.  An `elif` clause of a conditional has one although it is no construct
by its kind. -/
def Site.head? (text : Node → String) (s : Site) : Option (BlockLabel × Nat) :=
  if s.node.isLeftOut s.above then none
  else if s.node.isClause s.above then some (.ifCondition, s.node.line)
  else s.node.head? text (s.part.children.map Tree.info)

/-! ### Heads of a tree -/

namespace Tree

variable (text : Node → String)

/-- The heads of the outline of a tree. -/
def heads (t : Tree) : List (BlockLabel × Nat) := headsAll (t.fold (Summary.ofNode text)).whole

/-- The head that a tree has if it is an `elif` clause. -/
def clauseHead (above : List Node) (t : Tree) : List (BlockLabel × Nat) :=
  if t.info.isClause above then [(.ifCondition, t.info.line)] else []

/-- What a child adds to the heads of `n`. -/
def headsUnder (n : Node) (t : Tree) : List (BlockLabel × Nat) :=
  if t.info.isAfterLoop n then [] else clauseHead [n] t ++ t.heads text

/-- The heads for the places in a tree that has the given nodes above it. -/
def listed (above : List Node) (t : Tree) : List (BlockLabel × Nat) :=
  (t.sitesUnder above).filterMap (Site.head? text)

variable {text}

theorem IsInert.heads_eq_nil {t : Tree} (h : t.IsInert) : t.heads text = [] := by
  rw [heads, h.whole_eq_nil]
  rfl

theorem headsAll_outlineAll (text : Node → String) {ts : List Tree} (h : ∀ t ∈ ts, t.Grammatical) :
    headsAll (outlineAll text ts) = ts.flatMap (heads text) := by
  induction ts with
  | nil => rfl
  | cons t ts ih =>
      have hts := ih fun u hu => h u (List.mem_cons_of_mem t hu)
      rw [outlineAll_cons, headsAll_append, hts, List.flatMap_cons]
      congr 1
      cases hnamed : t.info.named with
      | true => rfl
      | false => exact ((h t List.mem_cons_self).isInert hnamed).heads_eq_nil.symm

theorem Grammatical.children {t : Tree} (h : t.Grammatical) : ∀ u ∈ t.children, u.Grammatical := by
  obtain ⟨n, ts⟩ := t
  exact (grammatical_node.mp h).2

theorem Grammatical.headsAll_inner {t : Tree} (h : t.Grammatical) :
    headsAll (t.fold (Summary.ofNode text)).inner = t.children.flatMap (heads text) := by
  rw [fold_eq]
  exact headsAll_outlineAll text h.children

theorem heads_of_plain {t : Tree} (hrole : t.info.role = .plain) :
    t.heads text = headsAll (t.fold (Summary.ofNode text)).inner := by
  rw [heads, fold_eq, Summary.whole_ofNode_plain hrole]
  rfl

/-! ### Heads of a body and of a clause -/

theorem flatMap_heads_filling {fields : List String} {ts : List Tree} (h : Confined fields ts) :
    (filling fields ts).flatMap (heads text) = ts.flatMap (heads text) :=
  flatMap_filling fun t ht hfills => (h t ht hfills).heads_eq_nil

theorem IsSuite.headsAll_body (text : Node → String) {beside : List String} {t : Tree}
    (h : IsSuite beside t.children) :
    headsAll (t.fold (Summary.ofNode text)).body =
      (filling ["body"] t.children).flatMap (heads text) := by
  obtain ⟨b, hb, hkind⟩ := List.map_eq_singleton_iff.mp h.1
  have hmem : b ∈ filling ["body"] t.children := by
    rw [hb]
    exact List.mem_singleton_self b
  have hchild : child? "body" t.children = some b := by
    rw [← child?_filling List.mem_cons_self, hb, child?_cons_of_pos (fills_of_mem_filling hmem)]
  rw [hb, List.flatMap_singleton, heads_of_plain (Node.role_of_kind hkind (by decide)), fold_eq]
  show headsAll (((Summary.child? "body" _).map (·.inner)).getD []) = _
  rw [child?_map_fold, hchild]
  rfl

theorem IsHeaded.heads_clause (text : Node → String) {rest : List Tree → Prop}
    {fields : List String} {ts : List Tree} (h : IsHeaded rest (filling fields ts))
    (hcondition : "condition" ∈ fields) (hconsequence : "consequence" ∈ fields) (n : Node) :
    ∃ test block others, filling fields ts = test :: block :: others ∧
      test.info.fills "condition" = true ∧ block.info.fills "consequence" = true ∧ rest others ∧
      (Clause.ofNode n (ts.map (fold (Summary.ofNode text)))).heads =
        (.ifCondition, n.line) :: (test.heads text ++ block.heads text) := by
  match hfilling : filling fields ts, h with
  | test :: block :: others, ⟨htest, hblock, hkind, hrest⟩ =>
    refine ⟨test, block, others, rfl, htest, hblock, hrest, ?_⟩
    have hfirst : child? "condition" ts = some test := by
      rw [← child?_filling hcondition, hfilling, child?_cons_of_pos htest]
    have hother : test.info.fills "consequence" = false := Node.fills_of_ne htest (by decide)
    have hsecond : child? "consequence" ts = some block := by
      rw [← child?_filling hconsequence, hfilling, child?_cons_of_neg hother,
        child?_cons_of_pos hblock]
    rw [Clause.heads, Clause.ofNode, child?_map_fold, child?_map_fold, hfirst, hsecond,
      heads_of_plain (Node.role_of_kind hkind (by decide))]
    rfl

/-- An `elif` clause has its own head besides those of the tree that it is. -/
theorem IsClause.heads_clause {t : Tree} (h : IsClause t.children) (ht : t.Grammatical)
    (helif : t.info.isElif = true) :
    (t.fold (Summary.ofNode text)).clause.heads =
      (.ifCondition, t.info.line) :: t.heads text := by
  obtain ⟨test, block, others, hfilling, -, -, rfl, hheads⟩ :=
    h.1.heads_clause text (by decide) (by decide) t.info
  have hchildren : test.heads text ++ block.heads text = t.heads text := by
    rw [heads_of_plain (Node.role_of_kind (eq_of_beq helif) (by decide)), ht.headsAll_inner,
      ← flatMap_heads_filling h.2, hfilling, List.flatMap_cons, List.flatMap_singleton]
  rw [fold_eq]
  exact hheads.trans (by rw [hchildren])

theorem IsSuite.headsAll_else {t : Tree} (h : IsSuite [] t.children) (ht : t.Grammatical)
    (helse : t.info.kind = "else_clause") :
    headsAll (t.fold (Summary.ofNode text)).body = t.heads text := by
  rw [h.headsAll_body text, flatMap_heads_filling h.2,
    heads_of_plain (Node.role_of_kind helse (by decide)), ht.headsAll_inner]

/-! ### Heads of a node -/

theorem headsAll_chain {n : Node} (hn : n.role = .conditional) : ∀ (ts : List Tree) (c : Clause),
    AreAlternatives ts → (∀ t ∈ ts, t.Grammatical) →
    headsAll [c.chain (ts.map (fold (Summary.ofNode text)))] =
      c.heads ++ ts.flatMap (headsUnder text n)
  | [], c, _, _ => by
      rw [List.map_nil, c.headsAll_chain_nil, List.flatMap_nil, List.append_nil]
  | t :: ts, c, h, hts => by
      obtain ⟨hfills, h⟩ := h
      have ht := hts t List.mem_cons_self
      have hclause : t.info.isClause [n] = t.info.isElif := by
        rw [Node.isClause, hn, hfills, Bool.and_true]
        rfl
      have hloop : t.info.isAfterLoop n = false := by
        rw [Node.isAfterLoop, hn]
        rfl
      rw [List.map_cons, c.headsAll_chain_cons, node_fold, List.flatMap_cons, headsUnder, hloop,
        if_neg Bool.false_ne_true, clauseHead, hclause]
      cases helif : t.info.isElif with
      | true =>
          -- The clause takes over: the alternatives that are left are its own.
          rw [helif, if_pos rfl] at h
          rw [if_pos rfl, if_pos rfl, headsAll_chain hn ts _ h.2
            (fun u hu => hts u (List.mem_cons_of_mem t hu)), h.1.heads_clause ht helif]
          rfl
      | false =>
          -- The outline would drop what comes after an `else` clause, but nothing does.
          rw [helif, if_neg Bool.false_ne_true] at h
          obtain ⟨helse, hsuite, rfl⟩ := h
          rw [if_neg Bool.false_ne_true, if_neg Bool.false_ne_true, hsuite.headsAll_else ht helse,
            List.flatMap_nil, List.append_nil, List.nil_append]

theorem headsUnder_of_fills {t : Tree} {field : String} (hfills : t.info.fills field = true)
    (hfield : field ≠ "alternative") (n : Node) : headsUnder text n t = t.heads text := by
  have hother := Node.fills_of_ne hfills hfield
  rw [headsUnder, clauseHead, Node.isAfterLoop, Node.isClause, hother, Bool.and_false,
    Bool.and_false]
  rfl

theorem headsUnder_of_role {n : Node} (hloop : n.role.isLoop = false)
    (hconditional : n.role ≠ .conditional) : headsUnder text n = heads text := by
  funext t
  have hclause : (n.role == .conditional) = false := beq_false_of_ne hconditional
  rw [headsUnder, clauseHead, Node.isAfterLoop, Node.isClause, hloop, hclause, Bool.false_and,
    Bool.false_and, Bool.false_and]
  rfl

/-- A child of a conditional or of a loop adds no head if it holds no construct and is no
alternative. -/
theorem headsUnder_of_isInert {n : Node} {t : Tree} (h : t.IsInert)
    (hfills : t.info.fills "alternative" = false) : headsUnder text n t = [] := by
  rw [headsUnder, clauseHead, Node.isClause, hfills, Bool.and_false, h.heads_eq_nil]
  exact ite_self _

theorem headsUnder_loop {n : Node} {ts : List Tree} (hn : n.role.isLoop = true)
    (h : IsSuite ["alternative"] ts) :
    (filling ["body"] ts).flatMap (heads text) = ts.flatMap (headsUnder text n) := by
  have hbody : ∀ t ∈ filling ["body"] ts, t.heads text = headsUnder text n t := by
    intro t ht
    exact (headsUnder_of_fills (fills_of_mem_filling ht) (by decide) n).symm
  rw [List.flatMap_congr hbody]
  apply flatMap_filling
  intro t ht hnot
  have hnot : t.info.fills "body" = false := by simpa using hnot
  cases hfills : t.info.fills "alternative" with
  | true =>
      rw [headsUnder, Node.isAfterLoop, hn, hfills]
      rfl
  | false => exact headsUnder_of_isInert (h.2 t ht (by simp [hnot, hfills])) hfills

theorem AreAlternatives.fills : ∀ {ts : List Tree}, AreAlternatives ts →
    ∀ t ∈ ts, t.info.fills "alternative" = true
  | t :: ts, h, u, hu => by
      obtain ⟨hfills, h⟩ := h
      rcases List.mem_cons.mp hu with rfl | hu
      · exact hfills
      split at h
      · exact AreAlternatives.fills h.2 u hu
      · rw [h.2.2] at hu
        cases hu

theorem alternatives_eq {ts others : List Tree} {test block : Tree}
    (h : filling ["condition", "consequence", "alternative"] ts = test :: block :: others)
    (htest : test.info.fills "condition" = true) (hblock : block.info.fills "consequence" = true)
    (hothers : AreAlternatives others) : alternatives ts = others := by
  have hfilling : alternatives (filling ["condition", "consequence", "alternative"] ts) =
      alternatives ts := by
    rw [alternatives, filling, List.filter_filter, alternatives]
    congr 1
    funext t
    cases hfills : t.info.fills "alternative" with
    | false => rfl
    | true => simp [hfills]
  have hfirst : test.info.fills "alternative" = false := Node.fills_of_ne htest (by decide)
  have hsecond : block.info.fills "alternative" = false := Node.fills_of_ne hblock (by decide)
  rw [← hfilling, h, alternatives, List.filter_cons, List.filter_cons, hfirst, hsecond,
    if_neg Bool.false_ne_true, if_neg Bool.false_ne_true, List.filter_eq_self.mpr hothers.fills]

theorem headsUnder_conditional (text : Node → String) {n : Node} {ts : List Tree}
    (hn : n.role = .conditional) (h : IsConditional ts) (hts : ∀ t ∈ ts, t.Grammatical) :
    headsAll [(Clause.ofNode n (ts.map (fold (Summary.ofNode text)))).chain
        ((alternatives ts).map (fold (Summary.ofNode text)))] =
      (.ifCondition, n.line) :: ts.flatMap (headsUnder text n) := by
  obtain ⟨hheaded, hconfined⟩ := h
  obtain ⟨test, block, others, hfilling, htest, hblock, hothers, hheads⟩ :=
    hheaded.heads_clause text (by decide) (by decide) n
  have halternatives := alternatives_eq hfilling htest hblock hothers
  have hgrammatical : ∀ t ∈ others, t.Grammatical := by
    intro t ht
    rw [← halternatives] at ht
    exact hts t (List.mem_of_mem_filter ht)
  have hinert : ∀ t ∈ ts, ["condition", "consequence", "alternative"].any t.info.fills = false →
      headsUnder text n t = [] := by
    intro t ht hnot
    exact headsUnder_of_isInert (hconfined t ht hnot) (by simp at hnot; exact hnot.2.2)
  have hunder : ts.flatMap (headsUnder text n) =
      test.heads text ++ (block.heads text ++ others.flatMap (headsUnder text n)) := by
    rw [← flatMap_filling hinert, hfilling, List.flatMap_cons, List.flatMap_cons,
      headsUnder_of_fills htest (by decide), headsUnder_of_fills hblock (by decide)]
  rw [halternatives, headsAll_chain hn others _ hothers hgrammatical, hheads, hunder,
    List.cons_append, List.append_assoc]

/-- **One head for each construct.**  The heads of a grammatical node are its own head and those
that its children add. -/
theorem heads_node {n : Node} {ts : List Tree} (h : (Tree.node n ts).Grammatical) :
    (Tree.node n ts).heads text =
      (n.head? text (ts.map info)).toList ++ ts.flatMap (headsUnder text n) := by
  obtain ⟨hn, hts⟩ := grammatical_node.mp h
  rw [heads, fold_node, Node.head?]
  cases hrole : n.role with
  | function =>
      have hunder : headsUnder text n = heads text :=
        headsUnder_of_role (by rw [hrole]; rfl) (by rw [hrole]; decide)
      have hinner := headsAll_outlineAll text hts
      rw [outlineAll] at hinner
      rw [Summary.whole_ofNode_function hrole, headsAll_function, hinner,
        Summary.name_eq_nameAmong, map_node_fold, hunder]
      rfl
  | conditional =>
      have hchain := headsUnder_conditional text hrole (hn.conditional hrole) hts
      rw [Summary.whole_ofNode_conditional hrole, filter_map_fold text (·.fills "alternative")]
      exact hchain
  | loop style =>
      have hsuite := hn.loop (by rw [hrole]; rfl)
      have hbody := hsuite.headsAll_body text (t := .node n ts)
      rw [fold_node] at hbody
      rw [Summary.whole_ofNode_loop hrole, headsAll_loop]
      exact congrArg _ (hbody.trans (headsUnder_loop (by rw [hrole]; rfl) hsuite))
  | plain =>
      have hunder : headsUnder text n = heads text :=
        headsUnder_of_role (by rw [hrole]; rfl) (by rw [hrole]; decide)
      rw [Summary.whole_ofNode_plain hrole, hunder]
      exact headsAll_outlineAll text hts

/-! ### One place after the other -/

theorem listed_node (above : List Node) (n : Node) (ts : List Tree) :
    (Tree.node n ts).listed text above =
      (Site.head? text ⟨above, .node n ts⟩).toList ++ ts.flatMap (listed text (n :: above)) := by
  rw [listed, sitesUnder_node, List.filterMap_cons, List.filterMap_flatMap]
  cases Site.head? text ⟨above, .node n ts⟩ with
  | none => rfl
  | some head => rfl

theorem listed_of_isLeftOut {t : Tree} {above : List Node} (h : t.info.isLeftOut above = true) :
    t.listed text above = [] := by
  induction t using Tree.induct generalizing above with
  | node n ts ih =>
      have hn : n.isLeftOut above = true := h
      have hhead : Site.head? text ⟨above, .node n ts⟩ = none := if_pos hn
      have hts : ∀ t ∈ ts, t.listed text (n :: above) = [] := by
        intro t ht
        apply ih t ht
        rw [Node.isLeftOut, hn, Bool.or_true]
      rw [listed_node, hhead, List.flatMap_eq_nil_iff.mpr hts]
      rfl

/-- The head for a place that is not left out: that of a clause, or that of the node. -/
theorem toList_head? {n : Node} {ts : List Tree} {above : List Node}
    (hkept : n.isLeftOut above = false) :
    (Site.head? text ⟨above, .node n ts⟩).toList =
      clauseHead above (.node n ts) ++ (n.head? text (ts.map info)).toList := by
  show (ite (n.isLeftOut above = true) none _ : Option _).toList = _
  rw [hkept, if_neg Bool.false_ne_true, clauseHead]
  show (ite (n.isClause above = true) _ _ : Option _).toList =
    (if n.isClause above = true then _ else _) ++ _
  cases hclause : n.isClause above with
  | true =>
      have hplain : n.role = .plain := Node.role_of_kind (Node.kind_of_isClause hclause) (by decide)
      rw [if_pos rfl, if_pos rfl, Node.head?, hplain]
      rfl
  | false => rfl

/-- **What is listed are the heads.**  The heads for the places in a grammatical tree are those of
its outline, and before them the one that the tree has if it is a clause. -/
theorem listed_eq (text : Node → String) {t : Tree} (h : t.Grammatical) {above : List Node}
    (hkept : t.info.isLeftOut above = false) :
    t.listed text above = clauseHead above t ++ t.heads text := by
  induction t using Tree.induct generalizing above with
  | node n ts ih =>
      have hn : n.isLeftOut above = false := hkept
      have hts := (grammatical_node.mp h).2
      -- Since `n` is not left out, a child is left out only if `n` is a loop and it a clause.
      have hbelow : ∀ t ∈ ts, t.listed text (n :: above) = headsUnder text n t := by
        intro t ht
        have hleft : t.info.isLeftOut (n :: above) = t.info.isAfterLoop n := by
          rw [Node.isLeftOut, hn, Bool.or_false]
        rw [headsUnder]
        cases hloop : t.info.isAfterLoop n with
        | true => exact listed_of_isLeftOut (hleft.trans hloop)
        | false => exact ih t ht (hts t ht) (hleft.trans hloop)
      rw [listed_node, List.flatMap_congr hbelow, toList_head? hn, List.append_assoc,
        ← heads_node h]

end Tree

namespace Program

/-- **No construct is lost, repeated or moved.**  Blocks are numbered in order, and in the flow
graph of a grammatical tree those that are heads are the heads for the places in the tree, a
parent before its children. -/
theorem flow_in_order (p : Program) (h : p.tree.Grammatical) :
    p.flow.blocks.map (·.id) = List.range p.flow.size ∧
    p.tree.sites.map Site.node = p.tree.nodes ∧
    (p.flow.blocks.filter (·.label.isHead)).map (fun b => (b.label, b.line)) =
      p.tree.sites.filterMap (Site.head? p.text) := by
  refine ⟨?_, Tree.map_node_sitesUnder p.tree [], ?_⟩
  · apply List.ext_getElem
    · simp [FlowGraph.size]
    · intro i hi _
      rw [List.getElem_map, List.getElem_range]
      exact FlowGraph.id_eq_ofOutline p.outline i _ (List.getElem?_eq_getElem _)
  · have hlisted : p.tree.listed p.text [] = p.tree.heads p.text := Tree.listed_eq p.text h rfl
    have hcells : p.flow.blocks.map (fun b => (b.label, b.line)) = cellsAll p.outline := by
      rw [flow, FlowGraph.ofOutline_eq]
      apply List.ext_getElem
      · simp [Block.ofCells]
      · intro i _ _
        simp [Block.ofCells]
    have hheads : (p.flow.blocks.filter (·.label.isHead)).map (fun b => (b.label, b.line)) =
        headsAll p.outline := by
      rw [headsAll, ← hcells, List.filter_map]
      rfl
    rw [hheads]
    exact hlisted.symm

/-! ### A function with clauses of both sorts -/

/-- A loop with an `else` clause that holds a conditional. -/
def clausedLoop : Tree :=
  .node (.phrase "for_statement" none 1 11 60)
    [.node (.phrase "identifier" (some "left") 1 15 16) [],
      .node (.phrase "identifier" (some "right") 1 20 21) [],
      .node (.phrase "block" (some "body") 2 27 31)
        [.node (.phrase "pass_statement" none 2 27 31) []],
      .node (.phrase "else_clause" (some "alternative") 3 34 60)
        [.node (.phrase "block" (some "body") 4 44 60)
          [.node (.phrase "if_statement" none 4 44 60) (chainedParts 4 47 56)]]]

/-- A conditional with an `elif` clause that holds a loop. -/
def clausedConditional : Tree :=
  .node (.phrase "if_statement" none 6 63 111)
    (chainedParts 6 66 73 ++
      [.node (.phrase "elif_clause" (some "alternative") 8 80 111)
        [.node (.phrase "identifier" (some "condition") 8 85 86) [],
          .node (.phrase "block" (some "consequence") 9 92 111)
            [.node (.phrase "while_statement" none 9 92 111)
              [.node (.phrase "identifier" (some "condition") 9 98 99) [],
                .node (.phrase "block" (some "body") 10 107 111)
                  [.node (.phrase "pass_statement" none 10 107 111) []]]]]])

/-- A function with the loop and the conditional. -/
def claused : Program :=
  ⟨"def f():\n  for i in x:\n    pass\n  else:\n    if y:\n      pass\n" ++
      "  if a:\n    pass\n  elif b:\n    while c:\n      pass\n",
    .node (.phrase "module" none 0 0 112)
      [.node (.phrase "function_definition" none 0 0 111)
        [.node (.phrase "identifier" (some "name") 0 4 5) [],
          .node (.phrase "block" (some "body") 1 11 111) [clausedLoop, clausedConditional]]]⟩

/-- The conditional in the clause of the loop is left out, and the `elif` clause is not. -/
theorem flow_in_order_claused :
    claused.tree.Grammatical ∧
      (claused.flow.blocks.filter (·.label.isHead)).map (fun b => (b.label, b.line)) =
        [(.function "f", 1), (.forLoop, 2), (.ifCondition, 7), (.ifCondition, 9),
          (.whileLoop, 10)] := by
  have hgrammatical : claused.tree.Grammatical := by decide
  refine ⟨hgrammatical, (flow_in_order claused hgrammatical).2.2.trans ?_⟩
  decide +kernel

end Program

end StructuralGrading
