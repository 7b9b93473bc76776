import Mathlib.Data.List.Flatten
import Mathlib.Tactic.MkIffOfInductiveProp
import StructuralGrading.Proofs.Feedback.Reading
import StructuralGrading.Proofs.Program.InOrder

/-! # Lines in order

The blocks of a program are numbered as the program is read, from top to bottom, if its tree is in
order: rows never go back from a node to the next one, and the parts of a conditional stand in the
order in which they are outlined.  So the lines that a feedback shows never go back either.

* `Tree.IsInOrder`: what is asked of a tree;
* `Tree.twice`: the lines of its nodes, each of them twice;
* `Tree.inLines`: the lines of an outline are found among them, in this order;
* `Feedback.shownLine?`: the line that a bullet shows;
* `Program.lines_ascend`: the lines of blocks and of bullets never go back.

A line is needed twice for an `elif` clause: it is the line of a false branch, and of the condition
that stands in this branch. -/

namespace StructuralGrading

/-! ### Lines of an outline -/

/-- The lines of the blocks that several constructs add. -/
def linesAll (cs : List Construct) : List Nat := (cellsAll cs).map (·.2)

theorem linesAll_append (cs ds : List Construct) :
    linesAll (cs ++ ds) = linesAll cs ++ linesAll ds := by
  unfold linesAll
  rw [cellsAll_append, List.map_append]

theorem linesAll_function (name : String) (line : Nat) (body : List Construct) :
    linesAll [.function name line body] = line :: linesAll body := by
  simp [linesAll, cellsAll, Construct.cells]

theorem linesAll_loop (style : LoopStyle) (line : Nat) (body : List Construct) :
    linesAll [.loop style line body] = line :: linesAll body := by
  simp [linesAll, cellsAll, Construct.cells]

namespace Clause

/-- The lines of the blocks that a clause adds without its alternatives. -/
def lines (c : Clause) : List Nat :=
  c.line :: (linesAll c.test ++ c.thenLine :: linesAll c.thenBody)

theorem linesAll_chain_nil (c : Clause) : linesAll [c.chain []] = c.lines := by
  simp [chain, lines, linesAll, cellsAll, Construct.cells]

theorem linesAll_chain_cons (c : Clause) (s : Summary) (ps : List Summary) :
    linesAll [c.chain (s :: ps)] =
      c.lines ++ s.node.line ::
        if s.node.isElif then linesAll [s.clause.chain ps] else linesAll s.body := by
  rw [chain]
  split
  · simp [lines, linesAll, cellsAll, Construct.cells]
  · simp [lines, linesAll, cellsAll, Construct.cells]

end Clause

/-! ### Trees in order -/

namespace Tree

/-- What stands before the first consequence. -/
def beforeConsequence (ts : List Tree) : List Tree :=
  ts.takeWhile fun t => !t.info.fills "consequence"

/-- There is a consequence, after the condition, if there is one, and before all alternatives. -/
@[mk_iff]
structure IsOrderedClause (ts : List Tree) : Prop where
  consequence : ∃ t ∈ ts, t.info.fills "consequence" = true
  condition : (∃ t ∈ ts, t.info.fills "condition" = true) →
    ∃ t ∈ beforeConsequence ts, t.info.fills "condition" = true
  alternatives : ∀ t ∈ beforeConsequence ts, t.info.fills "alternative" = false

/-- The nodes are ordered by rows, a parent before its children, and all conditionals and `elif`
clauses are ordered. -/
structure IsInOrder (t : Tree) : Prop where
  rows : t.nodes.Pairwise fun n m => n.row ≤ m.row
  clauses : ∀ s ∈ t.sites, s.node.role = .conditional ∨ s.node.isElif = true →
    IsOrderedClause s.part.children

instance (ts : List Tree) : Decidable (IsOrderedClause ts) :=
  decidable_of_iff _ (isOrderedClause_iff ts).symm

/-- The lines of the nodes of a tree, each twice. -/
def twice (t : Tree) : List Nat := t.nodes.flatMap fun n => [n.line, n.line]

theorem twice_node (n : Node) (ts : List Tree) :
    (Tree.node n ts).twice = n.line :: n.line :: ts.flatMap twice := by
  rw [twice, nodes_node, List.flatMap_cons, ← List.flatMap_def, List.flatMap_assoc]
  rfl

theorem twice_eq (t : Tree) :
    t.twice = t.info.line :: t.info.line :: t.children.flatMap twice := by
  obtain ⟨n, ts⟩ := t
  exact twice_node n ts

theorem twice_sublist_flatMap {t : Tree} {ts : List Tree} (h : t ∈ ts) :
    t.twice.Sublist (ts.flatMap twice) := by
  rw [List.flatMap_def]
  exact List.sublist_flatten_of_mem (List.mem_map_of_mem h)

/-- Ordered by rows, the lines stay in order when they are doubled. -/
theorem pairwise_twice {t : Tree} (h : t.nodes.Pairwise fun n m => n.row ≤ m.row) :
    t.twice.Pairwise (· ≤ ·) := by
  rw [twice, List.pairwise_flatMap]
  constructor
  · intro n _
    simp
  · refine h.imp ?_
    intro n m hrow
    simpa [Node.line] using hrow

/-- The parts of an ordered clause: what stands before the consequence, the consequence, and what
stands after it. -/
theorem IsOrderedClause.exists_split {ts : List Tree} (h : IsOrderedClause ts) :
    ∃ before block after, ts = before ++ block :: after ∧
      child? "consequence" ts = some block ∧ child? "condition" ts = child? "condition" before ∧
      Tree.alternatives ts = Tree.alternatives after := by
  obtain ⟨⟨t, ht, hfills⟩, hcondition, halternatives⟩ := h
  obtain ⟨block, after, hrest⟩ : ∃ block after,
      ts.dropWhile (fun t => !t.info.fills "consequence") = block :: after := by
    apply List.exists_cons_of_ne_nil
    intro hnil
    have hnone := List.dropWhile_eq_nil_iff.mp hnil t ht
    simp [hfills] at hnone
  have hsplit : ts = beforeConsequence ts ++ block :: after := by
    rw [← hrest]
    exact List.takeWhile_append_dropWhile.symm
  have hblock : block.info.fills "consequence" = true := by
    have hhead := List.head?_dropWhile_not (fun t : Tree => !t.info.fills "consequence") ts
    rw [hrest] at hhead
    simpa using hhead
  have hbefore : ∀ t ∈ beforeConsequence ts, t.info.fills "consequence" = false := by
    intro t ht
    simpa using List.mem_takeWhile_imp ht
  refine ⟨beforeConsequence ts, block, after, hsplit, ?_, ?_, ?_⟩
  · have hnone : (beforeConsequence ts).find? (·.info.fills "consequence") = none := by
      simpa using hbefore
    rw [child?, hsplit, List.find?_append, hnone]
    exact child?_cons_of_pos hblock after
  · cases htest : child? "condition" (beforeConsequence ts) with
    | some test =>
        rw [child?] at htest
        rw [child?, hsplit, List.find?_append, htest]
        rfl
    | none =>
        have hnone : ∀ t ∈ beforeConsequence ts, t.info.fills "condition" = false := by
          simpa [child?] using htest
        apply List.find?_eq_none.mpr
        intro t ht hfills
        obtain ⟨u, hu, hfirst⟩ := hcondition ⟨t, ht, hfills⟩
        rw [hnone u hu] at hfirst
        cases hfirst
  · have hnone : Tree.alternatives (beforeConsequence ts) = [] := by
      simpa [Tree.alternatives] using halternatives
    have hother : block.info.fills "alternative" = false := Node.fills_of_ne hblock (by decide)
    rw [Tree.alternatives] at hnone
    rw [Tree.alternatives, hsplit, List.filter_append, hnone, List.filter_cons, hother,
      if_neg Bool.false_ne_true, List.nil_append, Tree.alternatives]

/-! ### Lines of a tree -/

variable (text : Node → String)

/-- The outline of a tree has its lines from the nodes of the tree, in their order.  What is
outlined of the children has them from the children. -/
structure InLines (t : Tree) : Prop where
  whole : (linesAll (t.fold (Summary.ofNode text)).whole).Sublist t.twice
  inner : (linesAll (t.fold (Summary.ofNode text)).inner).Sublist (t.children.flatMap twice)
  body : (linesAll (t.fold (Summary.ofNode text)).body).Sublist (t.children.flatMap twice)
  /-- The line of the clause itself is still there for the false branch before it. -/
  clause : t.info.isElif = true → (t.fold (Summary.ofNode text)).clause.lines.Sublist
    (t.info.line :: t.children.flatMap twice)

variable {text} {ts : List Tree}

theorem linesAll_outlineAll (h : ∀ t ∈ ts, t.InLines text) :
    (linesAll (outlineAll text ts)).Sublist (ts.flatMap twice) := by
  induction ts with
  | nil => exact .slnil
  | cons t ts ih =>
      have hts := ih fun u hu => h u (List.mem_cons_of_mem t hu)
      rw [outlineAll_cons, linesAll_append, List.flatMap_cons]
      apply List.Sublist.append _ hts
      split
      · exact (h t List.mem_cons_self).whole
      · exact List.nil_sublist _

theorem linesAll_child? (field : String) (part : Summary → List Construct)
    (h : ∀ t ∈ ts, (linesAll (part (t.fold (Summary.ofNode text)))).Sublist t.twice) :
    (linesAll (((Summary.child? field (ts.map (fold (Summary.ofNode text)))).map part).getD
      [])).Sublist (ts.flatMap twice) := by
  rw [child?_map_fold]
  cases hchild : child? field ts with
  | none => exact List.nil_sublist _
  | some t =>
      have ht : t ∈ ts := List.mem_of_find?_eq_some hchild
      exact (h t ht).trans (twice_sublist_flatMap ht)

theorem InLines.cons_inner {t : Tree} (h : t.InLines text) :
    (t.info.line :: linesAll (t.fold (Summary.ofNode text)).inner).Sublist t.twice := by
  rw [twice_eq]
  exact (h.inner.cons_cons _).cons _

/-- An ordered clause has its lines from the node and from what stands up to the consequence, and
the alternatives have theirs from what stands after it. -/
theorem lines_clause (hordered : IsOrderedClause ts) (h : ∀ t ∈ ts, t.InLines text) (n : Node) :
    ((Clause.ofNode n (ts.map (fold (Summary.ofNode text)))).lines ++
      (alternatives ts).flatMap twice).Sublist (n.line :: ts.flatMap twice) := by
  obtain ⟨before, block, after, hsplit, hblock, htest, halternatives⟩ := hordered.exists_split
  have hbefore : ∀ t ∈ before, t.InLines text := fun t ht => h t (by simp [hsplit, ht])
  have htested := linesAll_child? "condition" (·.whole) fun t ht => (hbefore t ht).whole
  have htaken : (block.info.line :: linesAll (block.fold (Summary.ofNode text)).inner).Sublist
      block.twice := (h block (by simp [hsplit])).cons_inner
  have hothers : ((alternatives after).flatMap twice).Sublist (after.flatMap twice) :=
    List.filter_sublist.flatMap twice
  rw [child?_map_fold] at htested
  have hall := htested.append (htaken.append hothers)
  rw [Clause.lines, Clause.ofNode, child?_map_fold, child?_map_fold, hblock, htest, halternatives,
    hsplit, List.flatMap_append, List.flatMap_cons]
  simpa [node_fold] using hall.cons_cons n.line

theorem linesAll_chain (h : ∀ t ∈ ts, t.InLines text) (c : Clause) :
    (linesAll [c.chain (ts.map (fold (Summary.ofNode text)))]).Sublist
      (c.lines ++ ts.flatMap twice) := by
  induction ts generalizing c with
  | nil =>
      rw [List.map_nil, c.linesAll_chain_nil, List.flatMap_nil, List.append_nil]
  | cons t ts ih =>
      have ht := h t List.mem_cons_self
      have hts := fun u hu => h u (List.mem_cons_of_mem t hu)
      rw [List.map_cons, c.linesAll_chain_cons, node_fold, List.flatMap_cons, twice_eq]
      apply List.Sublist.append_left
      -- The first of the two lines is that of the false branch.
      rw [List.cons_append]
      apply List.Sublist.cons_cons
      split
      · rename_i helif
        exact (ih hts _).trans ((ht.clause helif).append_right _)
      · exact ((ht.body.trans (List.sublist_append_left _ _))).cons _

theorem inLines_node {n : Node} (h : ∀ t ∈ ts, t.InLines text)
    (hclause : n.role = .conditional ∨ n.isElif = true → IsOrderedClause ts) :
    (Tree.node n ts).InLines text := by
  have hinner := linesAll_outlineAll h
  have hbody : (linesAll (((Summary.child? "body" (ts.map (fold (Summary.ofNode text)))).map
      (·.inner)).getD [])).Sublist (ts.flatMap twice) :=
    linesAll_child? "body" (·.inner) fun t ht =>
      (List.sublist_cons_self _ _).trans (h t ht).cons_inner
  refine ⟨?_, ?_, ?_, ?_⟩
  · -- The node gives its line once; that it is there twice only matters for a clause.
    rw [fold_node, twice_node]
    cases hrole : n.role with
    | function =>
        rw [Summary.whole_ofNode_function hrole, linesAll_function]
        exact (hinner.cons_cons _).cons _
    | conditional =>
        have hordered := hclause (.inl hrole)
        have hothers : ∀ t ∈ alternatives ts, t.InLines text := fun t ht =>
          h t (List.mem_of_mem_filter ht)
        rw [Summary.whole_ofNode_conditional hrole, filter_map_fold text (·.fills "alternative")]
        exact ((linesAll_chain hothers _).trans (lines_clause hordered h n)).cons _
    | loop style =>
        rw [Summary.whole_ofNode_loop hrole, linesAll_loop]
        exact (hbody.cons_cons _).cons _
    | plain =>
        rw [Summary.whole_ofNode_plain hrole]
        exact (hinner.cons _).cons _
  · rw [fold_node]
    exact hinner
  · rw [fold_node]
    exact hbody
  · intro helif
    rw [fold_node]
    exact (List.sublist_append_left _ _).trans (lines_clause (hclause (.inr helif)) h n)

/-- **The outline of a tree keeps the order of the tree**, if all its clauses are ordered. -/
theorem inLines (text : Node → String) {t : Tree}
    (h : ∀ s ∈ t.sites, s.node.role = .conditional ∨ s.node.isElif = true →
      IsOrderedClause s.part.children) : t.InLines text := by
  induction t using Tree.induct with
  | node n ts ih =>
      obtain ⟨hn, hts⟩ := (forall_sites_node (P := fun t =>
        t.info.role = .conditional ∨ t.info.isElif = true → IsOrderedClause t.children)).mp h
      exact inLines_node (fun t ht => ih t ht (hts t ht)) hn

end Tree

/-! ### Lines of blocks -/

namespace Program

variable {p : Program}

theorem pairwise_lines_flow (h : p.tree.IsInOrder) :
    (p.flow.blocks.map (·.line)).Pairwise (· ≤ ·) := by
  rw [flow, FlowGraph.lines_ofOutline]
  exact (Tree.pairwise_twice h.rows).sublist (Tree.inLines p.text h.clauses).whole

theorem pairwise_id_line_flow (h : p.tree.IsInOrder) :
    p.flow.blocks.Pairwise fun b c => b.id < c.id ∧ b.line ≤ c.line := by
  have hlines := List.pairwise_map.mp (pairwise_lines_flow h)
  rw [List.pairwise_iff_getElem] at hlines ⊢
  intro i j hi hj hij
  have hid : ∀ k (hk : k < p.flow.blocks.length), p.flow.blocks[k].id = k := fun k hk =>
    FlowGraph.id_eq_ofOutline p.outline k _ (List.getElem?_eq_getElem hk)
  rw [hid i hi, hid j hj]
  exact ⟨hij, hlines i j hi hj hij⟩

end Program

/-! ### Lines in a feedback -/

namespace Feedback

/-- The number that a bullet shows before the bracket at its end. -/
def shownLine? (b : String) : Option Nat :=
  match b.toList.reverse with
  | ')' :: rest =>
    let digits := (rest.takeWhile Char.isDigit).reverse
    if digits = [] then none else some (Nat.ofDigitChars 10 digits 0)
  | _ => none

theorem shownLine?_append (front : String) (line : Nat) :
    shownLine? (front ++ " " ++ toString line ++ ")") = some line := by
  have hdigits : ∀ c ∈ (Nat.toDigits 10 line).reverse, c.isDigit = true := by
    intro c hc
    exact Nat.isDigit_of_mem_toDigits (by omega) (by omega) (List.mem_reverse.mp hc)
  have hchars : (front ++ " " ++ toString line ++ ")").toList.reverse =
      ')' :: ((Nat.toDigits 10 line).reverse ++ ' ' :: front.toList.reverse) := by
    simp [Nat.toString_eq_repr, Nat.toList_repr]
  have hread : ((Nat.toDigits 10 line).reverse ++ ' ' :: front.toList.reverse).takeWhile
      Char.isDigit = (Nat.toDigits 10 line).reverse := by
    rw [List.takeWhile_append_of_pos hdigits, List.takeWhile_cons_of_neg (by decide),
      List.append_nil]
  unfold shownLine?
  rw [hchars]
  simp [hread, Nat.toDigits_ne_nil, Nat.ofDigitChars_ten_toDigits]

section graphs

variable {g : ConceptGraph} {ps : List Placement}

theorem map_shownLine? {place : String} {bs : List String}
    (h : List.Forall₂ (ShowsLine g place) ps bs) :
    bs.map shownLine? = ps.map fun p => g.line? p.id := by
  induction h with
  | nil => rfl
  | @cons p b ps bs hshows _ ih =>
      obtain ⟨line, hline, rfl⟩ := hshows
      have hread := shownLine?_append ("  - " ++ (p.concept.label ++ " (" ++ place)) line
      simp only [String.append_assoc] at hread
      simp only [List.map_cons, ih, hline, String.append_assoc, hread]

theorem map_line?_placements (g : ConceptGraph) :
    (g.placements.map fun p => g.line? p.id) = (g.nodes.map (·.line)).map some := by
  have hids : (g.placements.map fun p => g.line? p.id) = (List.range g.size).map g.line? := by
    rw [← g.map_id_placements, List.map_map]
    rfl
  rw [hids]
  apply List.ext_getElem
  · simp [ConceptGraph.size]
  · intro i hi _
    have hsize : i < g.nodes.length := by simpa [ConceptGraph.size] using hi
    simp [ConceptGraph.line?, hsize]

theorem exists_lines (h : ps.Sublist g.placements) :
    ∃ shown : List Nat, shown.Sublist (g.nodes.map (·.line)) ∧
      (ps.map fun p => g.line? p.id) = shown.map some := by
  have hsub := h.map fun p => g.line? p.id
  rw [map_line?_placements] at hsub
  exact List.sublist_map_iff.mp hsub

theorem exists_shown {place : String} {bs : List String} (h : ps.Sublist g.placements)
    (hbullets : List.Forall₂ (ShowsLine g place) ps bs)
    (hlines : (g.nodes.map (·.line)).Pairwise (· ≤ ·)) :
    ∃ shown : List Nat, bs.map shownLine? = shown.map some ∧ shown.Pairwise (· ≤ ·) := by
  obtain ⟨shown, hsub, heq⟩ := exists_lines h
  exact ⟨shown, (map_shownLine? hbullets).trans heq, hlines.sublist hsub⟩

end graphs

end Feedback

namespace Program

theorem pairwise_lines_conceptGraph {p : Program} (h : p.tree.IsInOrder) :
    (p.conceptGraph.nodes.map (·.line)).Pairwise (· ≤ ·) := by
  have hlines : p.conceptGraph.nodes.map (·.line) = p.flow.blocks.map (·.line) := List.map_map
  rw [hlines]
  exact pairwise_lines_flow h

/-- **Lines never go back.**  If the tree of a program is in order, blocks with greater numbers have
no smaller lines.  In the feedback on a comparison of two such programs, the bullets of the section
on missing concepts show one line each, and these lines never go back; and so do those of the
section on extra concepts. -/
theorem lines_ascend :
    (∀ p : Program, p.tree.IsInOrder →
      p.flow.blocks.Pairwise fun b c => b.id < c.id ∧ b.line ≤ c.line) ∧
    ∀ (weights : Weights Float) (student reference : Program),
      student.tree.IsInOrder → reference.tree.IsInOrder →
      let c := Comparison.compare weights student.conceptGraph reference.conceptGraph
      Feedback.render c = "\n".intercalate
        (Feedback.Topic.all.flatMap fun t => Feedback.sectionLines t (Feedback.bullets c t)) ∧
      ∀ t ∈ [Feedback.Topic.missingConcepts, .extraConcepts], ∃ shown : List Nat,
        (Feedback.bullets c t).map Feedback.shownLine? = shown.map some ∧
          shown.Pairwise (· ≤ ·) := by
  refine ⟨fun p => pairwise_id_line_flow, ?_⟩
  intro weights student reference hstudent hreference c
  have hmem : ∀ {g h : ConceptGraph}, ∀ p ∈ Comparison.lacking g.placements h.placements,
      p ∈ g.placements := fun p hp => (Comparison.mem_lacking.mp hp).1
  refine ⟨Feedback.render_eq c, ?_⟩
  intro t ht
  rcases List.mem_pair.mp ht with rfl | rfl
  · exact Feedback.exists_shown List.filter_sublist (Feedback.forall₂_showsLine hmem _)
      (pairwise_lines_conceptGraph hreference)
  · exact Feedback.exists_shown List.filter_sublist (Feedback.forall₂_showsLine hmem _)
      (pairwise_lines_conceptGraph hstudent)

/-- A loop in a function is compared with a function that has a loop with a clause and a conditional
with one.  What is missing is shown from top to bottom, with the line of the `elif` clause twice. -/
theorem lines_ascend_claused :
    let c := Comparison.compare .standard freeFunction.conceptGraph claused.conceptGraph
    freeFunction.tree.IsInOrder ∧ claused.tree.IsInOrder ∧
    claused.flow.blocks.Pairwise (fun b c => b.id < c.id ∧ b.line ≤ c.line) ∧
    (Feedback.bullets c .missingConcepts).map Feedback.shownLine? =
      [some 2, some 7, some 8, some 9, some 9, some 10, some 10] ∧
    ∀ t ∈ [Feedback.Topic.missingConcepts, .extraConcepts], ∃ shown : List Nat,
      (Feedback.bullets c t).map Feedback.shownLine? = shown.map some ∧
        shown.Pairwise (· ≤ ·) := by
  intro c
  have hfree : freeFunction.tree.IsInOrder := ⟨by decide +kernel, by decide +kernel⟩
  have hclaused : claused.tree.IsInOrder := ⟨by decide +kernel, by decide +kernel⟩
  exact ⟨hfree, hclaused, lines_ascend.1 claused hclaused, by decide +kernel,
    (lines_ascend.2 .standard freeFunction claused hfree hclaused).2⟩

end Program

end StructuralGrading
