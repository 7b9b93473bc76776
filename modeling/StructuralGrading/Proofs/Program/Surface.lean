import Mathlib.Logic.Relation
import StructuralGrading.Grading.Basic
import StructuralGrading.Proofs.Program.Alike

/-! # The surface of a program

Most of a program is surface to its flow graph: statements that are no constructs, the blocks that
they stand in, and where on its line and where in the source anything stands.

* `Tree.Adorns`: somewhere in a tree there is one inert piece more, or one wrapping more;
* `Tree.Moved`: two trees differ in marks, columns and bounds alone;
* `Summary.seen_ofNode_edit`: an edit of children that are read without regard to their fields
  shows in the outline of the children only;
* `Program.flow_restyled`: programs that differ on the surface have one flow graph and one grade.

A summary holds more than is read of it.  Only an alternative is read as a clause or for its body,
so `Summary.seen` leaves the two out elsewhere, and it is what the edits keep. -/

namespace StructuralGrading

/-! ### What is read of a node -/

namespace Node

/-- A node that stands for no construct. -/
def IsInert (n : Node) : Prop :=
  n.kind ∉ ["function_definition", "if_statement", "for_statement", "while_statement"]

instance (n : Node) : Decidable n.IsInert := inferInstanceAs (Decidable (n.kind ∉ _))

/-- The node `n` is read without regard to the field of its child `m`: there is none, or all that
is read of `n` is the outline of its children. -/
def Overlooks (n m : Node) : Prop :=
  m.field = none ∨ (n.IsInert ∧ n.fills "alternative" = false)

/-- A node without its marks, its column and its bounds. -/
def bare (n : Node) : Node :=
  { n with
    isError := false
    isMissing := false
    hasError := false
    column := 0
    startByte := 0
    endByte := 0 }

/-- The text of the first node that is a name; empty if none is. -/
def nameAmong (text : Node → String) (ns : List Node) : String :=
  ((ns.find? (·.fills "name")).map text).getD ""

theorem IsInert.role {n : Node} (h : n.IsInert) : n.role = .plain := by
  simp only [IsInert, List.mem_cons, List.not_mem_nil, or_false, not_or] at h
  obtain ⟨hfunction, hif, hfor, hwhile⟩ := h
  rw [Node.role, if_neg hfunction, if_neg hif, if_neg hfor, if_neg hwhile]

theorem kind_of_role_function {n : Node} (h : n.role = .function) :
    n.kind = "function_definition" := by
  by_contra hkind
  revert h
  rw [Node.role, if_neg hkind]
  split_ifs <;> simp

end Node

/-! ### Summaries as they are read -/

namespace Summary

variable {text text' : Node → String} {n m : Node} {ps qs : List Summary}

/-- What is read of a summary. -/
def seen (s : Summary) : Summary where
  node := s.node.bare
  clause := if s.node.fills "alternative" then s.clause else ⟨0, [], 0, []⟩
  body := if s.node.fills "alternative" then s.body else []
  inner := s.inner
  whole := s.whole

theorem seen_eq {s u : Summary} (hnode : s.node.bare = u.node.bare)
    (hclause : s.node.fills "alternative" = true → s.clause = u.clause)
    (hbody : s.node.fills "alternative" = true → s.body = u.body) (hinner : s.inner = u.inner)
    (hwhole : s.whole = u.whole) : s.seen = u.seen := by
  have hfills : s.node.fills "alternative" = u.node.fills "alternative" := by
    show s.node.bare.fills "alternative" = u.node.bare.fills "alternative"
    rw [hnode]
  unfold seen
  rw [hnode, hinner, hwhole, ← hfills]
  cases h : s.node.fills "alternative" with
  | true => rw [if_pos rfl, if_pos rfl, if_pos rfl, if_pos rfl, hclause h, hbody h]
  | false => rfl

theorem child?_map_seen (field : String) (ps : List Summary) :
    child? field (ps.map seen) = (child? field ps).map seen := by
  rw [child?, List.find?_map]
  rfl

theorem clause_map_seen (n : Node) (ps : List Summary) :
    Clause.ofNode n.bare (ps.map seen) = Clause.ofNode n ps := by
  simp only [Clause.ofNode, child?_map_seen, Option.map_map]
  rfl

theorem chain_map_seen : ∀ (c : Clause) (ps : List Summary),
    (∀ s ∈ ps, s.node.fills "alternative" = true) → c.chain (ps.map seen) = c.chain ps
  | c, [], _ => rfl
  | c, s :: ps, h => by
      have hs : s.node.fills "alternative" = true := h s List.mem_cons_self
      have hclause : s.seen.clause = s.clause := if_pos hs
      have hbody : s.seen.body = s.body := if_pos hs
      have hrest := chain_map_seen s.clause ps fun u hu => h u (List.mem_cons_of_mem s hu)
      rw [List.map_cons, Clause.chain, Clause.chain, hclause, hbody, hrest]
      rfl

theorem alternatives_map_seen (c : Clause) (ps : List Summary) :
    c.chain ((ps.map seen).filter (·.node.fills "alternative")) =
      c.chain (ps.filter (·.node.fills "alternative")) := by
  rw [List.filter_map]
  exact chain_map_seen c _ fun s hs => (List.mem_filter.mp hs).2

theorem inner_map_seen (ps : List Summary) :
    ((ps.map seen).filter (·.node.named)).flatMap (·.whole) =
      (ps.filter (·.node.named)).flatMap (·.whole) := by
  rw [List.filter_map, List.flatMap_map]
  rfl

theorem body_map_seen (ps : List Summary) :
    ((child? "body" (ps.map seen)).map (·.inner)).getD [] =
      ((child? "body" ps).map (·.inner)).getD [] := by
  rw [child?_map_seen, Option.map_map]
  rfl

theorem name_eq_nameAmong (text : Node → String) (ps : List Summary) :
    ((child? "name" ps).map fun s => text s.node).getD "" =
      Node.nameAmong text (ps.map (·.node)) := by
  rw [Node.nameAmong, List.find?_map, Option.map_map]
  rfl

theorem seen_ofNode (hnode : n.bare = m.bare) (hparts : ps.map seen = qs.map seen)
    (hname : n.role = .function →
      Node.nameAmong text (ps.map (·.node)) = Node.nameAmong text' (qs.map (·.node))) :
    (ofNode text n ps).seen = (ofNode text' m qs).seen := by
  have hrole : n.role = m.role := by
    show n.bare.role = m.bare.role
    rw [hnode]
  have hline : n.line = m.line := by
    show n.bare.line = m.bare.line
    rw [hnode]
  have hclause : Clause.ofNode n ps = Clause.ofNode m qs := by
    rw [← clause_map_seen n, ← clause_map_seen m, hnode, hparts]
  have hbody : ((child? "body" ps).map (·.inner)).getD [] =
      ((child? "body" qs).map (·.inner)).getD [] := by
    rw [← body_map_seen ps, ← body_map_seen qs, hparts]
  have hinner : (ps.filter (·.node.named)).flatMap (·.whole) =
      (qs.filter (·.node.named)).flatMap (·.whole) := by
    rw [← inner_map_seen ps, ← inner_map_seen qs, hparts]
  have hwhole : (ofNode text n ps).whole = (ofNode text' m qs).whole := by
    cases hm : m.role with
    | function =>
        have hn := hrole.trans hm
        rw [whole_ofNode_function hn, whole_ofNode_function hm, name_eq_nameAmong,
          name_eq_nameAmong, hname hn, hline, hinner]
    | conditional =>
        rw [whole_ofNode_conditional (hrole.trans hm), whole_ofNode_conditional hm, hclause,
          ← alternatives_map_seen _ ps, ← alternatives_map_seen _ qs, hparts]
    | loop style =>
        rw [whole_ofNode_loop (hrole.trans hm), whole_ofNode_loop hm, hline, hbody]
    | plain => rw [whole_ofNode_plain (hrole.trans hm), whole_ofNode_plain hm, hinner]
  exact seen_eq hnode (fun _ => hclause) (fun _ => hbody) hinner hwhole

/-! ### Edits among the children -/

/-- What a summary takes from its children: those that fill each field, and their outline. -/
theorem ofNode_congr
    (hfields : ∀ field : String, ps.filter (·.node.fills field) = qs.filter (·.node.fills field))
    (hinner : (ps.filter (·.node.named)).flatMap (·.whole) =
      (qs.filter (·.node.named)).flatMap (·.whole)) :
    ofNode text n ps = ofNode text n qs := by
  have hchild : ∀ field : String, child? field ps = child? field qs := by
    intro field
    rw [child?, ← List.head?_filter, hfields field, List.head?_filter, child?]
  have hclause : Clause.ofNode n ps = Clause.ofNode n qs := by
    rw [Clause.ofNode, Clause.ofNode, hchild, hchild]
  rw [ofNode, ofNode, hclause, hchild "body", hchild "name", hfields "alternative", hinner]

theorem seen_ofNode_inert (hinert : n.IsInert) (hplace : n.fills "alternative" = false)
    (hinner : (ps.filter (·.node.named)).flatMap (·.whole) =
      (qs.filter (·.node.named)).flatMap (·.whole)) :
    (ofNode text n ps).seen = (ofNode text n qs).seen := by
  have hwhole : (ofNode text n ps).whole = (ofNode text n qs).whole := by
    rw [whole_ofNode_plain hinert.role, whole_ofNode_plain hinert.role, hinner]
  have hnever : n.fills "alternative" ≠ true := by
    rw [hplace]
    exact Bool.false_ne_true
  exact seen_eq rfl (fun h => absurd h hnever) (fun h => absurd h hnever) hinner hwhole

theorem filter_fills_eq_nil (h : ∀ s ∈ ps, s.node.field = none) (field : String) :
    ps.filter (·.node.fills field) = [] := by
  rw [List.filter_eq_nil_iff]
  intro s hs
  simp [Node.fills, h s hs]

/-- An edit of children whose fields are overlooked shows in the outline of the children only. -/
theorem seen_ofNode_edit {before old new after : List Summary}
    (hold : ∀ s ∈ old, n.Overlooks s.node) (hnew : ∀ s ∈ new, n.Overlooks s.node)
    (hinner : (old.filter (·.node.named)).flatMap (·.whole) =
      (new.filter (·.node.named)).flatMap (·.whole)) :
    (ofNode text n (before ++ old ++ after)).seen =
      (ofNode text n (before ++ new ++ after)).seen := by
  have hall : ((before ++ old ++ after).filter (·.node.named)).flatMap (·.whole) =
      ((before ++ new ++ after).filter (·.node.named)).flatMap (·.whole) := by
    simp only [List.filter_append, List.flatMap_append, hinner]
  by_cases hn : n.IsInert ∧ n.fills "alternative" = false
  · exact seen_ofNode_inert hn.1 hn.2 hall
  · have hfields : ∀ field : String, (before ++ old ++ after).filter (·.node.fills field) =
        (before ++ new ++ after).filter (·.node.fills field) := by
      intro field
      have ho := filter_fills_eq_nil (fun s hs => (hold s hs).resolve_right hn) field
      have hw := filter_fills_eq_nil (fun s hs => (hnew s hs).resolve_right hn) field
      rw [List.filter_append, List.filter_append, List.filter_append, List.filter_append, ho, hw]
    rw [ofNode_congr hfields hall]

end Summary

/-! ### Adornments -/

namespace Tree

/-- A tree without constructs. -/
def IsInert (t : Tree) : Prop := ∀ n ∈ t.nodes, n.IsInert

instance (t : Tree) : Decidable t.IsInert := inferInstanceAs (Decidable (∀ n ∈ t.nodes, n.IsInert))

/-- The second tree is the first one with an inert tree put in somewhere, or with a run of children
somewhere wrapped into one inert node. -/
inductive Adorns : Tree → Tree → Prop
  | insert {n : Node} {ts us : List Tree} {t : Tree} : n.Overlooks t.info → t.IsInert →
      Adorns (.node n (ts ++ us)) (.node n (ts ++ t :: us))
  | wrap {n m : Node} {ts run us : List Tree} : m.IsInert → m.named = true → n.Overlooks m →
      (∀ t ∈ run, n.Overlooks t.info) →
      Adorns (.node n (ts ++ run ++ us)) (.node n (ts ++ .node m run :: us))
  | inside {n : Node} {ts us : List Tree} {t u : Tree} : Adorns t u →
      Adorns (.node n (ts ++ t :: us)) (.node n (ts ++ u :: us))

variable (text : Node → String)

/-- What is read of a part of a tree. -/
def seen (t : Tree) : Summary := (t.fold (Summary.ofNode text)).seen

/-- The outline of children. -/
def outlineAll (ts : List Tree) : List Construct :=
  ((ts.map (fold (Summary.ofNode text))).filter (·.node.named)).flatMap (·.whole)

theorem seen_node (n : Node) (ts : List Tree) :
    (Tree.node n ts).seen text =
      (Summary.ofNode text n (ts.map (fold (Summary.ofNode text)))).seen := by
  rw [seen, fold_node]

theorem map_seen (ts : List Tree) :
    (ts.map (fold (Summary.ofNode text))).map Summary.seen = ts.map (seen text) := by
  rw [List.map_map]
  rfl

theorem map_node_fold (ts : List Tree) :
    (ts.map (fold (Summary.ofNode text))).map (·.node) = ts.map info := by
  rw [List.map_map]
  exact List.map_congr_left fun t _ => node_fold text t

theorem outlineAll_cons (t : Tree) (ts : List Tree) :
    outlineAll text (t :: ts) =
      (if t.info.named then (t.fold (Summary.ofNode text)).whole else []) ++
        outlineAll text ts := by
  rw [outlineAll, List.map_cons, List.filter_cons, node_fold]
  split
  · rw [List.flatMap_cons]
    rfl
  · rw [List.nil_append]
    rfl

theorem whole_fold_of_inert {n : Node} (h : n.IsInert) (ts : List Tree) :
    ((Tree.node n ts).fold (Summary.ofNode text)).whole = outlineAll text ts := by
  rw [fold_node, Summary.whole_ofNode_plain h.role]
  rfl

theorem isInert_node {n : Node} {ts : List Tree} :
    (Tree.node n ts).IsInert ↔ n.IsInert ∧ ∀ t ∈ ts, t.IsInert := by
  simp only [IsInert, nodes_node, List.mem_cons, List.mem_flatten, List.mem_map]
  constructor
  · intro h
    exact ⟨h n (.inl rfl), fun t ht m hm => h m (.inr ⟨_, ⟨t, ht, rfl⟩, hm⟩)⟩
  · rintro ⟨hn, hts⟩ m (rfl | ⟨_, ⟨t, ht, rfl⟩, hm⟩)
    · exact hn
    · exact hts t ht m hm

mutual

theorem IsInert.whole_eq_nil : ∀ t : Tree, t.IsInert → (t.fold (Summary.ofNode text)).whole = []
  | .node n ts, h => by
      rw [isInert_node] at h
      rw [whole_fold_of_inert text h.1]
      exact IsInert.outlineAll_eq_nil ts h.2

theorem IsInert.outlineAll_eq_nil : ∀ ts : List Tree, (∀ t ∈ ts, t.IsInert) →
    outlineAll text ts = []
  | [], _ => rfl
  | t :: ts, h => by
      have ht := IsInert.whole_eq_nil t (h t List.mem_cons_self)
      have hts := IsInert.outlineAll_eq_nil ts fun u hu => h u (List.mem_cons_of_mem t hu)
      rw [outlineAll_cons, ht, hts, ite_self, List.append_nil]

end

theorem overlooks_map_fold {n : Node} {ts : List Tree} (h : ∀ t ∈ ts, n.Overlooks t.info) :
    ∀ s ∈ ts.map (fold (Summary.ofNode text)), n.Overlooks s.node := by
  intro s hs
  obtain ⟨t, ht, rfl⟩ := List.mem_map.mp hs
  rw [node_fold]
  exact h t ht

/-- Children whose fields are overlooked can be replaced by others with the same outline. -/
theorem seen_edit {n : Node} {before old new after : List Tree}
    (hold : ∀ t ∈ old, n.Overlooks t.info) (hnew : ∀ t ∈ new, n.Overlooks t.info)
    (houtline : outlineAll text old = outlineAll text new) :
    (Tree.node n (before ++ old ++ after)).seen text =
      (Tree.node n (before ++ new ++ after)).seen text := by
  rw [seen_node, seen_node, List.map_append, List.map_append, List.map_append, List.map_append]
  exact Summary.seen_ofNode_edit (overlooks_map_fold text hold) (overlooks_map_fold text hnew)
    houtline

theorem Adorns.info_eq {t u : Tree} (h : Adorns t u) : t.info = u.info := by
  cases h <;> rfl

theorem Adorns.seen_eq {t u : Tree} (h : Adorns t u) : t.seen text = u.seen text := by
  induction h with
  | @insert n ts us t hplace hinert =>
      have hnone : outlineAll text [] = outlineAll text [t] := by
        rw [outlineAll_cons, hinert.whole_eq_nil, ite_self]
        rfl
      have hedit : (Tree.node n (ts ++ [] ++ us)).seen text =
          (Tree.node n (ts ++ [t] ++ us)).seen text :=
        seen_edit text (fun u hu => absurd hu List.not_mem_nil)
          (fun u hu => by rw [List.mem_singleton.mp hu]; exact hplace) hnone
      rwa [List.append_nil, List.append_assoc, List.singleton_append] at hedit
  | @wrap n m ts run us hinert hnamed hplace hrun =>
      have hsame : outlineAll text run = outlineAll text [.node m run] := by
        have hm : (Tree.node m run).info.named = true := hnamed
        rw [outlineAll_cons, whole_fold_of_inert text hinert, if_pos hm]
        exact (List.append_nil _).symm
      have hedit : (Tree.node n (ts ++ run ++ us)).seen text =
          (Tree.node n (ts ++ [.node m run] ++ us)).seen text :=
        seen_edit text hrun (fun u hu => by rw [List.mem_singleton.mp hu]; exact hplace) hsame
      rwa [List.append_assoc ts [_], List.singleton_append] at hedit
  | @inside n ts us t u htu ih =>
      have hparts : (ts ++ t :: us).map (seen text) = (ts ++ u :: us).map (seen text) := by
        rw [List.map_append, List.map_append, List.map_cons, List.map_cons, ih]
      have hinfos : (ts ++ t :: us).map info = (ts ++ u :: us).map info := by
        rw [List.map_append, List.map_append, List.map_cons, List.map_cons, htu.info_eq]
      rw [seen_node, seen_node]
      apply Summary.seen_ofNode rfl
      · rw [map_seen, map_seen, hparts]
      · intro _
        rw [map_node_fold, map_node_fold, hinfos]

theorem seen_eq_of_eqvGen {t u : Tree} (h : Relation.EqvGen Adorns t u) :
    t.seen text = u.seen text := by
  induction h with
  | rel t u h => exact h.seen_eq text
  | refl t => rfl
  | symm t u _ ih => exact ih.symm
  | trans t u w _ _ htu huw => exact htu.trans huw

/-! ### Movements -/

/-- Two trees that differ in marks, columns and bounds alone, with the same names of functions. -/
inductive Moved (text text' : Node → String) : Tree → Tree → Prop
  | node {n m : Node} {ts us : List Tree} : n.bare = m.bare →
      (n.kind = "function_definition" →
        Node.nameAmong text (ts.map info) = Node.nameAmong text' (us.map info)) →
      List.Forall₂ (Moved text text') ts us → Moved text text' (.node n ts) (.node m us)

variable {text} {text' : Node → String}

theorem Moved.other {n m : Node} {ts us : List Tree} (hn : n.bare = m.bare)
    (hkind : n.kind ≠ "function_definition") (h : List.Forall₂ (Moved text text') ts us) :
    Moved text text' (.node n ts) (.node m us) :=
  .node hn (fun hk => absurd hk hkind) h

mutual

theorem Moved.seen_eq : ∀ t u : Tree, Moved text text' t u → t.seen text = u.seen text'
  | .node n ts, .node m us, .node hn hname hts => by
      rw [seen_node, seen_node]
      apply Summary.seen_ofNode hn
      · rw [map_seen, map_seen, Moved.map_seen_eq ts us hts]
      · intro hrole
        rw [map_node_fold, map_node_fold, hname (Node.kind_of_role_function hrole)]

theorem Moved.map_seen_eq : ∀ ts us : List Tree, List.Forall₂ (Moved text text') ts us →
    ts.map (seen text) = us.map (seen text')
  | [], [], .nil => rfl
  | t :: ts, u :: us, .cons htu h => by
      rw [List.map_cons, List.map_cons, Moved.seen_eq t u htu, Moved.map_seen_eq ts us h]

end

end Tree

/-! ### Graphs and grades -/

namespace Program

/-- Programs that differ on the surface.  Adornments lead from the tree of the one, there and
back, to a tree that differs from that of the other in marks, columns and bounds alone. -/
def Restyled (p q : Program) : Prop :=
  ∃ t, Relation.EqvGen Tree.Adorns p.tree t ∧ t.Moved p.text q.text q.tree

variable {p q : Program}

theorem Restyled.flow_eq (h : Restyled p q) : p.flow = q.flow := by
  obtain ⟨t, hadorns, hmoved⟩ := h
  have hseen : p.tree.seen p.text = q.tree.seen q.text :=
    (Tree.seen_eq_of_eqvGen p.text hadorns).trans (Tree.Moved.seen_eq t q.tree hmoved)
  have houtline : (p.tree.seen p.text).whole = (q.tree.seen q.text).whole := by rw [hseen]
  exact congrArg FlowGraph.ofOutline houtline

theorem ofSource?_of_check {parse : Parser} {source : String}
    (h : (ofSource parse source).check = .ok ()) :
    ofSource? parse source = .ok (ofSource parse source) := by
  rw [ofSource?, h]
  rfl

theorem ofSources_of_check {parse : Parser} {student reference : String}
    (hstudent : (ofSource parse student).check = .ok ())
    (hreference : (ofSource parse reference).check = .ok ()) (c : Configuration) (r : Rubric)
    (task : String) :
    TaskGrade.ofSources parse c r task student reference =
      .ok (.ofGraphs c r task (ofSource parse student).conceptGraph
        (ofSource parse reference).conceptGraph) := by
  rw [TaskGrade.ofSources, conceptGraphs, ofSource?_of_check hstudent,
    ofSource?_of_check hreference]
  rfl

/-- **The surface does not count.**  Programs that differ on the surface have the same flow graph,
and if neither has a fault, they get the same grade against every reference without faults. -/
theorem flow_restyled :
    (∀ p q : Program, Restyled p q → p.flow = q.flow) ∧
    ∀ (parse : Parser) (c : Configuration) (r : Rubric) (task student other reference : String),
      Restyled (ofSource parse student) (ofSource parse other) →
      (ofSource parse student).check = .ok () → (ofSource parse other).check = .ok () →
      (ofSource parse reference).check = .ok () →
      ∃ g : TaskGrade,
        TaskGrade.ofSources parse c r task student reference = .ok g ∧
        TaskGrade.ofSources parse c r task other reference = .ok g := by
  refine ⟨fun p q h => h.flow_eq, ?_⟩
  intro parse c r task student other reference h hstudent hother hreference
  refine ⟨_, ofSources_of_check hstudent hreference c r task, ?_⟩
  rw [ofSources_of_check hother hreference c r task, conceptGraph, ← h.flow_eq]
  rfl

/-! ### A function, and the same function in a class -/

/-- A function with a loop, on the second line. -/
def loopedFunction (column start : Nat) : Tree :=
  .node { Node.phrase "function_definition" none 1 start (start + 34) with column := column }
    [.node { Node.phrase "identifier" (some "name") 1 (start + 4) (start + 5) with
        column := column + 4 } [],
      .node (.phrase "block" (some "body") 2 (start + 13) (start + 34))
        [.node (.phrase "while_statement" none 2 (start + 13) (start + 34))
          [.node (.phrase "identifier" (some "condition") 2 (start + 19) (start + 20)) [],
            .node (.phrase "block" (some "body") 3 (start + 30) (start + 34))
              [.node (.phrase "pass_statement" none 3 (start + 30) (start + 34)) []]]]]

def commented : Tree := .node (.phrase "comment" none 0 0 3) []

def className : Tree := .node (.phrase "identifier" (some "name") 0 6 7) []

def classBody : Node := .phrase "block" (some "body") 1 11 45

def classNode : Node := .phrase "class_definition" none 0 0 45

/-- A function after a comment. -/
def freeFunction : Program :=
  ⟨"# C\ndef f():\n    while x:\n        pass\n",
    .node (.phrase "module" none 0 0 39) [commented, loopedFunction 0 4]⟩

/-- The function as a method of a class. -/
def method : Program :=
  ⟨"class C:\n  def f():\n    while x:\n        pass\n",
    .node (.phrase "module" none 0 0 46)
      [.node classNode [className, .node classBody [loopedFunction 2 11]]]⟩

theorem moved_loopedFunction :
    (loopedFunction 0 4).Moved freeFunction.text method.text (loopedFunction 2 11) := by
  refine .node rfl (fun _ => by decide) (.cons (.other rfl (by decide) .nil) (.cons ?_ .nil))
  refine .other rfl (by decide) (.cons ?_ .nil)
  refine .other rfl (by decide) (.cons (.other rfl (by decide) .nil) (.cons ?_ .nil))
  exact .other rfl (by decide) (.cons (.other rfl (by decide) .nil) .nil)

/-- The comment goes, the class comes, then its block, and then its name. -/
theorem restyled_method : Restyled freeFunction method := by
  have hcomment : Tree.Adorns (.node (.phrase "module" none 0 0 39) ([] ++ [loopedFunction 0 4]))
      freeFunction.tree :=
    .insert (.inl rfl) (show commented.IsInert by decide)
  have hclass : Tree.Adorns
      (.node (.phrase "module" none 0 0 39) ([] ++ [loopedFunction 0 4] ++ []))
      (.node (.phrase "module" none 0 0 39) ([] ++ [.node classNode [loopedFunction 0 4]])) :=
    .wrap (by decide) rfl (.inl rfl) (fun t ht => by
      rw [List.mem_singleton.mp ht]
      exact .inl rfl)
  have hblock : Tree.Adorns (.node classNode ([] ++ [loopedFunction 0 4] ++ []))
      (.node classNode ([] ++ [.node classBody [loopedFunction 0 4]])) :=
    .wrap (by decide) rfl (.inr (by decide)) (fun _ _ => .inr (by decide))
  have hname : Tree.Adorns (.node classNode ([] ++ [.node classBody [loopedFunction 0 4]]))
      (.node classNode ([] ++ [className, .node classBody [loopedFunction 0 4]])) :=
    .insert (.inr (by decide)) (by decide)
  have hmoved : List.Forall₂ (Tree.Moved freeFunction.text method.text)
      [className, .node classBody [loopedFunction 0 4]]
      [className, .node classBody [loopedFunction 2 11]] :=
    .cons (.other rfl (by decide) .nil)
      (.cons (.other rfl (by decide) (.cons moved_loopedFunction .nil)) .nil)
  refine ⟨.node (.phrase "module" none 0 0 39)
    ([] ++ [.node classNode [className, .node classBody [loopedFunction 0 4]]]), ?_, ?_⟩
  · refine .trans _ _ _ (.symm _ _ (.rel _ _ hcomment)) (.trans _ _ _ (.rel _ _ hclass) ?_)
    refine .trans _ _ _ (.rel _ _ (.inside hblock)) (.rel _ _ (.inside hname))
  · exact .other rfl (by decide) (.cons (.other rfl (by decide) hmoved) .nil)

/-- A parser that knows the two programs. -/
def parseMethod (source : String) : Tree :=
  if source = method.source then method.tree else freeFunction.tree

/-- The function and the method have one graph with two blocks, and each is graded like the other
against the method. -/
theorem flow_restyled_method :
    Restyled freeFunction method ∧ freeFunction.flow = method.flow ∧ method.flow.size = 2 ∧
      (ofSource parseMethod freeFunction.source).check = .ok () ∧
      (ofSource parseMethod method.source).check = .ok () ∧
      ∃ g : TaskGrade,
        TaskGrade.ofSources parseMethod .standard .empty "task1" freeFunction.source
          method.source = .ok g ∧
        TaskGrade.ofSources parseMethod .standard .empty "task1" method.source
          method.source = .ok g := by
  have hfree : ofSource parseMethod freeFunction.source = freeFunction := rfl
  have hmethod : ofSource parseMethod method.source = method := rfl
  have hfreeCheck : (ofSource parseMethod freeFunction.source).check = .ok () := by decide
  have hmethodCheck : (ofSource parseMethod method.source).check = .ok () := by decide
  refine ⟨restyled_method, flow_restyled.1 _ _ restyled_method, by decide, hfreeCheck,
    hmethodCheck, ?_⟩
  apply flow_restyled.2 _ _ _ _ _ _ _ _ hfreeCheck hmethodCheck hmethodCheck
  rw [hfree, hmethod]
  exact restyled_method

end Program

end StructuralGrading
