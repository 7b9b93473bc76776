import Mathlib.Data.List.Forall2
import StructuralGrading.Proofs.Flow.View

/-! # Programs that look alike

Little of a parse tree matters for the flow graph: of a node its kind, its field, whether it is
named and its line, and the text of the names of functions.  Trees that agree on what a view
shows of this have graphs that agree on what the view shows of them.

* `Node.Alike`, `Summary.Alike`, `Tree.Alike`: agreement of nodes, of summaries and of trees;
* `Summary.alike_ofNode`: alike children give alike summaries;
* `Program.graph_flow_of_alike`: alike trees give graphs that look the same.

The summaries of two nodes may be alike although the outlines of their named children differ.
That outline is only asked for in the places that `Node.isSuite` lists. -/

namespace StructuralGrading

/-- A named node without faults, at the start of its line. -/
def Node.phrase (kind : String) (field : Option String) (row startByte endByte : Nat) : Node :=
  ⟨kind, field, true, false, false, false, row, 0, startByte, endByte⟩

/-- Whether the node fills a place where what is inside it is outlined and not the node itself. -/
def Node.isSuite (n : Node) : Bool := n.fills "consequence" || n.fills "body"

/-! ### The outline of a node, by its role -/

namespace Summary

variable {text : Node → String} {n : Node} {parts : List Summary}

theorem whole_ofNode_function (h : n.role = .function) :
    (ofNode text n parts).whole =
      [.function (((child? "name" parts).map fun s => text s.node).getD "") n.line
        ((parts.filter (·.node.named)).flatMap (·.whole))] := by
  unfold ofNode
  rw [h]

theorem whole_ofNode_conditional (h : n.role = .conditional) :
    (ofNode text n parts).whole =
      [(Clause.ofNode n parts).chain (parts.filter (·.node.fills "alternative"))] := by
  unfold ofNode
  rw [h]

theorem whole_ofNode_loop {style : LoopStyle} (h : n.role = .loop style) :
    (ofNode text n parts).whole =
      [.loop style n.line (((child? "body" parts).map (·.inner)).getD [])] := by
  unfold ofNode
  rw [h]

theorem whole_ofNode_plain (h : n.role = .plain) :
    (ofNode text n parts).whole = (parts.filter (·.node.named)).flatMap (·.whole) := by
  unfold ofNode
  rw [h]

end Summary

/-! ### Agreement -/

section Alike

variable (v : View) (text text' : Node → String)

/-- Two nodes that a view does not tell apart. -/
structure Node.Alike (n m : Node) : Prop where
  kind : n.kind = m.kind
  field : n.field = m.field
  named : n.named = m.named
  line : v.line n.line = v.line m.line
  name : n.fills "name" = true → v.name (text n) = v.name (text' m)

structure Clause.Alike (c d : Clause) : Prop where
  line : v.line c.line = v.line d.line
  test : v.outline c.test = v.outline d.test
  thenLine : v.line c.thenLine = v.line d.thenLine
  thenBody : v.outline c.thenBody = v.outline d.thenBody

/-- Two summaries that a view does not tell apart in any place that their nodes may fill. -/
structure Summary.Alike (s u : Summary) : Prop where
  node : s.node.Alike v text text' u.node
  clause : s.clause.Alike v u.clause
  body : v.outline s.body = v.outline u.body
  inner : s.node.isSuite = true → v.outline s.inner = v.outline u.inner
  whole : v.outline s.whole = v.outline u.whole

/-- Two trees that a view does not tell apart. -/
inductive Tree.Alike : Tree → Tree → Prop
  | node {n m : Node} {ts us : List Tree} : n.Alike v text text' m →
      List.Forall₂ Tree.Alike ts us → Tree.Alike (.node n ts) (.node m us)

end Alike

variable {v : View} {text text' : Node → String}

/-! ### Nodes -/

namespace Node

variable {n m : Node}

theorem Alike.refl (n : Node) : n.Alike v text text n := ⟨rfl, rfl, rfl, rfl, fun _ => rfl⟩

theorem Alike.fills (h : n.Alike v text text' m) (field : String) :
    n.fills field = m.fills field := by
  rw [Node.fills, Node.fills, h.field]

theorem Alike.role (h : n.Alike v text text' m) : n.role = m.role := by
  rw [Node.role, Node.role, h.kind]

theorem Alike.isElif (h : n.Alike v text text' m) : n.isElif = m.isElif := by
  rw [Node.isElif, Node.isElif, h.kind]

theorem isSuite_of_fills_consequence (h : n.fills "consequence" = true) : n.isSuite = true := by
  rw [isSuite, h, Bool.true_or]

theorem isSuite_of_fills_body (h : n.fills "body" = true) : n.isSuite = true := by
  rw [isSuite, h, Bool.or_true]

end Node

/-! ### Summaries of children -/

theorem Clause.Alike.refl (c : Clause) : c.Alike v c := ⟨rfl, rfl, rfl, rfl⟩

namespace Summary

variable {ps qs : List Summary}

theorem Alike.refl (s : Summary) : s.Alike v text text s :=
  ⟨.refl s.node, .refl s.clause, rfl, fun _ => rfl, rfl⟩

theorem forall₂_refl (text : Node → String) (ps : List Summary) :
    List.Forall₂ (Summary.Alike v text text) ps ps :=
  List.forall₂_same.mpr fun s _ => .refl s

theorem fills_of_child? {field : String} {s : Summary} (h : child? field ps = some s) :
    s.node.fills field = true :=
  List.find?_some (p := fun t : Summary => t.node.fills field) h

theorem child?_alike (field : String) (h : List.Forall₂ (Summary.Alike v text text') ps qs) :
    (child? field ps = none ∧ child? field qs = none) ∨
      ∃ s u, child? field ps = some s ∧ child? field qs = some u ∧ s.Alike v text text' u := by
  induction h with
  | nil => exact .inl ⟨rfl, rfl⟩
  | @cons s u ps qs hsu _ ih =>
      have hfills := hsu.node.fills field
      unfold child? at ih ⊢
      rw [List.find?_cons, List.find?_cons, ← hfills]
      cases s.node.fills field with
      | true => exact .inr ⟨s, u, rfl, rfl, hsu⟩
      | false => exact ih

/-- What is read off the first child that fills a field looks the same if it does for alike
children that fill it, and if what stands for a missing child does. -/
theorem getD_child?_alike {β γ : Type} (see : β → γ) {field : String} {f g : Summary → β} {d e : β}
    (h : List.Forall₂ (Summary.Alike v text text') ps qs) (hnone : see d = see e)
    (hsome : ∀ s u : Summary, s.Alike v text text' u → s.node.fills field = true →
      see (f s) = see (g u)) :
    see (((child? field ps).map f).getD d) = see (((child? field qs).map g).getD e) := by
  obtain ⟨hps, hqs⟩ | ⟨s, u, hps, hqs, hsu⟩ := child?_alike field h
  · rw [hps, hqs]
    exact hnone
  · rw [hps, hqs]
    exact hsome s u hsu (fills_of_child? hps)

theorem filter_alike {select : Node → Bool}
    (hselect : ∀ {n m : Node}, n.Alike v text text' m → select n = select m)
    (h : List.Forall₂ (Summary.Alike v text text') ps qs) :
    List.Forall₂ (Summary.Alike v text text') (ps.filter (select ·.node))
      (qs.filter (select ·.node)) := by
  apply List.rel_filter _ h
  intro s u hsu
  show select s.node = true ↔ select u.node = true
  rw [hselect hsu.node]

theorem flatMap_whole_alike (h : List.Forall₂ (Summary.Alike v text text') ps qs) :
    v.outline (ps.flatMap (·.whole)) = v.outline (qs.flatMap (·.whole)) := by
  induction h with
  | nil => rfl
  | cons hsu _ ih =>
      rw [List.flatMap_cons, List.flatMap_cons, v.outline_append, v.outline_append, hsu.whole, ih]

end Summary

namespace Clause

variable {ps qs : List Summary}

theorem chain_alike {c d : Clause} (h : c.Alike v d)
    (hp : List.Forall₂ (Summary.Alike v text text') ps qs) :
    v.construct (c.chain ps) = v.construct (d.chain qs) := by
  induction hp generalizing c d with
  | nil =>
      rw [chain, chain, View.construct, View.construct, h.line, h.test, h.thenLine, h.thenBody]
  | @cons s u ps qs hsu _ ih =>
      have helse : v.outline (if s.node.isElif then [s.clause.chain ps] else s.body) =
          v.outline (if u.node.isElif then [u.clause.chain qs] else u.body) := by
        rw [hsu.node.isElif]
        split
        · rw [v.outline_singleton, v.outline_singleton, ih hsu.clause]
        · exact hsu.body
      rw [chain, chain, View.construct, View.construct, h.line, h.test, h.thenLine, h.thenBody,
        hsu.node.line, helse]

theorem alike_ofNode {n m : Node} (hline : v.line n.line = v.line m.line)
    (hp : List.Forall₂ (Summary.Alike v text text') ps qs) :
    (ofNode n ps).Alike v (ofNode m qs) where
  line := hline
  test := Summary.getD_child?_alike v.outline hp rfl fun _ _ h _ => h.whole
  thenLine := Summary.getD_child?_alike v.line hp hline fun _ _ h _ => h.node.line
  thenBody := Summary.getD_child?_alike v.outline hp rfl fun _ _ h hfills =>
    h.inner (Node.isSuite_of_fills_consequence hfills)

end Clause

theorem Summary.alike_ofNode {n m : Node} {ps qs : List Summary} (hn : n.Alike v text text' m)
    (hp : List.Forall₂ (Summary.Alike v text text') ps qs) :
    (ofNode text n ps).Alike v text text' (ofNode text' m qs) := by
  have hclause := Clause.alike_ofNode hn.line hp
  have hbody : v.outline (((child? "body" ps).map (·.inner)).getD []) =
      v.outline (((child? "body" qs).map (·.inner)).getD []) :=
    getD_child?_alike v.outline hp rfl fun _ _ h hfills =>
      h.inner (Node.isSuite_of_fills_body hfills)
  have hinner := flatMap_whole_alike (filter_alike Node.Alike.named hp)
  refine ⟨hn, hclause, hbody, fun _ => hinner, ?_⟩
  have hrole := hn.role
  cases hm : m.role with
  | function =>
      have hname : v.name (((child? "name" ps).map fun s => text s.node).getD "") =
          v.name (((child? "name" qs).map fun u => text' u.node).getD "") :=
        getD_child?_alike v.name hp rfl fun _ _ h hfills => h.node.name hfills
      rw [hm] at hrole
      rw [whole_ofNode_function hrole, whole_ofNode_function hm, v.outline_singleton,
        v.outline_singleton, View.construct, View.construct, hn.line, hname, hinner]
  | conditional =>
      have hchain := Clause.chain_alike hclause (filter_alike (fun h => h.fills "alternative") hp)
      rw [hm] at hrole
      rw [whole_ofNode_conditional hrole, whole_ofNode_conditional hm, v.outline_singleton,
        v.outline_singleton, hchain]
  | loop style =>
      rw [hm] at hrole
      rw [whole_ofNode_loop hrole, whole_ofNode_loop hm, v.outline_singleton,
        v.outline_singleton, View.construct, View.construct, hn.line, hbody]
  | plain =>
      rw [hm] at hrole
      rw [whole_ofNode_plain hrole, whole_ofNode_plain hm, hinner]

/-! ### Trees -/

theorem Tree.fold_eq {α : Type} (f : Node → List α → α) (t : Tree) :
    t.fold f = f t.info (t.children.map (fold f)) := by
  obtain ⟨n, ts⟩ := t
  exact fold_node f n ts

theorem Tree.node_fold (text : Node → String) (t : Tree) :
    (t.fold (Summary.ofNode text)).node = t.info := by
  obtain ⟨n, ts⟩ := t
  rw [fold_node]
  rfl

mutual

theorem Tree.fold_alike : ∀ t u : Tree, t.Alike v text text' u →
    (t.fold (Summary.ofNode text)).Alike v text text' (u.fold (Summary.ofNode text'))
  | .node n ts, .node m us, .node hn hts => by
      rw [fold_node, fold_node]
      exact Summary.alike_ofNode hn (Tree.map_fold_alike ts us hts)

theorem Tree.map_fold_alike : ∀ ts us : List Tree, List.Forall₂ (Tree.Alike v text text') ts us →
    List.Forall₂ (Summary.Alike v text text') (ts.map (Tree.fold (Summary.ofNode text)))
      (us.map (Tree.fold (Summary.ofNode text')))
  | [], [], .nil => .nil
  | t :: ts, u :: us, .cons htu h =>
      .cons (Tree.fold_alike t u htu) (Tree.map_fold_alike ts us h)

end

/-! ### Deciding whether trees are alike -/

theorem Node.alike_iff {n m : Node} : n.Alike v text text' m ↔
    n.kind = m.kind ∧ n.field = m.field ∧ n.named = m.named ∧ v.line n.line = v.line m.line ∧
      (n.fills "name" = true → v.name (text n) = v.name (text' m)) := by
  constructor
  · rintro ⟨hkind, hfield, hnamed, hline, hname⟩
    exact ⟨hkind, hfield, hnamed, hline, hname⟩
  · rintro ⟨hkind, hfield, hnamed, hline, hname⟩
    exact ⟨hkind, hfield, hnamed, hline, hname⟩

instance Node.decidableAlike (n m : Node) : Decidable (n.Alike v text text' m) :=
  decidable_of_iff _ Node.alike_iff.symm

theorem Tree.alike_node_iff {n m : Node} {ts us : List Tree} :
    (Tree.node n ts).Alike v text text' (.node m us) ↔
      n.Alike v text text' m ∧ List.Forall₂ (Tree.Alike v text text') ts us := by
  constructor
  · rintro ⟨hn, hts⟩
    exact ⟨hn, hts⟩
  · rintro ⟨hn, hts⟩
    exact .node hn hts

mutual

def Tree.decideAlike : ∀ t u : Tree, Decidable (t.Alike v text text' u)
  | .node n ts, .node m us =>
    match Node.decidableAlike n m, Tree.decideAlikeAll ts us with
    | .isTrue hn, .isTrue hts => .isTrue (.node hn hts)
    | .isFalse hn, _ => .isFalse fun h => hn (Tree.alike_node_iff.mp h).1
    | _, .isFalse hts => .isFalse fun h => hts (Tree.alike_node_iff.mp h).2

def Tree.decideAlikeAll : ∀ ts us : List Tree,
    Decidable (List.Forall₂ (Tree.Alike v text text') ts us)
  | [], [] => .isTrue .nil
  | [], _ :: _ => .isFalse nofun
  | _ :: _, [] => .isFalse nofun
  | t :: ts, u :: us =>
    match Tree.decideAlike t u, Tree.decideAlikeAll ts us with
    | .isTrue htu, .isTrue h => .isTrue (.cons htu h)
    | .isFalse htu, _ => .isFalse fun h => htu (List.forall₂_cons.mp h).1
    | _, .isFalse h => .isFalse fun h' => h (List.forall₂_cons.mp h').2

end

instance (t u : Tree) : Decidable (t.Alike v text text' u) := Tree.decideAlike t u

instance (ts us : List Tree) : Decidable (List.Forall₂ (Tree.Alike v text text') ts us) :=
  Tree.decideAlikeAll ts us

/-! ### Graphs of alike trees -/

namespace Program

variable {p q : Program}

theorem graph_flow_of_summary (h : (p.summary p.tree).Alike v p.text q.text (q.summary q.tree)) :
    v.graph p.flow = v.graph q.flow := v.graph_eq_of_outline_eq h.whole

theorem graph_flow_of_alike (h : p.tree.Alike v p.text q.text q.tree) :
    v.graph p.flow = v.graph q.flow :=
  graph_flow_of_summary (Tree.fold_alike p.tree q.tree h)

end Program

end StructuralGrading
