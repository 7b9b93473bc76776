import StructuralGrading.Proofs.Program.Chain
import StructuralGrading.Proofs.Program.Surface

/-! # Trees as the grammar shapes them

The grammar of the graded language settles which children a conditional and a loop have, and
where among them other constructs may stand.

* `Tree.sites`: the places in a tree, a parent before its children, each with the nodes above it;
* `Node.Admits`: what the grammar says of the children of a node;
* `Tree.Grammatical`: all nodes of a tree have such children (`grammatical_node`).

What the grammar says of `elif` and `else` clauses it says of the alternatives of a conditional
(`Tree.AreAlternatives`).  A node of one of these kinds that stands elsewhere is like any other. -/

namespace StructuralGrading

/-! ### Places -/

/-- A part of a tree, with the nodes above it.  The nearest one comes first. -/
structure Site where
  above : List Node
  part : Tree
  deriving Repr

namespace Site

/-- The node at a place. -/
def node (s : Site) : Node := s.part.info

end Site

namespace Tree

/-- What a tree has as soon as its children have it, all trees have. -/
@[elab_as_elim]
theorem induct {motive : Tree → Prop}
    (node : ∀ (n : Node) (ts : List Tree), (∀ t ∈ ts, motive t) → motive (.node n ts)) :
    ∀ t : Tree, motive t
  | .node n ts => node n ts fun t _ => induct node t

mutual

/-- The places in a tree that has the given nodes above it. -/
def sitesUnder (above : List Node) : Tree → List Site
  | .node n ts => ⟨above, .node n ts⟩ :: sitesAll (n :: above) ts

/-- The places in trees that have the given nodes above them. -/
def sitesAll (above : List Node) : List Tree → List Site
  | [] => []
  | t :: ts => t.sitesUnder above ++ sitesAll above ts

end

/-- The places in a tree: the root, then the places in each child in order. -/
def sites (t : Tree) : List Site := t.sitesUnder []

theorem sitesAll_eq (above : List Node) (ts : List Tree) :
    sitesAll above ts = ts.flatMap (sitesUnder above) := by
  induction ts with
  | nil => rfl
  | cons t ts ih => rw [sitesAll, ih, List.flatMap_cons]

theorem sitesUnder_node (above : List Node) (n : Node) (ts : List Tree) :
    (Tree.node n ts).sitesUnder above =
      ⟨above, .node n ts⟩ :: ts.flatMap (sitesUnder (n :: above)) := by
  rw [sitesUnder, sitesAll_eq]

theorem map_node_sitesUnder (t : Tree) (above : List Node) :
    (t.sitesUnder above).map Site.node = t.nodes := by
  induction t using Tree.induct generalizing above with
  | node n ts ih =>
      rw [sitesUnder_node, List.map_cons, List.map_flatMap, nodes_node, ← List.flatMap_def]
      exact congrArg _ (List.flatMap_congr fun t ht => ih t ht (n :: above))

/-- What is above a tree makes no difference to its parts. -/
theorem map_part_sitesUnder (t : Tree) (above other : List Node) :
    (t.sitesUnder above).map Site.part = (t.sitesUnder other).map Site.part := by
  induction t using Tree.induct generalizing above other with
  | node n ts ih =>
      rw [sitesUnder_node, sitesUnder_node, List.map_cons, List.map_cons, List.map_flatMap,
        List.map_flatMap]
      exact congrArg _ (List.flatMap_congr fun t ht => ih t ht (n :: above) (n :: other))

/-- All parts of a tree are the tree itself and all parts of its children. -/
theorem forall_sites_node {P : Tree → Prop} {n : Node} {ts : List Tree} :
    (∀ s ∈ (Tree.node n ts).sites, P s.part) ↔
      P (.node n ts) ∧ ∀ t ∈ ts, ∀ s ∈ t.sites, P s.part := by
  have hpart : ∀ t : Tree, (∀ s ∈ t.sitesUnder [n], P s.part) ↔ ∀ s ∈ t.sites, P s.part := by
    intro t
    have hmap := map_part_sitesUnder t [n] []
    have hparts : (∀ u ∈ (t.sitesUnder [n]).map Site.part, P u) ↔
        ∀ u ∈ t.sites.map Site.part, P u := by rw [hmap, sites]
    rw [List.forall_mem_map, List.forall_mem_map] at hparts
    exact hparts
  rw [sites, sitesUnder_node, List.forall_mem_cons]
  simp only [List.mem_flatMap]
  constructor
  · rintro ⟨hn, hts⟩
    exact ⟨hn, fun t ht => (hpart t).mp fun s hs => hts s ⟨t, ht, hs⟩⟩
  · rintro ⟨hn, hts⟩
    refine ⟨hn, ?_⟩
    rintro s ⟨t, ht, hs⟩
    exact (hpart t).mpr (hts t ht) s hs

/-! ### Children by their fields -/

/-- The trees that fill one of the given fields. -/
def filling (fields : List String) (ts : List Tree) : List Tree :=
  ts.filter fun t => fields.any t.info.fills

theorem flatMap_filling {α : Type} {f : Tree → List α} {fields : List String} {ts : List Tree}
    (h : ∀ t ∈ ts, fields.any t.info.fills = false → f t = []) :
    (filling fields ts).flatMap f = ts.flatMap f := by
  induction ts with
  | nil => rfl
  | cons t ts ih =>
      have hts := ih fun u hu => h u (List.mem_cons_of_mem t hu)
      rw [filling] at hts
      rw [filling, List.filter_cons, List.flatMap_cons]
      cases hfills : fields.any t.info.fills with
      | true => rw [if_pos rfl, List.flatMap_cons, hts]
      | false =>
          rw [if_neg Bool.false_ne_true, hts, h t List.mem_cons_self hfills, List.nil_append]

theorem child?_filling {field : String} {fields : List String} (h : field ∈ fields)
    (ts : List Tree) : child? field (filling fields ts) = child? field ts := by
  rw [child?, filling, List.find?_filter, child?]
  congr 1
  funext t
  cases hfills : t.info.fills field with
  | false => simp
  | true => simpa using ⟨field, h, hfills⟩

theorem child?_cons_of_pos {field : String} {t : Tree} (h : t.info.fills field = true)
    (ts : List Tree) : child? field (t :: ts) = some t :=
  List.find?_cons_of_pos (p := fun u : Tree => u.info.fills field) h

theorem child?_cons_of_neg {field : String} {t : Tree} (h : t.info.fills field = false)
    (ts : List Tree) : child? field (t :: ts) = child? field ts :=
  List.find?_cons_of_neg (p := fun u : Tree => u.info.fills field)
    (by rw [h]; exact Bool.false_ne_true)

theorem fills_of_mem_filling {field : String} {ts : List Tree} {t : Tree}
    (h : t ∈ filling [field] ts) : t.info.fills field = true := by
  simpa [filling] using (List.mem_filter.mp h).2

/-! ### Shapes of children -/

/-- All constructs are at or below trees that fill one of the given fields. -/
def Confined (fields : List String) (ts : List Tree) : Prop :=
  ∀ t ∈ ts, fields.any t.info.fills = false → t.IsInert

/-- The trees are a test and a block for it, and then what `rest` asks for. -/
def IsHeaded (rest : List Tree → Prop) : List Tree → Prop
  | test :: block :: ts =>
    test.info.fills "condition" = true ∧ block.info.fills "consequence" = true ∧
      block.info.kind = "block" ∧ rest ts
  | _ => False

/-- The children of a clause with a test. -/
def IsClause (ts : List Tree) : Prop :=
  IsHeaded (· = []) (filling ["condition", "consequence"] ts) ∧
    Confined ["condition", "consequence"] ts

/-- The children of a node with a block for its body.  Children for the fields `beside` are
not looked at. -/
def IsSuite (beside : List String) (ts : List Tree) : Prop :=
  (filling ["body"] ts).map (·.info.kind) = ["block"] ∧ Confined ("body" :: beside) ts

/-- Clauses with tests, and after them at most one `else` clause. -/
def AreAlternatives : List Tree → Prop
  | [] => True
  | t :: ts =>
    t.info.fills "alternative" = true ∧
      if t.info.isElif then IsClause t.children ∧ AreAlternatives ts
      else t.info.kind = "else_clause" ∧ IsSuite [] t.children ∧ ts = []

/-- The children of a conditional. -/
def IsConditional (ts : List Tree) : Prop :=
  IsHeaded AreAlternatives (filling ["condition", "consequence", "alternative"] ts) ∧
    Confined ["condition", "consequence", "alternative"] ts

end Tree

/-! ### What the grammar says -/

/-- Whether a role is that of a loop. -/
def Role.isLoop : Role → Bool
  | .loop _ => true
  | _ => false

/-- The grammar lets a node have the given children. -/
structure Node.Admits (n : Node) (ts : List Tree) : Prop where
  /-- Constructs and the nodes above them are named. -/
  unnamed : n.named = false → (Tree.node n ts).IsInert
  conditional : n.role = .conditional → Tree.IsConditional ts
  loop : n.role.isLoop = true → Tree.IsSuite ["alternative"] ts

/-- Every node has children that the grammar lets it have. -/
def Tree.Grammatical (t : Tree) : Prop := ∀ s ∈ t.sites, s.node.Admits s.part.children

/-! ### Deciding whether a tree is grammatical -/

namespace Tree

instance (fields : List String) (ts : List Tree) : Decidable (Confined fields ts) :=
  inferInstanceAs (Decidable (∀ t ∈ ts, _ → t.IsInert))

instance decidableIsHeaded (rest : List Tree → Prop) [DecidablePred rest] :
    DecidablePred (IsHeaded rest)
  | _ :: _ :: ts => inferInstanceAs (Decidable (_ ∧ _ ∧ _ ∧ rest ts))
  | [_] => .isFalse id
  | [] => .isFalse id

instance (ts : List Tree) : Decidable (IsClause ts) := inferInstanceAs (Decidable (_ ∧ _))

instance (beside : List String) (ts : List Tree) : Decidable (IsSuite beside ts) :=
  inferInstanceAs (Decidable (_ ∧ _))

instance decidableAreAlternatives : DecidablePred AreAlternatives
  | [] => .isTrue trivial
  | _ :: ts =>
    have := decidableAreAlternatives ts
    inferInstanceAs (Decidable (_ ∧ ite _ _ _))

instance (ts : List Tree) : Decidable (IsConditional ts) := inferInstanceAs (Decidable (_ ∧ _))

end Tree

theorem Node.admits_iff {n : Node} {ts : List Tree} : n.Admits ts ↔
    (n.named = false → (Tree.node n ts).IsInert) ∧
      (n.role = .conditional → Tree.IsConditional ts) ∧
      (n.role.isLoop = true → Tree.IsSuite ["alternative"] ts) := by
  constructor
  · rintro ⟨hunnamed, hconditional, hloop⟩
    exact ⟨hunnamed, hconditional, hloop⟩
  · rintro ⟨hunnamed, hconditional, hloop⟩
    exact ⟨hunnamed, hconditional, hloop⟩

instance (n : Node) (ts : List Tree) : Decidable (n.Admits ts) :=
  decidable_of_iff _ Node.admits_iff.symm

namespace Tree

instance (t : Tree) : Decidable t.Grammatical :=
  inferInstanceAs (Decidable (∀ s ∈ t.sites, s.node.Admits s.part.children))

/-! ### Grammatical trees -/

theorem grammatical_node {n : Node} {ts : List Tree} :
    (Tree.node n ts).Grammatical ↔ n.Admits ts ∧ ∀ t ∈ ts, t.Grammatical :=
  forall_sites_node (P := fun t => t.info.Admits t.children)

theorem Grammatical.isInert {t : Tree} (h : t.Grammatical) (hnamed : t.info.named = false) :
    t.IsInert := by
  obtain ⟨n, ts⟩ := t
  exact (grammatical_node.mp h).1.unnamed hnamed

end Tree

end StructuralGrading
