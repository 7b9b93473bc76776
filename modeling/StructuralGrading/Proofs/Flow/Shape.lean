import Mathlib.Data.List.Nodup
import Mathlib.Logic.Relation
import StructuralGrading.Proofs.Flow.Arrivals

/-! # The shape of flow graphs

The flow graph of a program is a tree that grows in the order of the blocks, with an edge to
itself added to every loop.

* `FlowGraph.WellShaped`: what that means block by block and edge by edge;
* `wellShaped_ofOutline`: the graph of every outline is well shaped;
* `Program.flow_shape`: so is that of every program, whatever its parse tree.  All its blocks are
  reached from the first, it has no cycles but the loops, and its edges can be counted. -/

namespace StructuralGrading

/-- One step of control. -/
def FlowGraph.Step (g : FlowGraph) (u v : Nat) : Prop := (u, v) ∈ g.edges

/-- A tree in the order of the blocks, with an edge to itself for every loop. -/
structure FlowGraph.WellShaped (g : FlowGraph) : Prop where
  /-- A block has its place for a number. -/
  id_eq : ∀ (v : Nat) (b : Block), g.blocks[v]? = some b → b.id = v
  no_statement : ∀ b ∈ g.blocks, ∀ kind, b.label ≠ .statement kind
  nodup_edges : g.edges.Nodup
  /-- Control never passes backwards. -/
  step_le : ∀ u v, g.Step u v → u ≤ v ∧ v < g.size
  step_self_iff : ∀ v, g.Step v v ↔ ∃ label, g.labels[v]? = some label ∧ label.isLoop = true
  first_label : ∀ label, g.labels[0]? = some label → label.isBranch = false
  /-- Every block but the first has one parent. -/
  parent : ∀ v, 0 < v → v < g.size → ∃! u, u ≠ v ∧ g.Step u v
  /-- The parent of a function, loop or condition is the block before it. -/
  parent_of_head : ∀ u v label, g.labels[v]? = some label → label.isBranch = false →
    u ≠ v → g.Step u v → u + 1 = v
  /-- The parent of a branch is a condition before it. -/
  parent_of_branch : ∀ u v label, g.labels[v]? = some label → label.isBranch = true →
    g.Step u v → u < v ∧ g.labels[u]? = some .ifCondition
  true_branch : ∀ u, g.labels[u]? = some .ifCondition →
    ∃! v, g.Step u v ∧ g.labels[v]? = some .trueBranch
  false_branch : ∀ u v w, g.Step u v → g.labels[v]? = some .falseBranch →
    g.Step u w → g.labels[w]? = some .falseBranch → v = w
  true_lt_false : ∀ u v w, g.Step u v → g.labels[v]? = some .trueBranch →
    g.Step u w → g.labels[w]? = some .falseBranch → v < w

/-! ### From derivations to shapes -/

namespace Laid

variable {L : List BlockLabel} {n m : Nat} {es : List (Nat × Nat)}

theorem nodup (h : Laid L n m es) : es.Nodup :=
  nodup_of_views h.nodup_arrivals (h.returns_perm.nodup_iff.mpr ((List.Ico.nodup n m).filter _))

theorem parent (h : Laid L n m es) {v : Nat} (hpos : 0 < v) (hn : n ≤ v) (hm : v < m) :
    ∃! u, u ≠ v ∧ (u, v) ∈ es := by
  have hmem : v ∈ arrivals es := by
    rw [h.arrivals_eq]
    exact List.mem_filter.mpr ⟨List.Ico.mem.mpr ⟨hn, hm⟩, by simpa using hpos⟩
  obtain ⟨u, hne, he⟩ := mem_arrivals.mp hmem
  refine ⟨u, ⟨hne, he⟩, ?_⟩
  rintro w ⟨hw, hwe⟩
  have := List.inj_on_of_nodup_map h.nodup_arrivals (List.mem_filter.mpr ⟨hwe, by simpa using hw⟩)
    (List.mem_filter.mpr ⟨he, by simpa using hne⟩) rfl
  exact congrArg Prod.fst this

theorem self_iff (h : Laid L n m es) {v : Nat} :
    (v, v) ∈ es ↔ n ≤ v ∧ v < m ∧ ∃ label, L[v]? = some label ∧ label.isLoop = true := by
  rw [← mem_returns, h.returns_perm.mem_iff, loops, List.mem_filter, List.Ico.mem,
    Option.any_eq_true, and_assoc]

theorem parent_of_head (h : Laid L n m es) {u v : Nat} {label : BlockLabel}
    (hv : L[v]? = some label) (hl : label.isBranch = false) (hne : u ≠ v) (he : (u, v) ∈ es) :
    u + 1 = v := by
  cases h.passage _ he with
  | next => rfl
  | branch _ hv' hl' =>
      obtain rfl := Option.some.inj (hv.symm.trans hv')
      rw [hl] at hl'
      cases hl'
  | again => exact absurd rfl hne

theorem parent_of_branch (h : Laid L n m es) {u v : Nat} {label : BlockLabel}
    (hv : L[v]? = some label) (hl : label.isBranch = true) (he : (u, v) ∈ es) :
    u < v ∧ L[u]? = some .ifCondition := by
  cases h.passage _ he with
  | next hv' hl' =>
      obtain rfl := Option.some.inj (hv.symm.trans hv')
      rw [hl] at hl'
      cases hl'
  | branch hu _ _ _ huv => exact ⟨huv, hu⟩
  | again hv' hl' =>
      obtain rfl := Option.some.inj (hv.symm.trans hv')
      rw [BlockLabel.isBranch_of_isLoop hl'] at hl
      cases hl

end Laid

namespace Fork

variable {L : List BlockLabel} {vs : List Nat}

theorem true_branch (h : Fork L vs) : ∃! v, v ∈ vs ∧ L[v]? = some .trueBranch := by
  cases h with
  | @one v hv =>
      refine ⟨v, ⟨List.mem_singleton_self v, hv⟩, ?_⟩
      rintro w ⟨hw, -⟩
      exact List.mem_singleton.mp hw
  | @two v w hv hw _ =>
      refine ⟨v, ⟨List.mem_cons_self, hv⟩, ?_⟩
      rintro x ⟨hx, hxl⟩
      simp only [List.mem_cons, List.not_mem_nil, or_false] at hx
      rcases hx with rfl | rfl
      · rfl
      · rw [hw] at hxl
        cases hxl

theorem false_branch (h : Fork L vs) {x : Nat} (hx : x ∈ vs) (hxl : L[x]? = some .falseBranch) :
    ∃ v, vs = [v, x] ∧ L[v]? = some .trueBranch ∧ v < x := by
  cases h with
  | @one v hv =>
      obtain rfl := List.mem_singleton.mp hx
      rw [hv] at hxl
      cases hxl
  | @two v w hv hw hlt =>
      simp only [List.mem_cons, List.not_mem_nil, or_false] at hx
      rcases hx with rfl | rfl
      · rw [hv] at hxl
        cases hxl
      · exact ⟨v, rfl, hv, hlt⟩

end Fork

namespace FlowGraph

theorem mem_arms_of_step {g : FlowGraph} {u v : Nat} {label : BlockLabel} (h : g.Step u v)
    (hv : g.labels[v]? = some label) (hl : label.isBranch = true) : v ∈ arms g.labels u g.edges :=
  mem_arms.mpr ⟨h, by simp [hv, hl]⟩

theorem id_eq_ofOutline (cs : List Construct) (v : Nat) (b : Block)
    (h : (ofOutline cs).blocks[v]? = some b) : b.id = v := by
  rw [ofOutline_eq] at h
  simp only [Block.ofCells, List.getElem?_mapIdx, Option.map_eq_some_iff] at h
  obtain ⟨c, _, rfl⟩ := h
  exact Nat.zero_add v

theorem wellShaped_ofOutline (cs : List Construct) : (ofOutline cs).WellShaped := by
  have h := laid_ofOutline cs
  have hlt : ∀ {v : Nat} {label : BlockLabel}, (ofOutline cs).labels[v]? = some label →
      v < (ofOutline cs).size := by
    intro v label hv
    rw [← length_labels]
    exact (List.getElem?_eq_some_iff.mp hv).1
  have hfork : ∀ {u v : Nat} {label : BlockLabel}, (ofOutline cs).Step u v →
      (ofOutline cs).labels[v]? = some label → label.isBranch = true →
      Fork (ofOutline cs).labels (arms (ofOutline cs).labels u (ofOutline cs).edges) := by
    intro u v label hstep hv hl
    have hu := (h.parent_of_branch hv hl hstep).2
    exact h.fork_arms hu (Nat.zero_le u) (hlt hu)
  constructor
  case id_eq => exact id_eq_ofOutline cs
  case no_statement =>
    intro b hb kind hlabel
    obtain ⟨v, hv, rfl⟩ := List.mem_iff_getElem.mp hb
    refine h.label_ne_statement (Nat.zero_le v) hv kind ?_
    rw [labels, List.getElem?_map, List.getElem?_eq_getElem hv, Option.map_some, hlabel]
  case nodup_edges => exact h.nodup
  case step_le =>
    intro u v hstep
    exact ⟨(h.passage _ hstep).le, (h.target_mem hstep).2⟩
  case step_self_iff =>
    intro v
    rw [Step, h.self_iff]
    constructor
    · rintro ⟨-, -, hloop⟩
      exact hloop
    · rintro ⟨label, hv, hl⟩
      exact ⟨Nat.zero_le v, hlt hv, label, hv, hl⟩
  case first_label =>
    intro label hlabel
    obtain ⟨first, hfirst, hl⟩ := h.first_label (hlt hlabel)
    obtain rfl := Option.some.inj (hlabel.symm.trans hfirst)
    exact hl
  case parent =>
    intro v hpos hv
    exact h.parent hpos (Nat.zero_le v) hv
  case parent_of_head =>
    intro u v label hv hl hne hstep
    exact h.parent_of_head hv hl hne hstep
  case parent_of_branch =>
    intro u v label hv hl hstep
    exact h.parent_of_branch hv hl hstep
  case true_branch =>
    intro u hu
    obtain ⟨v, ⟨hmem, hv⟩, hunique⟩ := (h.fork_arms hu (Nat.zero_le u) (hlt hu)).true_branch
    refine ⟨v, ⟨(mem_arms.mp hmem).1, hv⟩, ?_⟩
    rintro w ⟨hstep, hw⟩
    exact hunique w ⟨mem_arms_of_step hstep hw rfl, hw⟩
  case false_branch =>
    intro u v w hv hvl hw hwl
    obtain ⟨x, hx, -⟩ := (hfork hv hvl rfl).false_branch (mem_arms_of_step hv hvl rfl) hvl
    obtain ⟨y, hy, -⟩ := (hfork hv hvl rfl).false_branch (mem_arms_of_step hw hwl rfl) hwl
    rw [hx] at hy
    simp only [List.cons.injEq, and_true] at hy
    exact hy.2
  case true_lt_false =>
    intro u v w hv hvl hw hwl
    have hfalse := hfork hw hwl rfl
    obtain ⟨x, hx, hxl, hlt'⟩ := hfalse.false_branch (mem_arms_of_step hw hwl rfl) hwl
    have hmem := mem_arms_of_step hv hvl rfl
    rw [hx] at hmem
    simp only [List.mem_cons, List.not_mem_nil, or_false] at hmem
    rcases hmem with rfl | rfl
    · exact hlt'
    · rw [hvl] at hwl
      cases hwl

/-! ### Consequences of the shape -/

variable {g : FlowGraph}

/-- Every block is reached from the first: its parent comes before it. -/
theorem WellShaped.reachable (h : g.WellShaped) :
    ∀ v, v < g.size → Relation.ReflTransGen g.Step 0 v := by
  intro v
  induction v using Nat.strong_induction_on with
  | _ v ih =>
      intro hv
      rcases Nat.eq_zero_or_pos v with rfl | hpos
      · exact .refl
      · obtain ⟨u, ⟨hne, hstep⟩, -⟩ := h.parent v hpos hv
        have hlt : u < v := Nat.lt_of_le_of_ne (h.step_le u v hstep).1 hne
        exact (ih u hlt (by omega)).tail hstep

theorem WellShaped.le_of_path (h : g.WellShaped) {u v : Nat}
    (hpath : Relation.ReflTransGen g.Step u v) : u ≤ v := by
  induction hpath with
  | refl => exact Nat.le_refl u
  | tail _ hstep ih => exact Nat.le_trans ih (h.step_le _ _ hstep).1

/-- A way back to a block never left it, and the block is a loop. -/
theorem WellShaped.loop_of_cycle (h : g.WellShaped) {u v : Nat}
    (hout : Relation.TransGen g.Step u v) (hback : Relation.ReflTransGen g.Step v u) :
    v = u ∧ ∃ label, g.labels[u]? = some label ∧ label.isLoop = true := by
  obtain ⟨w, hstep, hrest⟩ := Relation.TransGen.head'_iff.mp hout
  have huw := (h.step_le u w hstep).1
  have hwv := h.le_of_path hrest
  have hvu := h.le_of_path hback
  obtain rfl : w = u := by omega
  exact ⟨by omega, (h.step_self_iff w).mp hstep⟩

theorem edgeCount_ofOutline (cs : List Construct) :
    (ofOutline cs).edgeCount =
      (ofOutline cs).size - 1 + (ofOutline cs).labels.countP BlockLabel.isLoop := by
  have h := laid_ofOutline cs
  have hret : (returns (ofOutline cs).edges).length =
      (ofOutline cs).labels.countP BlockLabel.isLoop := by
    rw [h.returns_perm.length_eq, ← length_labels, Laid.length_loops]
  rw [edgeCount, ← length_arrivals_add_returns, h.length_arrivals, hret]

end FlowGraph

theorem Program.wellShaped_flow (p : Program) : p.flow.WellShaped :=
  FlowGraph.wellShaped_ofOutline p.outline

/-- **The shape of every flow graph.**  Its blocks are all reached from the first one, control
comes back to a block only where that block is a loop and nothing else lies between, and it has
an edge for every block but the first and one for every loop. -/
theorem Program.flow_shape (p : Program) :
    p.flow.WellShaped ∧
    (∀ v, v < p.flow.size → Relation.ReflTransGen p.flow.Step 0 v) ∧
    (∀ u v, Relation.TransGen p.flow.Step u v → Relation.ReflTransGen p.flow.Step v u →
      v = u ∧ ∃ label, p.flow.labels[u]? = some label ∧ label.isLoop = true) ∧
    (0 < p.flow.size →
      p.flow.edgeCount = p.flow.size - 1 + p.flow.labels.countP BlockLabel.isLoop) := by
  have h := p.wellShaped_flow
  refine ⟨h, h.reachable, ?_, ?_⟩
  · intro u v hout hback
    exact h.loop_of_cycle hout hback
  · intro _
    exact FlowGraph.edgeCount_ofOutline p.outline

end StructuralGrading
