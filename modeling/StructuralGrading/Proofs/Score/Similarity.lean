import StructuralGrading.Proofs.Flow.Changes
import StructuralGrading.Proofs.Flow.Shape
import StructuralGrading.Proofs.Score.Exact

/-! # The scale of the similarity

The similarity of two graphs is a blend of two shares: of the reference's nodes that the student
matches, and of its relationships.  Over the rational numbers, with weights that make up one, it
lies between zero and one.  It is full if the reference has an edge and the student matches all of
it, whatever else the student has, and it grows with what the student has.

* `ConceptGraph.InRange`: every edge joins two nodes, as in the graphs of programs
  (`Program.inRange_conceptGraph`) and in those that come of changes (`inRange_ofChanges`);
* `Comparison.share`: the share of a list that another one matches; `share_eq_one_iff`,
  `share_eq_zero_iff` and `share_mono` hold for nodes and for relationships alike;
* `Comparison.similarity_scale`: all of this for the similarity. -/

namespace StructuralGrading

/-! ### Edges and relationships -/

namespace ConceptGraph

variable {g : ConceptGraph}

/-- Whether both ends of every edge are nodes. -/
def InRange (g : ConceptGraph) : Prop := ∀ e ∈ g.edges, e.1 < g.size ∧ e.2 < g.size

instance (g : ConceptGraph) : Decidable g.InRange :=
  inferInstanceAs (Decidable (∀ e ∈ g.edges, e.1 < g.size ∧ e.2 < g.size))

theorem length_concepts (g : ConceptGraph) : g.concepts.length = g.size := List.length_map _

theorem relationships_eq_nil_iff (h : g.InRange) : g.relationships = [] ↔ g.edges = [] := by
  constructor
  · intro hnil
    apply List.eq_nil_iff_forall_not_mem.mpr
    rintro ⟨u, v⟩ he
    -- An edge without a node at one of its ends would be no relationship.
    obtain ⟨hu, hv⟩ := h _ he
    rw [← g.length_concepts] at hu hv
    have hmem := mem_relationships.mpr
      ⟨u, v, he, List.getElem?_eq_getElem hu, List.getElem?_eq_getElem hv⟩
    rw [hnil] at hmem
    cases hmem
  · intro hnil
    rw [relationships, hnil]
    rfl

theorem placements_eq_nil_iff : g.placements = [] ↔ g.size = 0 := by
  rw [← List.length_eq_zero_iff, length_placements]

theorem size_pos_of_edges_ne_nil (h : g.InRange) (hedges : g.edges ≠ []) : 0 < g.size := by
  obtain ⟨e, he⟩ := List.exists_mem_of_ne_nil _ hedges
  have := h e he
  omega

end ConceptGraph

theorem FlowGraph.InRange.conceptGraph {g : FlowGraph} (h : g.InRange) :
    g.conceptGraph.InRange := by
  intro e he
  have := h e he
  simpa [ConceptGraph.size, FlowGraph.conceptGraph, FlowGraph.size] using this

theorem FlowGraph.inRange_ofChanges (cs : List Change) : (ofChanges cs).conceptGraph.InRange :=
  (records_ofChanges cs).inRange.conceptGraph

theorem Program.inRange_conceptGraph (p : Program) : p.conceptGraph.InRange := by
  have h : p.flow.InRange := by
    intro e he
    have := p.wellShaped_flow.step_le e.1 e.2 he
    omega
  exact h.conceptGraph

namespace Comparison

/-! ### Shares -/

section shares

variable {β : Type} [DecidableEq β] {xs more ys : List β}

/-- The share of a list that another one matches. -/
def share (xs ys : List β) : ℚ := Score.ratio (matchCount xs ys) ys.length

theorem matchCount_eq_length_iff (hxs : xs.Nodup) (hys : ys.Nodup) :
    matchCount xs ys = ys.length ↔ lacking ys xs = [] := by
  have hsplit := matchCount_add_length_lacking ys xs
  rw [matchCount_comm hxs hys, ← List.length_eq_zero_iff]
  omega

theorem matchCount_eq_zero_iff : matchCount xs ys = 0 ↔ ∀ y ∈ ys, y ∉ xs := by
  simp only [matchCount, List.length_eq_zero_iff, List.filter_eq_nil_iff, decide_eq_true_eq]
  exact ⟨fun h y hy hx => h y hx hy, fun h x hx hy => h x hy hx⟩

theorem matchCount_mono (hxs : xs.Nodup) (h : xs ⊆ more) :
    matchCount xs ys ≤ matchCount more ys := by
  have hsub : xs.filter (· ∈ ys) ⊆ more.filter (· ∈ ys) := List.filter_subset _ h
  exact ((hxs.filter _).subperm hsub).length_le

theorem share_nonneg (xs ys : List β) : 0 ≤ share xs ys := Score.ratio_nonneg _ _

theorem share_le_one (hxs : xs.Nodup) (hys : ys.Nodup) : share xs ys ≤ 1 :=
  Score.ratio_le_one (matchCount_le hxs hys)

theorem share_eq_one_iff (hxs : xs.Nodup) (hys : ys.Nodup) :
    share xs ys = 1 ↔ ys ≠ [] ∧ lacking ys xs = [] := by
  rw [share, Score.ratio_eq_one_iff (matchCount_le hxs hys), List.length_pos_iff,
    matchCount_eq_length_iff hxs hys]

theorem share_eq_zero_iff : share xs ys = 0 ↔ ∀ y ∈ ys, y ∉ xs := by
  rw [share, Score.ratio_eq_zero_iff, matchCount_eq_zero_iff]

theorem share_mono (hxs : xs.Nodup) (h : xs ⊆ more) : share xs ys ≤ share more ys :=
  Score.ratio_mono (matchCount_mono hxs h)

theorem share_nil (xs : List β) : share xs [] = 0 := share_eq_zero_iff.mpr nofun

end shares

/-! ### The similarity -/

section similarity

variable {w : ℚ} {s more r : ConceptGraph}

theorem nodeSimilarityOf_eq_share (s r : ConceptGraph) :
    nodeSimilarityOf s r = share s.placements r.placements := rfl

theorem edgeSimilarityOf_eq_share (s r : ConceptGraph) :
    edgeSimilarityOf s r = share s.relationships r.relationships := rfl

theorem similarityOf_eq (w : ℚ) (s r : ConceptGraph) : similarityOf ⟨w, 1 - w⟩ s r =
    Score.blend w (1 - w) (share s.placements r.placements)
      (share s.relationships r.relationships) := rfl

theorem similarityOf_le_one (h0 : 0 < w) (h1 : w < 1) (s r : ConceptGraph) :
    similarityOf ⟨w, 1 - w⟩ s r ≤ 1 := by
  have h := similarityOf_le ⟨w, 1 - w⟩ h0.le (sub_pos.mpr h1).le s r
  simpa using h

theorem similarityOf_eq_one_iff (h0 : 0 < w) (h1 : w < 1) (hr : r.InRange) :
    similarityOf ⟨w, 1 - w⟩ s r = 1 ↔
      r.edges ≠ [] ∧ lacking r.placements s.placements = [] ∧
        lacking r.relationships s.relationships = [] := by
  rw [similarityOf_eq, Score.blend_eq_one_iff h0 h1
      (share_le_one s.nodup_placements r.nodup_placements)
      (share_le_one s.nodup_relationships r.nodup_relationships),
    share_eq_one_iff s.nodup_placements r.nodup_placements,
    share_eq_one_iff s.nodup_relationships r.nodup_relationships, Ne,
    ConceptGraph.placements_eq_nil_iff, Ne, ConceptGraph.relationships_eq_nil_iff hr]
  constructor
  · rintro ⟨⟨-, hnodes⟩, hedges, hrelationships⟩
    exact ⟨hedges, hnodes, hrelationships⟩
  · rintro ⟨hedges, hnodes, hrelationships⟩
    exact ⟨⟨(ConceptGraph.size_pos_of_edges_ne_nil hr hedges).ne', hnodes⟩, hedges, hrelationships⟩

theorem similarityOf_eq_zero_iff (h0 : 0 < w) (h1 : w < 1) :
    similarityOf ⟨w, 1 - w⟩ s r = 0 ↔
      (∀ p ∈ r.placements, p ∉ s.placements) ∧ ∀ e ∈ r.relationships, e ∉ s.relationships := by
  rw [similarityOf_eq, Score.blend_eq_zero_iff h0 h1 (share_nonneg _ _) (share_nonneg _ _),
    share_eq_zero_iff, share_eq_zero_iff]

theorem similarityOf_mono (h0 : 0 < w) (h1 : w < 1) (hnodes : s.placements ⊆ more.placements)
    (hedges : s.relationships ⊆ more.relationships) :
    similarityOf ⟨w, 1 - w⟩ s r ≤ similarityOf ⟨w, 1 - w⟩ more r :=
  Score.blend_mono h0 h1 (share_mono s.nodup_placements hnodes)
    (share_mono s.nodup_relationships hedges)

theorem nodeSimilarityOf_self (h : 0 < r.size) : (nodeSimilarityOf r r : ℚ) = 1 := by
  rw [nodeSimilarityOf_eq_share, share_eq_one_iff r.nodup_placements r.nodup_placements, Ne,
    ConceptGraph.placements_eq_nil_iff]
  exact ⟨h.ne', lacking_self _⟩

theorem edgeSimilarityOf_self (hr : r.InRange) (h : r.edges ≠ []) :
    (edgeSimilarityOf r r : ℚ) = 1 := by
  rw [edgeSimilarityOf_eq_share, share_eq_one_iff r.nodup_relationships r.nodup_relationships, Ne,
    ConceptGraph.relationships_eq_nil_iff hr]
  exact ⟨h, lacking_self _⟩

/-- A graph without edges gets the weight of the nodes against itself, and no more. -/
theorem similarityOf_self_of_edges_eq_nil (hr : r.InRange) (h : 0 < r.size)
    (hedges : r.edges = []) : similarityOf ⟨w, 1 - w⟩ r r = w := by
  have hnone := (ConceptGraph.relationships_eq_nil_iff hr).mpr hedges
  have hnodes := nodeSimilarityOf_self h
  rw [nodeSimilarityOf_eq_share] at hnodes
  rw [similarityOf_eq, hnodes, hnone, share_nil, Score.blend]
  ring

end similarity

/-- **The scale of the similarity.**  In the graphs of programs and in those that come of changes,
every edge joins two nodes.  Let this be so in the reference, and let the weights be positive and
make up one.  In exact arithmetic, both similarities and their blend lie between zero and one.  The
blend is one if the reference has an edge and neither a node nor a relationship of it is missing,
and only then; it is zero if no node and no relationship of it is matched, and only then; and a
student who has all that another one has is no less similar.  A graph with an edge is fully similar
to itself and does not differ from itself; one with nodes alone is as similar to itself as the nodes
weigh. -/
theorem similarity_scale :
    (∀ p : Program, p.conceptGraph.InRange) ∧
    (∀ cs : List FlowGraph.Change, (FlowGraph.ofChanges cs).conceptGraph.InRange) ∧
    ∀ (w : ℚ) (v : Weights Float) (student reference : ConceptGraph), 0 < w → w < 1 →
      reference.InRange →
      let c := compare v student reference
      let similarity := fun s r : ConceptGraph => similarityOf ⟨w, 1 - w⟩ s r
      (0 ≤ (nodeSimilarityOf student reference : ℚ) ∧
        (nodeSimilarityOf student reference : ℚ) ≤ 1) ∧
      (0 ≤ (edgeSimilarityOf student reference : ℚ) ∧
        (edgeSimilarityOf student reference : ℚ) ≤ 1) ∧
      (0 ≤ similarity student reference ∧ similarity student reference ≤ 1) ∧
      (similarity student reference = 1 ↔
        reference.edges ≠ [] ∧ c.missingNodes = [] ∧ c.missingEdges = []) ∧
      (similarity student reference = 0 ↔
        (∀ p ∈ reference.placements, p ∉ student.placements) ∧
          ∀ e ∈ reference.relationships, e ∉ student.relationships) ∧
      (∀ more : ConceptGraph, student.placements ⊆ more.placements →
        student.relationships ⊆ more.relationships →
        similarity student reference ≤ similarity more reference) ∧
      (reference.edges ≠ [] →
        (nodeSimilarityOf reference reference : ℚ) = 1 ∧
        (edgeSimilarityOf reference reference : ℚ) = 1 ∧
        similarity reference reference = 1 ∧ (compare v reference reference).isExact = true) ∧
      (reference.isEmpty = false → reference.edges = [] →
        similarity reference reference = w) := by
  refine ⟨Program.inRange_conceptGraph, FlowGraph.inRange_ofChanges, ?_⟩
  intro w v student reference h0 h1 hr
  have hrest : 0 ≤ 1 - w := (sub_pos.mpr h1).le
  refine ⟨⟨share_nonneg _ _, nodeSimilarityOf_le_one _ _⟩,
    ⟨share_nonneg _ _, edgeSimilarityOf_le_one _ _⟩,
    ⟨similarityOf_nonneg ⟨w, 1 - w⟩ h0.le hrest _ _, similarityOf_le_one h0 h1 _ _⟩,
    similarityOf_eq_one_iff h0 h1 hr, similarityOf_eq_zero_iff h0 h1,
    fun _ => similarityOf_mono h0 h1, ?_, ?_⟩
  · intro hedges
    refine ⟨nodeSimilarityOf_self (ConceptGraph.size_pos_of_edges_ne_nil hr hedges),
      edgeSimilarityOf_self hr hedges, ?_, ?_⟩
    · exact (similarityOf_eq_one_iff h0 h1 hr).mpr ⟨hedges, lacking_self _, lacking_self _⟩
    · exact (isExact_iff _).mpr
        ⟨lacking_self _, lacking_self _, lacking_self _, lacking_self _⟩
  · intro hnodes hedges
    have hsize : 0 < reference.size := by
      simpa [ConceptGraph.isEmpty, ConceptGraph.size, List.length_pos_iff] using hnodes
    exact similarityOf_self_of_edges_eq_nil hr hsize hedges

/-! ### A branch too many -/

/-- A function with a condition. -/
def guarded : ConceptGraph :=
  ⟨[⟨.function "f", 1⟩, ⟨.ifCondition, 2⟩, ⟨.conditionalBranch, 3⟩], [(0, 1), (1, 2)]⟩

/-- The function with a second branch. -/
def branched : ConceptGraph :=
  ⟨guarded.nodes ++ [⟨.conditionalBranch, 4⟩], guarded.edges ++ [(1, 3)]⟩

/-- A second branch costs nothing, and its lack costs a quarter of the weight of the nodes. -/
theorem similarity_scale_branched :
    similarityOf ⟨(7 / 10 : ℚ), 1 - 7 / 10⟩ branched guarded = 1 ∧
      (compare .standard branched guarded).extraNodes = [⟨3, .conditionalBranch⟩] ∧
      similarityOf ⟨(7 / 10 : ℚ), 1 - 7 / 10⟩ guarded branched ≠ 1 ∧
      similarityOf ⟨(7 / 10 : ℚ), 1 - 7 / 10⟩ guarded branched ≤
        similarityOf ⟨(7 / 10 : ℚ), 1 - 7 / 10⟩ branched branched := by
  have hguarded := similarity_scale.2.2 (7 / 10) .standard branched guarded (by norm_num)
    (by norm_num) (by decide)
  have hbranched := similarity_scale.2.2 (7 / 10) .standard guarded branched (by norm_num)
    (by norm_num) (by decide)
  refine ⟨hguarded.2.2.2.1.mpr (by decide), by decide, ?_, ?_⟩
  · intro h
    exact absurd (hbranched.2.2.2.1.mp h).2.1 (by decide)
  · exact hbranched.2.2.2.2.2.1 branched (by decide) (by decide)

end Comparison

end StructuralGrading
