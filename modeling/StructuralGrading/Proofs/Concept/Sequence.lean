import StructuralGrading.Proofs.Concept.Matching
import StructuralGrading.Proofs.Flow.Shape

/-! # Relationships follow from the sequence of concepts

The edges of a flow graph are not determined by its labels: a false branch may hang off any of
the conditions before it.  What is compared of the edges is determined all the same.  All
conditions are one concept and all branches another, so every edge into a branch is the same
relationship, and the other edges lead to the next block or back to a loop.

* `Relationship.FollowsFrom`: the relationships that a sequence of concepts tells;
* `Program.mem_relationships_iff`: they are those of the program;
* `Program.relationships_of_concepts`: hence edges only differ where nodes differ. -/

namespace StructuralGrading

/-- The relationships that a sequence of concepts tells. -/
inductive Relationship.FollowsFrom (cs : List Concept) : Relationship → Prop
  /-- A concept and the next one, if that is no branch. -/
  | next {v : Nat} {c d : Concept} : cs[v]? = some c → cs[v + 1]? = some d →
      d ≠ .conditionalBranch → FollowsFrom cs ⟨c, d⟩
  /-- A condition and a branch, if there are branches. -/
  | branch : .conditionalBranch ∈ cs → FollowsFrom cs ⟨.ifCondition, .conditionalBranch⟩
  /-- A loop and itself. -/
  | again {c : Concept} : c ∈ cs → c = .forLoop ∨ c = .whileLoop → FollowsFrom cs ⟨c, c⟩

theorem Relationship.FollowsFrom.mono {cs ds : List Concept} {r : Relationship}
    (h : r.FollowsFrom cs) (hsub : ∀ (v : Nat) (c : Concept), cs[v]? = some c → ds[v]? = some c) :
    r.FollowsFrom ds := by
  have hmem : ∀ {c : Concept}, c ∈ cs → c ∈ ds := by
    intro c hc
    obtain ⟨v, hv⟩ := List.mem_iff_getElem?.mp hc
    exact List.mem_iff_getElem?.mpr ⟨v, hsub v c hv⟩
  cases h with
  | next hc hd hne => exact .next (hsub _ _ hc) (hsub _ _ hd) hne
  | branch hb => exact .branch (hmem hb)
  | again hc hloop => exact .again (hmem hc) hloop

/-! ### Labels and concepts -/

theorem Concept.ofBlock_eq_conditionalBranch_iff (label : BlockLabel) :
    Concept.ofBlock label = .conditionalBranch ↔ label.isBranch = true := by
  cases label <;> simp [Concept.ofBlock, BlockLabel.isBranch]

theorem Concept.ofBlock_eq_loop_iff (label : BlockLabel) :
    (Concept.ofBlock label = .forLoop ∨ Concept.ofBlock label = .whileLoop) ↔
      label.isLoop = true := by
  cases label <;> simp [Concept.ofBlock, BlockLabel.isLoop]

namespace FlowGraph

variable {g : FlowGraph}

theorem concepts_conceptGraph (g : FlowGraph) :
    g.conceptGraph.concepts = g.labels.map Concept.ofBlock := by
  simp [conceptGraph, ConceptGraph.concepts, labels]

theorem concept_eq_some_iff {v : Nat} {c : Concept} :
    g.conceptGraph.concepts[v]? = some c ↔
      ∃ label, g.labels[v]? = some label ∧ Concept.ofBlock label = c := by
  rw [concepts_conceptGraph, List.getElem?_map, Option.map_eq_some_iff]

theorem mem_concepts_iff {c : Concept} :
    c ∈ g.conceptGraph.concepts ↔
      ∃ (v : Nat) (label : BlockLabel), g.labels[v]? = some label ∧
        Concept.ofBlock label = c := by
  rw [List.mem_iff_getElem?]
  exact exists_congr fun v => concept_eq_some_iff

namespace WellShaped

/-- An edge is a relationship that the sequence tells. -/
theorem followsFrom_of_step (h : g.WellShaped) {u v : Nat} {c d : Concept} (hstep : g.Step u v)
    (hc : g.conceptGraph.concepts[u]? = some c) (hd : g.conceptGraph.concepts[v]? = some d) :
    Relationship.FollowsFrom g.conceptGraph.concepts ⟨c, d⟩ := by
  obtain ⟨label, hlabel, rfl⟩ := concept_eq_some_iff.mp hd
  by_cases huv : u = v
  · subst huv
    obtain ⟨label', hlabel', hloop⟩ := (h.step_self_iff u).mp hstep
    obtain rfl := Option.some.inj (hlabel.symm.trans hlabel')
    obtain rfl := Option.some.inj (hc.symm.trans hd)
    exact .again (List.mem_of_getElem? hc) ((Concept.ofBlock_eq_loop_iff label).mpr hloop)
  by_cases hbranch : label.isBranch = true
  · have hsource := (h.parent_of_branch u v label hlabel hbranch hstep).2
    obtain rfl : Concept.ifCondition = c :=
      Option.some.inj ((concept_eq_some_iff.mpr ⟨_, hsource, rfl⟩).symm.trans hc)
    rw [(Concept.ofBlock_eq_conditionalBranch_iff label).mpr hbranch] at hd ⊢
    exact .branch (List.mem_of_getElem? hd)
  · have hhead : label.isBranch = false := by simpa using hbranch
    obtain rfl := h.parent_of_head u v label hlabel hhead huv hstep
    refine .next hc hd ?_
    intro heq
    exact hbranch ((Concept.ofBlock_eq_conditionalBranch_iff label).mp heq)

theorem exists_parent (h : g.WellShaped) {v : Nat} {label : BlockLabel}
    (hlabel : g.labels[v]? = some label) (hpos : 0 < v) : ∃ u, u ≠ v ∧ g.Step u v := by
  have hv : v < g.size := by
    rw [← length_labels]
    exact (List.getElem?_eq_some_iff.mp hlabel).1
  obtain ⟨u, hu, -⟩ := h.parent v hpos hv
  exact ⟨u, hu⟩

theorem mem_relationships_of_followsFrom (h : g.WellShaped) {r : Relationship}
    (hr : r.FollowsFrom g.conceptGraph.concepts) : r ∈ g.conceptGraph.relationships := by
  cases hr with
  | @next v c d hc hd hne =>
      obtain ⟨label, hlabel, rfl⟩ := concept_eq_some_iff.mp hd
      have hhead : label.isBranch = false := by
        rw [← Bool.not_eq_true]
        intro hbranch
        exact hne ((Concept.ofBlock_eq_conditionalBranch_iff label).mpr hbranch)
      obtain ⟨u, hu, hstep⟩ := h.exists_parent hlabel (Nat.succ_pos v)
      obtain rfl : u = v := by
        have := h.parent_of_head u (v + 1) label hlabel hhead hu hstep
        omega
      exact ConceptGraph.mem_relationships.mpr ⟨u, u + 1, hstep, hc, hd⟩
  | branch hmem =>
      obtain ⟨v, label, hlabel, hconcept⟩ := mem_concepts_iff.mp hmem
      have hbranch := (Concept.ofBlock_eq_conditionalBranch_iff label).mp hconcept
      -- The first block is no branch, so this one has a parent.
      have hpos : 0 < v := by
        rcases Nat.eq_zero_or_pos v with rfl | hpos
        · have := h.first_label label hlabel
          rw [hbranch] at this
          cases this
        · exact hpos
      obtain ⟨u, -, hstep⟩ := h.exists_parent hlabel hpos
      have hsource := (h.parent_of_branch u v label hlabel hbranch hstep).2
      exact ConceptGraph.mem_relationships.mpr ⟨u, v, hstep,
        concept_eq_some_iff.mpr ⟨_, hsource, rfl⟩, concept_eq_some_iff.mpr ⟨_, hlabel, hconcept⟩⟩
  | @again c hmem hloop =>
      obtain ⟨v, label, hlabel, rfl⟩ := mem_concepts_iff.mp hmem
      have hstep : g.Step v v :=
        (h.step_self_iff v).mpr ⟨label, hlabel, (Concept.ofBlock_eq_loop_iff label).mp hloop⟩
      have hconcept := concept_eq_some_iff.mpr ⟨label, hlabel, rfl⟩
      exact ConceptGraph.mem_relationships.mpr ⟨v, v, hstep, hconcept, hconcept⟩

end WellShaped

end FlowGraph

namespace Program

/-- The relationships of a program are those that its sequence of concepts tells. -/
theorem mem_relationships_iff (p : Program) (r : Relationship) :
    r ∈ p.conceptGraph.relationships ↔ r.FollowsFrom p.conceptGraph.concepts := by
  constructor
  · intro hr
    obtain ⟨c, d⟩ := r
    obtain ⟨u, v, hstep, hc, hd⟩ := ConceptGraph.mem_relationships.mp hr
    exact p.wellShaped_flow.followsFrom_of_step hstep hc hd
  · intro hr
    exact p.wellShaped_flow.mem_relationships_of_followsFrom hr

/-- Where no node of one program is lacking in another, no edge is. -/
theorem lacking_relationships (p q : Program)
    (h : Comparison.lacking p.conceptGraph.placements q.conceptGraph.placements = []) :
    Comparison.lacking p.conceptGraph.relationships q.conceptGraph.relationships = [] := by
  rw [Comparison.lacking_placements_eq_nil_iff] at h
  rw [Comparison.lacking_eq_nil_iff]
  intro r hr
  rw [mem_relationships_iff] at hr ⊢
  exact hr.mono h

/-- **Edges follow from nodes.**  The relationships of a program are a function of its sequence
of concepts, so a comparison of two programs finds edges missing or extra only where it finds
nodes missing or extra, and it is exact for programs with one sequence of concepts only. -/
theorem relationships_of_concepts :
    (∀ (p : Program) (r : Relationship),
      r ∈ p.conceptGraph.relationships ↔ r.FollowsFrom p.conceptGraph.concepts) ∧
    ∀ (weights : Weights Float) (student reference : Program),
      let c := Comparison.compare weights student.conceptGraph reference.conceptGraph
      (c.missingNodes = [] → c.missingEdges = []) ∧
      (c.extraNodes = [] → c.extraEdges = []) ∧
      (c.isExact = true ↔ student.conceptGraph.concepts = reference.conceptGraph.concepts) := by
  refine ⟨mem_relationships_iff, ?_⟩
  intro weights student reference c
  refine ⟨lacking_relationships reference student, lacking_relationships student reference, ?_⟩
  rw [Comparison.isExact_iff]
  constructor
  · rintro ⟨hmissing, hextra, -, -⟩
    exact Comparison.concepts_eq_of_lacking hextra hmissing
  · intro heq
    have hmissing : c.missingNodes = [] := by
      apply Comparison.lacking_placements_eq_nil_iff.mpr
      rw [heq]
      exact fun _ _ h => h
    have hextra : c.extraNodes = [] := by
      apply Comparison.lacking_placements_eq_nil_iff.mpr
      rw [heq]
      exact fun _ _ h => h
    exact ⟨hmissing, hextra, lacking_relationships reference student hmissing,
      lacking_relationships student reference hextra⟩

end Program

end StructuralGrading
