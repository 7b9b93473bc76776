import StructuralGrading.Comparison

/-! # Membership in what is compared

Two concept graphs are compared by their placements and their relationships.

* `mem_placements`: a placement is a node of the graph;
* `mem_relationships`: a relationship is an edge of the graph, seen by the concepts at its ends;
* `lacking_eq_nil_iff`: nothing is lacking if all of the one is in the other.

The relationships are sorted by inserting them, so membership rests on the comparison of concepts
telling different ones apart. -/

namespace StructuralGrading

/-! ### The order of concepts -/

instance : Std.LawfulEqOrd Concept where
  compare_self := by
    intro c
    show (compare c.key.1 c.key.1).then (compare c.key.2 c.key.2) = .eq
    rw [Std.ReflOrd.compare_self, Std.ReflOrd.compare_self]
    rfl
  eq_of_compare := by
    intro c d h
    obtain ⟨hplace, hname⟩ := Ordering.then_eq_eq.mp h
    apply Concept.key_injective
    exact Prod.ext (Std.LawfulEqOrd.eq_of_compare hplace) (Std.LawfulEqOrd.eq_of_compare hname)

instance : Std.LawfulEqOrd Relationship where
  compare_self := by
    intro r
    show (compare r.source r.source).then (compare r.target r.target) = .eq
    rw [Std.ReflOrd.compare_self, Std.ReflOrd.compare_self]
    rfl
  eq_of_compare := by
    intro r s h
    obtain ⟨hsource, htarget⟩ := Ordering.then_eq_eq.mp h
    obtain ⟨a, b⟩ := r
    obtain ⟨c, d⟩ := s
    obtain rfl : a = c := Std.LawfulEqOrd.eq_of_compare hsource
    obtain rfl : b = d := Std.LawfulEqOrd.eq_of_compare htarget
    rfl

/-! ### Members -/

namespace ConceptGraph

variable {g : ConceptGraph}

theorem mem_placements {id : Nat} {c : Concept} :
    ⟨id, c⟩ ∈ g.placements ↔ g.concepts[id]? = some c := by
  simp only [placements, List.mem_map]
  constructor
  · rintro ⟨⟨d, i⟩, hmem, heq⟩
    obtain ⟨rfl, rfl⟩ := Placement.mk.inj heq
    exact List.mk_mem_zipIdx_iff_getElem?.mp hmem
  · intro h
    exact ⟨(c, id), List.mk_mem_zipIdx_iff_getElem?.mpr h, rfl⟩

theorem mem_relationships {c d : Concept} :
    ⟨c, d⟩ ∈ g.relationships ↔
      ∃ u v, (u, v) ∈ g.edges ∧ g.concepts[u]? = some c ∧ g.concepts[v]? = some d := by
  rw [relationships, Sorted.mem_ofList, List.mem_filterMap]
  constructor
  · rintro ⟨⟨u, v⟩, he, h⟩
    simp only [relationship?, Option.bind_eq_bind, Option.bind_eq_some_iff, Option.pure_def,
      Option.some.injEq] at h
    obtain ⟨c', hc, d', hd, heq⟩ := h
    obtain ⟨rfl, rfl⟩ := Relationship.mk.inj heq
    exact ⟨u, v, he, hc, hd⟩
  · rintro ⟨u, v, he, hc, hd⟩
    exact ⟨(u, v), he, by simp [relationship?, hc, hd]⟩

theorem concept_mem_of_mem_placements {p : Placement} (h : p ∈ g.placements) :
    p.concept ∈ g.concepts := List.mem_of_getElem? (mem_placements.mp h)

theorem ends_mem_of_mem_relationships {r : Relationship} (h : r ∈ g.relationships) :
    r.source ∈ g.concepts ∧ r.target ∈ g.concepts := by
  obtain ⟨u, v, -, hu, hv⟩ := mem_relationships.mp h
  exact ⟨List.mem_of_getElem? hu, List.mem_of_getElem? hv⟩

end ConceptGraph

/-! ### Nothing lacking -/

namespace Comparison

theorem lacking_eq_nil_iff {β : Type} [DecidableEq β] {xs ys : List β} :
    lacking xs ys = [] ↔ ∀ x ∈ xs, x ∈ ys := by
  simp [lacking, List.filter_eq_nil_iff]

theorem lacking_placements_eq_nil_iff {g h : ConceptGraph} :
    lacking g.placements h.placements = [] ↔
      ∀ (id : Nat) (c : Concept), g.concepts[id]? = some c → h.concepts[id]? = some c := by
  rw [lacking_eq_nil_iff]
  constructor
  · intro hall id c hc
    exact ConceptGraph.mem_placements.mp (hall _ (ConceptGraph.mem_placements.mpr hc))
  · rintro hall ⟨id, c⟩ hmem
    exact ConceptGraph.mem_placements.mpr (hall id c (ConceptGraph.mem_placements.mp hmem))

/-- No placement is lacking either way only if the sequences of concepts are the same. -/
theorem concepts_eq_of_lacking {g h : ConceptGraph}
    (hgh : lacking g.placements h.placements = []) (hhg : lacking h.placements g.placements = []) :
    g.concepts = h.concepts := by
  rw [lacking_placements_eq_nil_iff] at hgh hhg
  apply List.ext_getElem?
  intro id
  cases hg : g.concepts[id]? with
  | some c => exact (hgh id c hg).symm
  | none =>
      cases hh : h.concepts[id]? with
      | none => rfl
      | some c =>
          have := hhg id c hh
          rw [hg] at this
          cases this

theorem isExact_iff (c : Comparison) :
    c.isExact = true ↔
      c.missingNodes = [] ∧ c.extraNodes = [] ∧ c.missingEdges = [] ∧ c.extraEdges = [] := by
  simp [isExact, and_assoc]

end Comparison

end StructuralGrading
