import StructuralGrading.Proofs.Concept.Labels
import StructuralGrading.Proofs.Rubric.Building

/-! # What a rubric pays for

A rubric keeps the concepts of its labels and looks for them in a graph.  By what it pays it might
as well compare the labels themselves, each once.

* `Rubric.Reachable.isEarned_iff`: a label is earned by a node with that label;
* `Rubric.Reachable.awarded_eq`: the awarded items are those under labels of the graph;
* `Rubric.Reachable.tally_congr`: only the set of concepts of a graph counts;
* `Rubric.tally_by_labels`: all of this together. -/

namespace StructuralGrading.Rubric

variable {r : Rubric}

/-! ### Items and labels -/

theorem mem_keys_of_mem_entries {e : String × RubricItem} (he : e ∈ r.items.entries) :
    e.1 ∈ r.items.keys :=
  List.mem_map_of_mem he

theorem entries_eq_of_label {e f : String × RubricItem} (he : e ∈ r.items.entries)
    (hf : f ∈ r.items.entries) (hlabel : e.1 = f.1) : e = f :=
  List.inj_on_of_nodup_map r.items.nodup_keys he hf hlabel

theorem Reachable.isEarned_iff (h : Reachable r) (g : ConceptGraph) {label : String}
    (hkey : label ∈ r.items.keys) :
    r.isEarned g label = true ↔ ∃ c ∈ g.concepts, c.label = label := by
  rw [isEarned, Option.any_eq_true]
  refine exists_congr fun c => ?_
  rw [h.concept?_eq_some_iff, Concept.ofLabel_eq_ok_iff, ConceptGraph.contains, decide_eq_true_iff]
  constructor
  · rintro ⟨⟨-, hlabel⟩, hc⟩
    exact ⟨hc, hlabel⟩
  · rintro ⟨hc, hlabel⟩
    exact ⟨⟨hkey, hlabel⟩, hc⟩

theorem Reachable.mem_awarded_iff (h : Reachable r) (g : ConceptGraph)
    (e : String × RubricItem) :
    e ∈ r.awarded g ↔ e ∈ r.items.entries ∧ ∃ c ∈ g.concepts, c.label = e.1 := by
  rw [awarded, List.mem_filter]
  exact and_congr_right fun he => h.isEarned_iff g (mem_keys_of_mem_entries he)

theorem Reachable.awarded_eq (h : Reachable r) (g : ConceptGraph) :
    r.awarded g = r.items.entries.filter fun e => decide (∃ c ∈ g.concepts, c.label = e.1) := by
  apply List.filter_congr
  intro e he
  rw [Bool.eq_iff_iff, decide_eq_true_iff]
  exact h.isEarned_iff g (mem_keys_of_mem_entries he)

theorem sublist_awarded (r : Rubric) (g : ConceptGraph) :
    (r.awarded g).Sublist r.items.entries :=
  List.filter_sublist

/-! ### Graphs with the same concepts -/

variable {g g' : ConceptGraph}

theorem Reachable.awarded_congr (h : Reachable r)
    (hsame : ∀ c, c ∈ g.concepts ↔ c ∈ g'.concepts) : r.awarded g = r.awarded g' := by
  rw [h.awarded_eq, h.awarded_eq]
  simp only [hsame]

theorem Reachable.tally_congr (h : Reachable r)
    (hsame : ∀ c, c ∈ g.concepts ↔ c ∈ g'.concepts) : r.tally g = r.tally g' := by
  rw [tally, tally, h.awarded_congr hsame]

/-! ### Tallies -/

/-- **A rubric pays for labels.**  An item is awarded if a node of the graph has exactly its label.
No concept is paid twice, the sums run over the awarded items and over all items in the order of
the labels, graphs with the same concepts get the same tally, and an item whose label names no
concept counts towards the possible points alone. -/
theorem tally_by_labels {r : Rubric} (h : Reachable r) :
    (∀ g e, e ∈ r.awarded g ↔ e ∈ r.items.entries ∧ ∃ c ∈ g.concepts, c.label = e.1) ∧
    (∀ g, ∀ e ∈ r.awarded g, ∀ f ∈ r.awarded g,
      Concept.ofLabel e.1 = Concept.ofLabel f.1 → e = f) ∧
    (∀ g, (r.awarded g).Sublist r.items.entries ∧
      r.items.entries.Pairwise (compare ·.1 ·.1 = .lt) ∧
      (r.tally g).earned = ((r.awarded g).map (·.2.points)).foldl (· + ·) (Score.sum []) ∧
      (r.tally g).possible = (r.items.entries.map (·.2.points)).foldl (· + ·) (Score.sum [])) ∧
    (∀ g g', (∀ c, c ∈ g.concepts ↔ c ∈ g'.concepts) →
      r.awarded g = r.awarded g' ∧ r.tally g = r.tally g') ∧
    ∀ e ∈ r.items.entries, (∀ c, Concept.ofLabel e.1 ≠ .ok c) →
      e.2.points ∈ r.possiblePoints ∧ ∀ g, e ∉ r.awarded g := by
  refine ⟨h.mem_awarded_iff, ?_, ?_, ?_, ?_⟩
  · intro g e he f hf hsame
    obtain ⟨hentry, c, -, hc⟩ := (h.mem_awarded_iff g e).mp he
    have hread : Concept.ofLabel f.1 = .ok c := hsame ▸ Concept.ofLabel_eq_ok_iff.mpr hc
    have hlabel : e.1 = f.1 := hc.symm.trans (Concept.label_of_ofLabel hread)
    exact entries_eq_of_label hentry ((h.mem_awarded_iff g f).mp hf).1 hlabel
  · intro g
    have hpossible : r.possiblePoints = r.items.entries.map (·.2.points) := List.map_map
    refine ⟨sublist_awarded r g, List.pairwise_map.mp r.items.sorted, rfl, ?_⟩
    rw [← hpossible]
    rfl
  · exact fun g g' hsame => ⟨h.awarded_congr hsame, h.tally_congr hsame⟩
  · intro e he hunknown
    refine ⟨List.mem_map_of_mem (List.mem_map_of_mem he), fun g hawarded => ?_⟩
    obtain ⟨-, c, -, hc⟩ := (h.mem_awarded_iff g e).mp hawarded
    exact hunknown c (Concept.ofLabel_eq_ok_iff.mpr hc)

/-- Labels of a loop, of a function whose name is the label of that loop, and of nothing. -/
def loopAndLookalike : Rubric :=
  empty.withItems [("Function: Concept: For Loop", ⟨3, none⟩), ("Concept: Goto", ⟨1, none⟩),
    ("Concept: For Loop", ⟨2, none⟩)]

/-- A graph with the given concepts and without edges. -/
def graphOf (cs : List Concept) : ConceptGraph := ⟨cs.map fun c => ⟨c, 1⟩, []⟩

/-- Two loops are paid as one, and not as the function with the look of a loop. -/
theorem tally_by_labels_lookalike :
    Reachable loopAndLookalike ∧
    loopAndLookalike.awarded (graphOf [.forLoop, .forLoop]) =
      [("Concept: For Loop", ⟨2, none⟩)] ∧
    loopAndLookalike.tally (graphOf [.forLoop, .general, .forLoop]) =
      loopAndLookalike.tally (graphOf [.general, .forLoop]) := by
  have hreach : Reachable loopAndLookalike := .addAll _ .empty
  refine ⟨hreach, by decide +kernel, ?_⟩
  exact ((tally_by_labels hreach).2.2.2.1 _ _ (by simp [graphOf, ConceptGraph.concepts])).2

end StructuralGrading.Rubric
