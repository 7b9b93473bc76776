import StructuralGrading.Grading.Basic
import StructuralGrading.Proofs.Configuration.Settings
import StructuralGrading.Proofs.Decimal.Rounding
import StructuralGrading.Proofs.Score.Exact
import StructuralGrading.Rubric.Reader

/-! # The scale of the final score

The final score is meant to lie between zero and a hundred.  Where points are not negative it does,
but for the rounding of the edge weight, if the formulas are computed exactly on the numbers that
the doubles in a configuration and in a rubric stand for.

* `Configuration.weights_value`: the weights that settings can give;
* `TaskGrade.finalBy`: the final score, in any arithmetic;
* `TaskGrade.final_scale`: its bounds in exact arithmetic;
* `TaskGrade.final_off_scale`: a rubric that takes points off leads above a hundred. -/

namespace StructuralGrading

open Decimal (value value_nonneg value_le_one value_one_sub)

/-! ### Configurations -/

namespace Configuration

variable {lookup : String → Option String} {c : Configuration}

/-- The weights are not negative, and they exceed one by no more than the rounding of what the nodes
leave to the edges. -/
theorem weights_value (h : ofLookup lookup = .ok c) :
    0 ≤ value c.weights.node ∧ 0 ≤ value c.weights.edge ∧
      value c.weights.node + value c.weights.edge ≤ 1 + 2 ^ (-54 : ℤ) := by
  rcases weights_of_ofLookup h with hw | ⟨x, h0, h1, hw⟩
  · have hnode : Decimal.Binary.ofFloat 0.7 = .finite false 6305039478318694 (-53) := by
      decide +kernel
    have hedge : Decimal.Binary.ofFloat 0.3 = .finite false 5404319552844595 (-54) := by
      decide +kernel
    rw [hw, Weights.standard, value, value, hnode, hedge, Decimal.Binary.value,
      Decimal.Binary.value]
    norm_num
  · have hedge := value_one_sub h0 h1
    rw [hw]
    exact ⟨value_nonneg h0, hedge.1, by linarith [hedge.2]⟩

end Configuration

/-! ### The final score -/

/-- The weights, read as numbers of another kind. -/
def Weights.map {α β : Type} (f : α → β) (w : Weights α) : Weights β := ⟨f w.node, f w.edge⟩

namespace TaskGrade

/-- The final score, computed in some arithmetic in which the doubles of the configuration and of
the rubric are read as numbers. -/
def finalBy {α : Type} [Add α] [Sub α] [Mul α] [Div α] [Neg α] [NatCast α] [OfNat α 0] [OfNat α 1]
    [OfNat α 100] [LT α] [DecidableLT α] (read : Float → α) (c : Configuration) (r : Rubric)
    (student reference : ConceptGraph) : α :=
  let earned := (r.awarded student).map fun e => read e.2.points
  let possible := r.items.entries.map fun e => read e.2.points
  Score.final (read c.share)
    (Comparison.similarityOf (c.weights.map read) student reference)
    (Score.percent (Score.sum earned) (Score.sum possible))

/-- Grading computes the final score on the doubles themselves. -/
theorem finalScore_ofGraphs (c : Configuration) (r : Rubric) (task : String)
    (student reference : ConceptGraph) :
    (ofGraphs c r task student reference).finalScore = finalBy id c r student reference := by
  have hpossible : r.possiblePoints = r.items.entries.map (·.2.points) := List.map_map
  simp only [ofGraphs, finalBy, Rubric.tally, Rubric.maxPoints, hpossible]
  rfl

/-- A program is graded by the concept graphs that are read from it and from the reference. -/
theorem eq_ofGraphs_of_ofSources {parse : Parser} {c : Configuration} {r : Rubric}
    {task student reference : String} {g : TaskGrade}
    (h : ofSources parse c r task student reference = .ok g) :
    ∃ s t, Program.conceptGraphs parse student reference = .ok (s, t) ∧
      g = ofGraphs c r task s t := by
  rw [ofSources] at h
  cases hgraphs : Program.conceptGraphs parse student reference with
  | error f =>
      rw [hgraphs] at h
      cases h
  | ok graphs =>
      rw [hgraphs] at h
      cases h
      exact ⟨graphs.1, graphs.2, rfl, rfl⟩

section bounds

variable {lookup : String → Option String} {c : Configuration} {r : Rubric}

/-- No more is earned than is possible, and nothing is earned below zero. -/
theorem points_bounds (hr : ∀ e ∈ r.items.entries, 0 ≤ e.2.points) (g : ConceptGraph) :
    let earned := Score.sum ((r.awarded g).map fun e => value e.2.points)
    0 ≤ earned ∧ earned ≤ Score.sum (r.items.entries.map fun e => value e.2.points) := by
  have hall : ∀ x ∈ r.items.entries.map fun e => value e.2.points, 0 ≤ x :=
    List.forall_mem_map.mpr fun e he => value_nonneg (hr e he)
  have hsub : ((r.awarded g).map fun e => value e.2.points).Sublist
      (r.items.entries.map fun e => value e.2.points) := List.filter_sublist.map _
  exact ⟨Score.sum_nonneg fun x hx => hall x (hsub.subset hx),
    Score.sum_le_sum_of_sublist hsub hall⟩

theorem finalBy_bounds (hc : Configuration.ofLookup lookup = .ok c)
    (hr : ∀ e ∈ r.items.entries, 0 ≤ e.2.points) (student reference : ConceptGraph) :
    0 ≤ finalBy value c r student reference ∧
      finalBy value c r student reference ≤
        100 * max 1 (value c.weights.node + value c.weights.edge) := by
  obtain ⟨hshare0, hshare1⟩ := Configuration.fraction_share hc
  obtain ⟨hnode, hedge, -⟩ := Configuration.weights_value hc
  obtain ⟨hearned, hpossible⟩ := points_bounds hr student
  have hs0 := Comparison.similarityOf_nonneg (c.weights.map value) hnode hedge student reference
  have hs1 := Comparison.similarityOf_le (c.weights.map value) hnode hedge student reference
  have htotal : (c.weights.map value).node + (c.weights.map value).edge =
      value c.weights.node + value c.weights.edge := rfl
  have hone := le_max_left 1 (value c.weights.node + value c.weights.edge)
  have hweights := le_max_right 1 (value c.weights.node + value c.weights.edge)
  constructor
  · exact Score.final_nonneg (value_nonneg hshare0) (value_le_one hshare0 hshare1) hs0
      (Score.percent_nonneg hearned)
  · refine Score.final_le (value_nonneg hshare0) (value_le_one hshare0 hshare1) ?_ ?_
    · linarith
    · linarith [Score.percent_le hpossible]

end bounds

/-- **The scale of the final score.** If no item of the rubric has negative points, then under every
configuration that settings can give, every two programs that can be graded get a final score that
is not negative, and that reaches at most a hundred times the weights, all of this computed exactly.
The weights make up one, but for the rounding of the edge weight. -/
theorem final_scale (parse : Parser) {lookup : String → Option String} {c : Configuration}
    (hc : Configuration.ofLookup lookup = .ok c) {r : Rubric}
    (hr : ∀ e ∈ r.items.entries, 0 ≤ e.2.points) {task student reference : String} {g : TaskGrade}
    (hg : ofSources parse c r task student reference = .ok g) :
    ∃ s t, Program.conceptGraphs parse student reference = .ok (s, t) ∧
      g.finalScore = finalBy id c r s t ∧
      0 ≤ finalBy value c r s t ∧
      finalBy value c r s t ≤ 100 * max 1 (value c.weights.node + value c.weights.edge) ∧
      value c.weights.node + value c.weights.edge ≤ 1 + 2 ^ (-54 : ℤ) := by
  obtain ⟨s, t, hgraphs, rfl⟩ := eq_ofGraphs_of_ofSources hg
  obtain ⟨hlow, hhigh⟩ := finalBy_bounds hc hr s t
  exact ⟨s, t, hgraphs, finalScore_ofGraphs c r task s t, hlow, hhigh,
    (Configuration.weights_value hc).2.2⟩

/-- A program with nothing but a loop. -/
def loopSource : String := "for x in y:\n    pass\n"

/-- Its tree. -/
def loopTree : Tree :=
  .node ⟨"module", none, true, false, false, false, 0, 0, 0, 21⟩
    [.node ⟨"for_statement", none, true, false, false, false, 0, 0, 0, 20⟩
      [.node ⟨"identifier", some "left", true, false, false, false, 0, 4, 4, 5⟩ [],
        .node ⟨"identifier", some "right", true, false, false, false, 0, 9, 9, 10⟩ [],
        .node ⟨"block", some "body", true, false, false, false, 1, 4, 16, 20⟩
          [.node ⟨"pass_statement", none, true, false, false, false, 1, 4, 16, 20⟩ []]]]

/-- The concept graph of the loop. -/
def loopGraph : ConceptGraph := ⟨[⟨.forLoop, 1⟩], [(0, 0)]⟩

/-- Two points for a loop and one for another kind of loop. -/
def loopRubric : Rubric :=
  .ofItems (.ofList [("Concept: For Loop", ⟨2, none⟩), ("Concept: While Loop", ⟨1, none⟩)])

/-- The loop is graded against itself, where some of the points are missed. -/
theorem final_scale_loop :
    Configuration.ofLookup (fun _ => none) = .ok .standard ∧
    (∀ e ∈ loopRubric.items.entries, 0 ≤ e.2.points) ∧
    ∃ s t, Program.conceptGraphs (fun _ => loopTree) loopSource loopSource = .ok (s, t) ∧
      (ofGraphs .standard loopRubric "task1" loopGraph loopGraph).finalScore =
        finalBy id .standard loopRubric s t ∧
      0 ≤ finalBy value .standard loopRubric s t ∧
      finalBy value .standard loopRubric s t ≤ 100 * max 1 (value 0.7 + value 0.3) ∧
      value 0.7 + value 0.3 ≤ 1 + 2 ^ (-54 : ℤ) := by
  have hr : ∀ e ∈ loopRubric.items.entries, 0 ≤ e.2.points := by decide +kernel
  have hg : ofSources (fun _ => loopTree) .standard loopRubric "task1" loopSource loopSource =
      .ok (ofGraphs .standard loopRubric "task1" loopGraph loopGraph) := by decide +kernel
  have hc : Configuration.ofLookup (fun _ => none) = .ok .standard := rfl
  exact ⟨hc, hr, final_scale _ hc hr hg⟩

/-- The text of a rubric in which a kind of loop costs a point. -/
def penaltyText : String :=
  "\x7b\"Concept: For Loop\": \x7b\"points\": 2\x7d, " ++
    "\"Concept: While Loop\": \x7b\"points\": -1\x7d\x7d"

/-- The rubric that is read from it. -/
def penaltyRubric : Rubric :=
  .ofItems (.ofList [("Concept: For Loop", ⟨2, none⟩), ("Concept: While Loop", ⟨-1, none⟩)])

/-- Two of one possible points are earned, so the final score passes a hundred. -/
theorem final_off_scale :
    Configuration.ofLookup (fun _ => none) = .ok .standard ∧
    Rubric.ofText penaltyText = .ok penaltyRubric ∧
    Program.conceptGraphs (fun _ => loopTree) loopSource loopSource = .ok (loopGraph, loopGraph) ∧
    ofSources (fun _ => loopTree) .standard penaltyRubric "task1" loopSource loopSource =
      .ok (ofGraphs .standard penaltyRubric "task1" loopGraph loopGraph) ∧
    100 < finalBy value .standard penaltyRubric loopGraph loopGraph ∧
    100 < (ofGraphs .standard penaltyRubric "task1" loopGraph loopGraph).finalScore := by
  decide +kernel

end TaskGrade

end StructuralGrading
