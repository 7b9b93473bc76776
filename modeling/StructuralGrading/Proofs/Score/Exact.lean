import StructuralGrading.Proofs.Concept.Placewise
import StructuralGrading.Proofs.Decimal.Value

/-! # Scores in exact arithmetic

The formulas of scores are stated for any type of numbers.  Here they are taken over the rational
numbers, where each of them stays within bounds that pass through the next one.

* `Score.ratio_le_one`: at most all of the things are matched;
* `Score.ratio_eq_one_iff`, `Score.blend_eq_one_iff`: when the full share is reached;
* `Score.sum_le_sum_of_sublist`: some of the points are no more than all of them;
* `Score.percent_le`: so no more than a hundred percent is earned;
* `Score.final_le`: a blend of two scores stays below the greater of their bounds. -/

namespace StructuralGrading

namespace Score

/-! ### Shares of a whole -/

theorem ratio_nonneg (matched total : ℕ) : (0 : ℚ) ≤ ratio matched total := by
  rw [ratio]
  positivity

theorem ratio_le_one {matched total : ℕ} (h : matched ≤ total) : (ratio matched total : ℚ) ≤ 1 := by
  have hmax : (matched : ℚ) ≤ ((max total 1 : ℕ) : ℚ) := by
    exact_mod_cast h.trans (le_max_left total 1)
  have hpos : (0 : ℚ) < ((max total 1 : ℕ) : ℚ) := by
    exact_mod_cast Nat.zero_lt_one.trans_le (le_max_right total 1)
  rw [ratio]
  exact (div_le_one hpos).mpr hmax

theorem ratio_eq_one_iff {matched total : ℕ} (h : matched ≤ total) :
    (ratio matched total : ℚ) = 1 ↔ 0 < total ∧ matched = total := by
  have hne : ((max total 1 : ℕ) : ℚ) ≠ 0 := by
    exact_mod_cast (show max total 1 ≠ 0 by omega)
  rw [ratio, div_eq_one_iff_eq hne, Nat.cast_inj]
  omega

theorem ratio_eq_zero_iff {matched total : ℕ} : (ratio matched total : ℚ) = 0 ↔ matched = 0 := by
  have hne : ((max total 1 : ℕ) : ℚ) ≠ 0 := by
    exact_mod_cast (show max total 1 ≠ 0 by omega)
  rw [ratio, div_eq_zero_iff, Nat.cast_eq_zero, or_iff_left hne]

theorem ratio_mono {matched more total : ℕ} (h : matched ≤ more) :
    (ratio matched total : ℚ) ≤ ratio more total := by
  unfold ratio
  gcongr

/-! ### Points -/

theorem sum_eq (xs : List ℚ) : sum xs = xs.sum := by
  rw [sum, neg_zero, List.sum_eq_foldl]

theorem sum_nonneg {xs : List ℚ} (h : ∀ x ∈ xs, 0 ≤ x) : 0 ≤ sum xs :=
  sum_eq xs ▸ List.sum_nonneg h

theorem sum_le_sum_of_sublist {xs ys : List ℚ} (h : xs.Sublist ys) (hys : ∀ y ∈ ys, 0 ≤ y) :
    sum xs ≤ sum ys := by
  rw [sum_eq, sum_eq]
  exact h.sum_le_sum hys

theorem percent_nonneg {earned possible : ℚ} (h : 0 ≤ earned) : 0 ≤ percent earned possible := by
  rw [percent]
  split
  · positivity
  · exact le_rfl

theorem percent_le {earned possible : ℚ} (h : earned ≤ possible) :
    percent earned possible ≤ 100 := by
  rw [percent]
  split
  · rename_i hpos
    have hshare : earned / possible ≤ 1 := (div_le_one hpos).mpr h
    linarith
  · norm_num

/-! ### Blends -/

section blends

variable {node edge nodes edges : ℚ}

theorem blend_nonneg (hnode : 0 ≤ node) (hedge : 0 ≤ edge) (hnodes : 0 ≤ nodes)
    (hedges : 0 ≤ edges) : 0 ≤ blend node edge nodes edges := by
  rw [blend]
  positivity

/-- Two shares, each with its weight, make up at most both weights. -/
theorem blend_le (hnode : 0 ≤ node) (hedge : 0 ≤ edge) (hnodes : nodes ≤ 1) (hedges : edges ≤ 1) :
    blend node edge nodes edges ≤ node + edge := by
  have hn : node * nodes ≤ node * 1 := by gcongr
  have he : edge * edges ≤ edge * 1 := by gcongr
  rw [blend]
  linarith

theorem blend_eq_one_iff (h0 : 0 < node) (h1 : node < 1) (hnodes : nodes ≤ 1) (hedges : edges ≤ 1) :
    blend node (1 - node) nodes edges = 1 ↔ nodes = 1 ∧ edges = 1 := by
  have hn : node * nodes ≤ node * 1 := by gcongr
  have he : (1 - node) * edges ≤ (1 - node) * 1 := by
    apply mul_le_mul_of_nonneg_left hedges
    linarith
  rw [blend]
  constructor
  · intro h
    have hnodes' : node * nodes = node * 1 := by linarith
    have hedges' : (1 - node) * edges = (1 - node) * 1 := by linarith
    exact ⟨mul_left_cancel₀ h0.ne' hnodes', mul_left_cancel₀ (sub_pos.mpr h1).ne' hedges'⟩
  · rintro ⟨rfl, rfl⟩
    ring

theorem blend_eq_zero_iff (h0 : 0 < node) (h1 : node < 1) (hnodes : 0 ≤ nodes)
    (hedges : 0 ≤ edges) : blend node (1 - node) nodes edges = 0 ↔ nodes = 0 ∧ edges = 0 := by
  have hrest : 0 < 1 - node := sub_pos.mpr h1
  rw [blend, add_eq_zero_iff_of_nonneg (by positivity) (by positivity)]
  simp [h0.ne', hrest.ne']

theorem blend_mono {nodes' edges' : ℚ} (h0 : 0 < node) (h1 : node < 1) (hnodes : nodes ≤ nodes')
    (hedges : edges ≤ edges') :
    blend node (1 - node) nodes edges ≤ blend node (1 - node) nodes' edges' := by
  have hrest : 0 ≤ 1 - node := (sub_pos.mpr h1).le
  unfold blend
  gcongr

variable {share similarity pointPercent bound : ℚ}

theorem final_nonneg (h0 : 0 ≤ share) (h1 : share ≤ 1) (hs : 0 ≤ similarity)
    (hp : 0 ≤ pointPercent) : 0 ≤ final share similarity pointPercent := by
  have hrest : 0 ≤ 1 - share := sub_nonneg.mpr h1
  rw [final]
  positivity

/-- The final score lies between the similarity, as a percentage, and the percentage of points. -/
theorem final_le (h0 : 0 ≤ share) (h1 : share ≤ 1) (hs : similarity * 100 ≤ bound)
    (hp : pointPercent ≤ bound) : final share similarity pointPercent ≤ bound := by
  have hrest : 0 ≤ 1 - share := sub_nonneg.mpr h1
  calc final share similarity pointPercent
      = share * (similarity * 100) + (1 - share) * pointPercent := by rw [final, mul_assoc]
    _ ≤ share * bound + (1 - share) * bound := by gcongr
    _ = bound := by ring

end blends

end Score

/-! ### Similarities -/

namespace Comparison

theorem matchCount_le {β : Type} [DecidableEq β] {xs ys : List β} (hxs : xs.Nodup)
    (hys : ys.Nodup) : matchCount xs ys ≤ ys.length := by
  rw [matchCount_comm hxs hys, ← matchCount_add_length_lacking ys xs]
  exact Nat.le_add_right _ _

theorem nodeSimilarityOf_le_one (student reference : ConceptGraph) :
    (nodeSimilarityOf student reference : ℚ) ≤ 1 :=
  Score.ratio_le_one (matchCount_le student.nodup_placements reference.nodup_placements)

theorem edgeSimilarityOf_le_one (student reference : ConceptGraph) :
    (edgeSimilarityOf student reference : ℚ) ≤ 1 :=
  Score.ratio_le_one (matchCount_le student.nodup_relationships reference.nodup_relationships)

theorem similarityOf_nonneg (w : Weights ℚ) (hnode : 0 ≤ w.node) (hedge : 0 ≤ w.edge)
    (student reference : ConceptGraph) : 0 ≤ similarityOf w student reference :=
  Score.blend_nonneg hnode hedge (Score.ratio_nonneg _ _) (Score.ratio_nonneg _ _)

theorem similarityOf_le (w : Weights ℚ) (hnode : 0 ≤ w.node) (hedge : 0 ≤ w.edge)
    (student reference : ConceptGraph) : similarityOf w student reference ≤ w.node + w.edge :=
  Score.blend_le hnode hedge (nodeSimilarityOf_le_one _ _) (edgeSimilarityOf_le_one _ _)

end Comparison

end StructuralGrading
