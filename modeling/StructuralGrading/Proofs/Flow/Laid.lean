import Mathlib.Data.List.Intervals
import StructuralGrading.Proofs.Flow.Tracing

/-! # Derivations of a layout

`Laid L n m es` says that `es` are the edges of constructs that fill the blocks from `n` up to
`m` of a graph with the labels `L`.  It has one rule for each construct, and every fact about
the edges of a graph is an induction over these rules.

* `laid_ofOutline`: the graph of an outline has a derivation;
* `Laid.passage`: what an edge can be (`Passage`): it leads to the next block, or from a
  condition to one of its branches, or from a loop to itself;
* `Laid.first_label`, `Laid.label_ne_statement`: what a label cannot be. -/

namespace StructuralGrading

namespace BlockLabel

/-- Heads of loops. -/
def isLoop : BlockLabel → Bool
  | forLoop => true
  | whileLoop => true
  | _ => false

/-- The two branches of a condition. -/
def isBranch : BlockLabel → Bool
  | trueBranch => true
  | falseBranch => true
  | _ => false

theorem isBranch_of_isLoop {label : BlockLabel} (h : label.isLoop = true) :
    label.isBranch = false := by
  cases label <;> simp_all [isLoop, isBranch]

end BlockLabel

theorem LoopStyle.isLoop_label (style : LoopStyle) : style.label.isLoop = true := by
  cases style with
  | forLoop => rfl
  | whileLoop => rfl

theorem LoopStyle.isBranch_label (style : LoopStyle) : style.label.isBranch = false := by
  cases style with
  | forLoop => rfl
  | whileLoop => rfl

/-- The edges of constructs in the blocks from `n` up to `m`. -/
inductive Laid (L : List BlockLabel) : Nat → Nat → List (Nat × Nat) → Prop
  | nil (n : Nat) : Laid L n n []
  | append {n m k : Nat} {es fs : List (Nat × Nat)} :
      Laid L n m es → Laid L m k fs → Laid L n k (es ++ fs)
  | function {n m : Nat} {name : String} {es : List (Nat × Nat)} :
      L[n]? = some (.function name) → Laid L (n + 1) m es → Laid L n m (entry n ++ es)
  | loop {n m : Nat} {style : LoopStyle} {es : List (Nat × Nat)} :
      L[n]? = some style.label → Laid L (n + 1) m es →
      Laid L n m (entry n ++ (es ++ [(n, n)]))
  | ifThen {n m k : Nat} {es fs : List (Nat × Nat)} :
      L[n]? = some .ifCondition → Laid L (n + 1) m es →
      L[m]? = some .trueBranch → Laid L (m + 1) k fs →
      Laid L n k (entry n ++ (es ++ (n, m) :: fs))
  | ifElse {n m k l : Nat} {es fs gs : List (Nat × Nat)} :
      L[n]? = some .ifCondition → Laid L (n + 1) m es →
      L[m]? = some .trueBranch → Laid L (m + 1) k fs →
      L[k]? = some .falseBranch → Laid L (k + 1) l gs →
      Laid L n l (entry n ++ (es ++ (n, m) :: fs ++ (n, k) :: gs))

/-! ### Layouts are laid -/

/-- The labels from `n` on are those of the given cells. -/
def LabelsAt (L : List BlockLabel) (n : Nat) (cells : List (BlockLabel × Nat)) : Prop :=
  ∀ i, i < cells.length → L[n + i]? = cells[i]?.map (·.1)

namespace LabelsAt

variable {L : List BlockLabel} {n : Nat} {cs ds : List (BlockLabel × Nat)}

theorem left (h : LabelsAt L n (cs ++ ds)) : LabelsAt L n cs := by
  intro i hi
  rw [h i (by simp; omega), List.getElem?_append_left hi]

theorem right (h : LabelsAt L n (cs ++ ds)) : LabelsAt L (n + cs.length) ds := by
  intro i hi
  have hmid := h (cs.length + i) (by simp; omega)
  rw [Nat.add_assoc, hmid, List.getElem?_append_right (by omega), Nat.add_sub_cancel_left]

theorem head {label : BlockLabel} {line : Nat} (h : LabelsAt L n ((label, line) :: cs)) :
    L[n]? = some label := by
  simpa using h 0 (by simp)

theorem tail {c : BlockLabel × Nat} (h : LabelsAt L n (c :: cs)) : LabelsAt L (n + 1) cs := by
  intro i hi
  have hmid := h (i + 1) (by simp; omega)
  rw [show n + 1 + i = n + (i + 1) by omega, hmid]
  simp

end LabelsAt

mutual

theorem Construct.laid {L : List BlockLabel} : ∀ (c : Construct) {n : Nat},
    LabelsAt L n c.cells → Laid L n (n + c.cells.length) (entry n ++ c.inner n)
  | .function name line body, n, h => by
      have hbody := laid_edgesAll body h.tail
      rw [length_cells_function, show n + (1 + width body) = n + 1 + width body by omega]
      exact .function h.head hbody
  | .loop style line body, n, h => by
      have hbody := laid_edgesAll body h.tail
      rw [length_cells_loop, show n + (1 + width body) = n + 1 + width body by omega]
      exact .loop h.head hbody
  | .ifThen line test thenLine thenBody, n, h => by
      have htest := laid_edgesAll test h.tail.left
      have hrest := h.tail.right
      have hthen := laid_edgesAll thenBody hrest.tail
      rw [length_cells_ifThen, show n + (1 + width test + 1 + width thenBody) =
        n + 1 + width test + 1 + width thenBody by omega]
      exact .ifThen h.left.head htest hrest.head hthen
  | .ifElse line test thenLine thenBody elseLine elseBody, n, h => by
      have hfirst := h.left
      have htest := laid_edgesAll test hfirst.tail.left
      have hrest := hfirst.tail.right
      have hthen := laid_edgesAll thenBody hrest.tail
      have hlast : LabelsAt L (n + 1 + width test + 1 + width thenBody)
          ((.falseBranch, elseLine) :: cellsAll elseBody) := by
        have := h.right
        rwa [List.length_append, List.length_cons, List.length_cons,
          show n + ((cellsAll test).length + 1 + ((cellsAll thenBody).length + 1)) =
            n + 1 + width test + 1 + width thenBody by simp only [width]; omega] at this
      have helse := laid_edgesAll elseBody hlast.tail
      rw [length_cells_ifElse, show n + (1 + width test + 1 + width thenBody + 1 + width elseBody) =
        n + 1 + width test + 1 + width thenBody + 1 + width elseBody by omega]
      exact .ifElse hfirst.head htest hrest.head hthen hlast.head helse

theorem laid_edgesAll {L : List BlockLabel} : ∀ (cs : List Construct) {n : Nat},
    LabelsAt L n (cellsAll cs) → Laid L n (n + width cs) (edgesAll cs n)
  | [], n, _ => .nil n
  | c :: cs, n, h => by
      rw [width_cons, ← Nat.add_assoc]
      exact .append (c.laid h.left) (laid_edgesAll cs h.right)

end

theorem laid_ofOutline (cs : List Construct) :
    Laid (FlowGraph.ofOutline cs).labels 0 (FlowGraph.ofOutline cs).size
      (FlowGraph.ofOutline cs).edges := by
  rw [FlowGraph.edges_ofOutline, FlowGraph.size_ofOutline, FlowGraph.labels_ofOutline,
    ← Nat.zero_add (width cs)]
  apply laid_edgesAll
  intro i _
  rw [Nat.zero_add, List.getElem?_map]

/-! ### What an edge can be -/

/-- How control passes along an edge between blocks from `n` on. -/
inductive Passage (L : List BlockLabel) (n : Nat) : Nat × Nat → Prop
  /-- To the next block, which is not a branch. -/
  | next {v : Nat} {label : BlockLabel} : L[v + 1]? = some label → label.isBranch = false →
      n ≤ v + 1 → Passage L n (v, v + 1)
  /-- From a condition to one of its branches. -/
  | branch {u v : Nat} {label : BlockLabel} : L[u]? = some .ifCondition → L[v]? = some label →
      label.isBranch = true → n ≤ u → u < v → Passage L n (u, v)
  /-- Once more into a loop. -/
  | again {v : Nat} {label : BlockLabel} : L[v]? = some label → label.isLoop = true →
      n ≤ v → Passage L n (v, v)

namespace Passage

variable {L : List BlockLabel} {n m : Nat} {e : Nat × Nat}

theorem mono (h : Passage L m e) (hnm : n ≤ m) : Passage L n e := by
  cases h with
  | next hv hl hm => exact .next hv hl (by omega)
  | branch hu hv hl hm huv => exact .branch hu hv hl (by omega) huv
  | again hv hl hm => exact .again hv hl (by omega)

theorem le (h : Passage L n e) : e.1 ≤ e.2 := by
  cases h with
  | next => exact Nat.le_succ _
  | branch _ _ _ _ huv => exact Nat.le_of_lt huv
  | again => exact Nat.le_refl _

theorem of_entry {label : BlockLabel} (hn : L[n]? = some label) (hl : label.isBranch = false)
    (h : e ∈ entry n) : Passage L n e := by
  cases n with
  | zero => simp [entry] at h
  | succ n =>
      obtain rfl := List.mem_singleton.mp h
      exact .next hn hl (Nat.le_refl _)

end Passage

namespace Laid

variable {L : List BlockLabel} {n m : Nat} {es : List (Nat × Nat)}

theorem le (h : Laid L n m es) : n ≤ m := by
  induction h with
  | nil => exact Nat.le_refl _
  | append _ _ ih₁ ih₂ => omega
  | function _ _ ih => omega
  | loop _ _ ih => omega
  | ifThen _ _ _ _ ih₁ ih₂ => omega
  | ifElse _ _ _ _ _ _ ih₁ ih₂ ih₃ => omega

theorem passage (h : Laid L n m es) : ∀ e ∈ es, Passage L n e := by
  induction h with
  | nil =>
      intro e he
      cases he
  | append h₁ _ ih₁ ih₂ =>
      intro e he
      rcases List.mem_append.mp he with he | he
      · exact ih₁ e he
      · exact (ih₂ e he).mono h₁.le
  | function hn _ ih =>
      intro e he
      rcases List.mem_append.mp he with he | he
      · exact .of_entry hn rfl he
      · exact (ih e he).mono (Nat.le_succ _)
  | @loop n m style es hn _ ih =>
      intro e he
      simp only [List.mem_append, List.mem_singleton] at he
      rcases he with he | he | rfl
      · exact .of_entry hn style.isBranch_label he
      · exact (ih e he).mono (Nat.le_succ _)
      · exact .again hn style.isLoop_label (Nat.le_refl _)
  | ifThen hn h₁ hm h₂ ih₁ ih₂ =>
      intro e he
      have := h₁.le
      simp only [List.mem_append, List.mem_cons] at he
      rcases he with he | he | rfl | he
      · exact .of_entry hn rfl he
      · exact (ih₁ e he).mono (Nat.le_succ _)
      · exact .branch hn hm rfl (Nat.le_refl _) (by omega)
      · exact (ih₂ e he).mono (by omega)
  | ifElse hn h₁ hm h₂ hk h₃ ih₁ ih₂ ih₃ =>
      intro e he
      have := h₁.le
      have := h₂.le
      simp only [List.mem_append, List.mem_cons] at he
      rcases he with he | (he | rfl | he) | rfl | he
      · exact .of_entry hn rfl he
      · exact (ih₁ e he).mono (Nat.le_succ _)
      · exact .branch hn hm rfl (Nat.le_refl _) (by omega)
      · exact (ih₂ e he).mono (by omega)
      · exact .branch hn hk rfl (Nat.le_refl _) (by omega)
      · exact (ih₃ e he).mono (by omega)

/-! ### Labels in a layout -/

theorem first_label (h : Laid L n m es) (hnm : n < m) :
    ∃ label, L[n]? = some label ∧ label.isBranch = false := by
  induction h with
  | nil => omega
  | @append n k m es fs h₁ h₂ ih₁ ih₂ =>
      rcases Nat.lt_or_ge n k with hlt | hge
      · exact ih₁ hlt
      · obtain rfl : n = k := Nat.le_antisymm h₁.le hge
        exact ih₂ hnm
  | function hn => exact ⟨_, hn, rfl⟩
  | @loop n m style es hn => exact ⟨_, hn, style.isBranch_label⟩
  | ifThen hn => exact ⟨_, hn, rfl⟩
  | ifElse hn => exact ⟨_, hn, rfl⟩

/-- The blocks of a layout have labels, and none is that of a statement. -/
theorem label_ne_statement (h : Laid L n m es) {v : Nat} (hn : n ≤ v) (hm : v < m)
    (kind : String) : L[v]? ≠ some (.statement kind) := by
  -- A block whose label is known by its rule.
  have hknown : ∀ {w : Nat} {label : BlockLabel}, L[w]? = some label →
      label ≠ .statement kind → v = w → L[v]? ≠ some (.statement kind) := by
    rintro w label hw hlabel rfl hv
    exact hlabel (Option.some.inj (hw.symm.trans hv))
  induction h with
  | nil => omega
  | @append n k m es fs h₁ h₂ ih₁ ih₂ =>
      rcases Nat.lt_or_ge v k with hlt | hge
      · exact ih₁ hn hlt
      · exact ih₂ hge hm
  | function hl h ih =>
      rcases Nat.eq_or_lt_of_le hn with heq | hlt
      · exact hknown hl (by simp) heq.symm
      · exact ih hlt hm
  | @loop n m style es hl h ih =>
      rcases Nat.eq_or_lt_of_le hn with heq | hlt
      · exact hknown hl (by cases style <;> simp [LoopStyle.label]) heq.symm
      · exact ih hlt hm
  | @ifThen n j m es fs hl h₁ hj h₂ ih₁ ih₂ =>
      rcases Nat.eq_or_lt_of_le hn with heq | hlt
      · exact hknown hl (by simp) heq.symm
      rcases Nat.lt_trichotomy v j with hlt' | heq | hgt
      · exact ih₁ hlt hlt'
      · exact hknown hj (by simp) heq
      · exact ih₂ hgt hm
  | @ifElse n j k m es fs gs hl h₁ hj h₂ hk h₃ ih₁ ih₂ ih₃ =>
      rcases Nat.eq_or_lt_of_le hn with heq | hlt
      · exact hknown hl (by simp) heq.symm
      rcases Nat.lt_trichotomy v j with hlt' | heq | hgt
      · exact ih₁ hlt hlt'
      · exact hknown hj (by simp) heq
      rcases Nat.lt_trichotomy v k with hlt' | heq | hgt'
      · exact ih₂ hgt hlt'
      · exact hknown hk (by simp) heq
      · exact ih₃ hgt' hm

end Laid

end StructuralGrading
