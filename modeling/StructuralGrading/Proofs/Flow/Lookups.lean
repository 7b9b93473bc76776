import StructuralGrading.Concept.Graph
import StructuralGrading.Proofs.Flow.Changes

/-! # Looking a block up by its number

A graph and its concept graph answer several questions about a block number: which block it is,
which concept it has, on which line it starts, what follows it, and which edges it has.  Some of
them read a slot, so they know a number only up to a multiple of the number of slots; the others
compare the whole number.

* `FlowGraph.AgreesAt`: all answers say the same on whether there is a block with the number;
* `slot_le`, `size_le_of_le_slot`: a number is never smaller than its slot;
* `FlowGraph.lookups_agree`: they agree for every number that is a slot, and for every other one
  whose slot holds no block, and for no number besides;
* `FlowGraph.lookups_disagree`: the first number beyond the slots is taken for block zero. -/

namespace StructuralGrading

theorem slot_le (id : Nat) : slot id ≤ id := Nat.mod_le id slotCount

theorem slot_slot (id : Nat) : slot (slot id) = slot id := Nat.mod_mod id slotCount

namespace FlowGraph

variable {g : FlowGraph} {id : Nat}

/-! ### What each question finds -/

theorem isSome_block?_iff : (g.block? id).isSome = true ↔ slot id < g.size := by
  simp [block?, size]

theorem id_of_getElem? (hids : g.blocks.map (·.id) = List.range g.size) {b : Block}
    (h : g.blocks[id]? = some b) : b.id = id := by
  obtain ⟨hlt, -⟩ := List.getElem?_eq_some_iff.mp h
  have hmap : (g.blocks.map (·.id))[id]? = some b.id := by
    rw [List.getElem?_map, h]
    rfl
  rw [hids, List.getElem?_range (show id < g.size from hlt)] at hmap
  exact (Option.some.inj hmap).symm

theorem isSome_concept?_iff : (g.conceptGraph.concept? id).isSome = true ↔ slot id < g.size := by
  simp [ConceptGraph.concept?, ConceptGraph.concepts, conceptGraph, size]

theorem isSome_line?_iff : (g.conceptGraph.line? id).isSome = true ↔ id < g.size := by
  simp [ConceptGraph.line?, conceptGraph, size]

theorem successors_of_size_le (h : g.size ≤ id) : g.successors id = [] := by
  unfold successors
  rw [if_neg (by omega)]

theorem hasEdge_of_size_le (h : g.size ≤ id) (v : Nat) :
    g.hasEdge id v = false ∧ g.hasEdge v id = false := by
  have hnot : ¬ id < g.size := by omega
  simp [hasEdge, hnot]

/-! ### Agreement -/

/-- All answers about a number say whether there is a block with this number. -/
structure AgreesAt (g : FlowGraph) (id : Nat) : Prop where
  isSome_block? : (g.block? id).isSome = true ↔ id < g.size
  /-- The block that is found is the one with the number. -/
  id_eq : ∀ b, g.block? id = some b → b.id = id
  isSome_concept? : (g.conceptGraph.concept? id).isSome = true ↔ id < g.size
  isSome_line? : (g.conceptGraph.line? id).isSome = true ↔ id < g.size
  /-- Nothing follows a block that there is not. -/
  successors_eq_nil : g.size ≤ id → g.successors id = []
  hasEdge_eq_false : g.size ≤ id → ∀ v, g.hasEdge id v = false ∧ g.hasEdge v id = false

/-- A number is answered for as its slot is, and agreement asks that this is no other number. -/
theorem agreesAt_iff (hids : g.blocks.map (·.id) = List.range g.size) (hsize : g.size < slotCount) :
    g.AgreesAt id ↔ id < slotCount ∨ g.size ≤ slot id := by
  have hle := slot_le id
  constructor
  · intro h
    by_contra hnot
    have hfound := h.isSome_block?.mp (isSome_block?_iff.mpr (by omega))
    omega
  · intro h
    -- In both cases the slot holds a block if and only if there is one with the number.
    have hsame : slot id < g.size ↔ id < g.size := by
      rcases h with hid | hempty
      · rw [slot_of_lt hid]
      · omega
    refine ⟨isSome_block?_iff.trans hsame, fun b hb => ?_, isSome_concept?_iff.trans hsame,
      isSome_line?_iff, successors_of_size_le, hasEdge_of_size_le⟩
    have hlt := hsame.mp (isSome_block?_iff.mp (by rw [hb]; rfl))
    rw [id_of_getElem? hids hb, slot_of_lt (by omega)]

/-- **Which numbers are known.**  Let a graph come of any changes that add fewer blocks than there
are slots.  For every number, its line is known if there is such a block, and otherwise nothing
follows it and no edge leads from it or to it.  Its block and its concept are those of its slot.  So
all answers agree on whether there is a block with the number, unless it lies beyond the slots and
its own slot holds a block, and then they do not. -/
theorem lookups_agree (cs : List Change) (hfew : (additions cs).length < slotCount - 1) (id : Nat) :
    let g := ofChanges cs
    ((g.conceptGraph.line? id).isSome = true ↔ id < g.size) ∧
    (g.size ≤ id →
      g.successors id = [] ∧ ∀ v, g.hasEdge id v = false ∧ g.hasEdge v id = false) ∧
    g.block? id = g.block? (slot id) ∧
    g.conceptGraph.concept? id = g.conceptGraph.concept? (slot id) ∧
    (g.AgreesAt id ↔ id < slotCount ∨ g.size ≤ slot id) := by
  have h := records_ofChanges cs
  have hsize : (ofChanges cs).size < slotCount := by
    rw [h.size_eq]
    omega
  refine ⟨isSome_line?_iff, fun hid => ⟨successors_of_size_le hid, hasEdge_of_size_le hid⟩, ?_, ?_,
    agreesAt_iff h.ids_eq hsize⟩
  · unfold block?
    rw [slot_slot]
  · unfold ConceptGraph.concept?
    rw [slot_slot]

/-- The last slot is known not to hold a block, and so is the number after it if a slot is free. -/
theorem lookups_agree_last :
    (additions entangled).length < slotCount - 1 ∧
    (ofChanges entangled).AgreesAt (slotCount - 1) ∧
    (ofChanges entangled).AgreesAt (slotCount + 2) ∧
    ¬ (ofChanges entangled).AgreesAt (slotCount + 1) := by
  have hfew : (additions entangled).length < slotCount - 1 := by decide
  have hagree : ∀ id, (ofChanges entangled).AgreesAt id ↔
      id < slotCount ∨ (ofChanges entangled).size ≤ slot id :=
    fun id => (lookups_agree entangled hfew id).2.2.2.2
  exact ⟨hfew, (hagree _).mpr (by decide), (hagree _).mpr (by decide),
    fun h => absurd ((hagree _).mp h) (by decide)⟩

/-- With one block, the first number beyond the slots finds this block and its concept, although no
line is known for it. -/
theorem lookups_disagree :
    let g := ofChanges [.add .forLoop 1]
    (additions [.add .forLoop 1]).length < slotCount - 1 ∧ ¬ slotCount < g.size ∧
    g.block? slotCount = some ⟨0, .forLoop, 1⟩ ∧
    g.conceptGraph.concept? slotCount = some .forLoop ∧
    g.conceptGraph.line? slotCount = none ∧ ¬ g.AgreesAt slotCount := by
  refine ⟨by decide, by decide, by decide, by decide, by decide, fun h => ?_⟩
  have hfound := h.isSome_block?.mp (by decide)
  exact absurd hfound (by decide)

end FlowGraph

end StructuralGrading
