import Mathlib.Algebra.GroupWithZero.Nat
import Mathlib.Data.List.Induction
import Mathlib.Data.List.Nodup
import StructuralGrading.Flow.Graph
import StructuralGrading.Proofs.Order.Extensional

/-! # Changes to a flow graph

A flow graph grows by blocks and by edges, in any order.  What it holds can be told from the
changes: a block for every addition, and every pair of slots that was connected, once, where it was
connected first.

* `FlowGraph.Change`, `FlowGraph.ofChanges`: one change, and the graph that comes of several;
* `Change.connection?`, `FlowGraph.connections`: which pairs of slots changes connect;
* `FlowGraph.Records`: what a graph has to do with the changes it comes from, which one more change
  keeps (`Records.change`);
* `FlowGraph.mem_successors_iff`, `FlowGraph.edgeCount_eq_sum`: the edges by their sources;
* `FlowGraph.ofChanges_store`: all of this together. -/

namespace StructuralGrading

namespace FlowGraph

/-! ### Changes -/

/-- A change to a flow graph. -/
inductive Change where
  /-- A block is added. -/
  | add (label : BlockLabel) (line : Nat)
  /-- Two blocks are connected. -/
  | connect (source target : Nat)
  deriving DecidableEq, Repr

namespace Change

/-- The label and the line of the block that a change adds. -/
def addition? : Change → Option (BlockLabel × Nat)
  | add label line => some (label, line)
  | connect .. => none

/-- The slots that a change connects in a graph of the given size.  A slot without a block is not
connected to anything. -/
def connection? (size : Nat) : Change → Option (Nat × Nat)
  | add .. => none
  | connect source target =>
    if slot source < size ∧ slot target < size then some (slot source, slot target) else none

end Change

/-- What a change makes of a graph.  A connection that cannot be made changes nothing. -/
def change (g : FlowGraph) : Change → FlowGraph
  | .add label line => g.addBlock label line
  | .connect source target => (g.connect? source target).getD g

/-- The graph that comes of changes, one after the other. -/
def ofChanges (cs : List Change) : FlowGraph := cs.foldl change empty

/-- What changes add. -/
def additions (cs : List Change) : List (BlockLabel × Nat) := cs.filterMap Change.addition?

/-- The slots that changes connect in a graph that has the given size at first, as often as they
do. -/
def connectionsFrom : Nat → List Change → List (Nat × Nat)
  | _, [] => []
  | size, c :: cs =>
    (c.connection? size).toList ++ connectionsFrom (size + c.addition?.toList.length) cs

/-- The slots that changes to the graph without blocks connect, as often as they do. -/
def connections (cs : List Change) : List (Nat × Nat) := connectionsFrom 0 cs

section equations

variable (cs : List Change) (c : Change)

theorem additions_concat : additions (cs ++ [c]) = additions cs ++ c.addition?.toList := by
  unfold additions
  rw [List.filterMap_append]
  cases h : c.addition? <;> simp [h]

theorem connectionsFrom_concat : ∀ (size : Nat) (cs : List Change),
    connectionsFrom size (cs ++ [c]) =
      connectionsFrom size cs ++ (c.connection? (size + (additions cs).length)).toList
  | size, [] => by simp [connectionsFrom, additions]
  | size, d :: cs => by
      have hlength : size + d.addition?.toList.length + (additions cs).length =
          size + (additions (d :: cs)).length := by
        unfold additions
        cases h : d.addition? <;> simp [h]
        omega
      rw [List.cons_append, connectionsFrom, connectionsFrom_concat _ cs, hlength, connectionsFrom,
        List.append_assoc]

theorem connections_concat :
    connections (cs ++ [c]) = connections cs ++ (c.connection? (additions cs).length).toList := by
  have h := connectionsFrom_concat c 0 cs
  rwa [Nat.zero_add] at h

theorem ofChanges_concat : ofChanges (cs ++ [c]) = (ofChanges cs).change c := by
  simp [ofChanges]

variable {g : FlowGraph} {source target : Nat}

theorem change_connect_of_lt (h : slot source < g.size ∧ slot target < g.size) :
    g.change (.connect source target) = g.link (slot source) (slot target) := by
  simp [change, connect?, h]

theorem change_connect_of_not_lt (h : ¬(slot source < g.size ∧ slot target < g.size)) :
    g.change (.connect source target) = g := by
  simp [change, connect?, if_neg h]

end equations

/-! ### Edges by their sources -/

section successors

variable {g : FlowGraph} {u v : Nat}

/-- Whether both ends of every edge are blocks. -/
def InRange (g : FlowGraph) : Prop := ∀ e ∈ g.edges, e.1 < g.size ∧ e.2 < g.size

theorem hasEdge_iff (h : g.InRange) : g.hasEdge u v = true ↔ (u, v) ∈ g.edges := by
  simp only [hasEdge, Bool.and_eq_true, decide_eq_true_eq]
  exact ⟨fun hall => hall.2, fun hmem => ⟨h _ hmem, hmem⟩⟩

theorem mem_successors_iff (h : g.InRange) : v ∈ g.successors u ↔ (u, v) ∈ g.edges := by
  unfold successors
  split
  · simp [(Sorted.perm_sort _).mem_iff]
  · rename_i hu
    have hnot : (u, v) ∉ g.edges := fun hmem => hu (h _ hmem).1
    simp [hnot]

/-- No successor is told twice, since no edge is stored twice. -/
theorem pairwise_successors (hnodup : g.edges.Nodup) (u : Nat) :
    (g.successors u).Pairwise (· < ·) := by
  unfold successors
  split
  · have htargets : ((g.edges.filter (·.1 == u)).map (·.2)).Nodup := by
      refine List.Nodup.map_on ?_ (hnodup.filter _)
      intro e he f hf hef
      have hsource : e.1 = f.1 := by simp_all [List.mem_filter]
      exact Prod.ext hsource hef
    exact (Sorted.pairwise_sort_of_nodup htargets).imp Nat.compare_eq_lt.mp
  · exact .nil

theorem perm_flatMap_successors (h : g.InRange) (hnodup : g.edges.Nodup) :
    ((List.range g.size).flatMap fun u => (g.successors u).map (u, ·)).Perm g.edges := by
  have hpairs : ((List.range g.size).flatMap fun u => (g.successors u).map (u, ·)).Nodup := by
    refine List.nodup_flatMap.mpr ⟨fun u _ => ?_, ?_⟩
    · have hdistinct : (g.successors u).Nodup := (pairwise_successors hnodup u).imp Nat.ne_of_lt
      exact hdistinct.map fun v w hvw => (Prod.mk.inj hvw).2
    · refine List.nodup_range.imp fun {u v} huv => ?_
      intro e heu hev
      obtain ⟨x, -, rfl⟩ := List.mem_map.mp heu
      obtain ⟨y, -, hy⟩ := List.mem_map.mp hev
      exact huv (Prod.mk.inj hy).1.symm
  refine (List.perm_ext_iff_of_nodup hpairs hnodup).mpr fun ⟨u, v⟩ => ?_
  simp only [List.mem_flatMap, List.mem_range, List.mem_map, mem_successors_iff h]
  constructor
  · rintro ⟨x, -, y, hmem, heq⟩
    rwa [← heq]
  · intro hmem
    exact ⟨u, (h _ hmem).1, v, hmem, rfl⟩

theorem edgeCount_eq_sum (h : g.InRange) (hnodup : g.edges.Nodup) :
    g.edgeCount = ((List.range g.size).map fun u => (g.successors u).length).sum := by
  have hlength := (perm_flatMap_successors h hnodup).length_eq
  rw [List.length_flatMap] at hlength
  simp only [List.length_map] at hlength
  exact hlength.symm

end successors

/-! ### What a graph records -/

/-- What a graph has to do with the changes that it comes from. -/
structure Records (cs : List Change) (g : FlowGraph) : Prop where
  /-- There is a block for every addition. -/
  blocks_eq : g.blocks = (additions cs).mapIdx fun i a => ⟨i, a.1, a.2⟩
  inRange : g.InRange
  /-- There is an edge for every connection. -/
  mem_edges_iff : ∀ e, e ∈ g.edges ↔ e ∈ connections cs
  /-- Edges are in the order of the first connections. -/
  increasing : g.edges.Pairwise fun e f => (connections cs).idxOf e < (connections cs).idxOf f

namespace Records

variable {cs : List Change} {g : FlowGraph}

theorem size_eq (h : Records cs g) : g.size = (additions cs).length := by
  unfold size
  rw [h.blocks_eq, List.length_mapIdx]

theorem nodup_edges (h : Records cs g) : g.edges.Nodup := by
  refine h.increasing.imp ?_
  rintro e f hlt rfl
  exact Nat.lt_irrefl _ hlt

/-- A change that neither adds nor connects anything is not seen. -/
theorem unchanged (h : Records cs g) {c : Change} (hadd : c.addition? = none)
    (hc : c.connection? g.size = none) : Records (cs ++ [c]) g := by
  have hadditions : additions (cs ++ [c]) = additions cs := by simp [additions_concat, hadd]
  have hconnections : connections (cs ++ [c]) = connections cs := by
    simp [connections_concat, ← h.size_eq, hc]
  obtain ⟨hblocks, hin, hmem, hfirst⟩ := h
  exact ⟨by rwa [hadditions], hin, by rwa [hconnections], by rwa [hconnections]⟩

theorem addBlock (h : Records cs g) (label : BlockLabel) (line : Nat) :
    Records (cs ++ [.add label line]) (g.addBlock label line) := by
  have hconnections : connections (cs ++ [.add label line]) = connections cs := by
    simp [connections_concat, Change.connection?]
  refine ⟨?_, fun e he => ?_, ?_, ?_⟩
  · rw [additions_concat]
    simp [FlowGraph.addBlock, h.blocks_eq, h.size_eq, Change.addition?, List.mapIdx_append]
  · obtain ⟨hsource, htarget⟩ := h.inRange e he
    rw [size_addBlock]
    omega
  · rw [hconnections]
    exact h.mem_edges_iff
  · rw [hconnections]
    exact h.increasing

/-- A connection goes to the end of the edges if it is the first of its kind. -/
theorem link (h : Records cs g) {source target : Nat} {c : Change}
    (hadd : c.addition? = none) (hc : c.connection? g.size = some (source, target))
    (hin : source < g.size ∧ target < g.size) : Records (cs ++ [c]) (g.link source target) := by
  have hadditions : additions (cs ++ [c]) = additions cs := by simp [additions_concat, hadd]
  have hconnections : connections (cs ++ [c]) = connections cs ++ [(source, target)] := by
    simp [connections_concat, ← h.size_eq, hc]
  have hold : ∀ e ∈ g.edges,
      (connections (cs ++ [c])).idxOf e = (connections cs).idxOf e := fun e he => by
    rw [hconnections, List.idxOf_append_of_mem ((h.mem_edges_iff e).mp he)]
  have hkept : g.edges.Pairwise fun e f =>
      (connections (cs ++ [c])).idxOf e < (connections (cs ++ [c])).idxOf f :=
    h.increasing.imp_of_mem fun he hf hlt => by rwa [hold _ he, hold _ hf]
  refine ⟨?_, fun e he => ?_, fun e => ?_, ?_⟩
  · rw [hadditions, ← h.blocks_eq]
    unfold FlowGraph.link
    split <;> rfl
  · rw [size_link]
    rcases mem_edges_link.mp he with he | rfl
    · exact h.inRange e he
    · exact hin
  · rw [mem_edges_link, h.mem_edges_iff, hconnections]
    simp
  · unfold FlowGraph.link
    split
    · exact hkept
    · rename_i hnew
      refine List.pairwise_append.mpr ⟨hkept, List.pairwise_singleton _ _, ?_⟩
      intro e he f hf
      obtain rfl := List.mem_singleton.mp hf
      have hfirst : (source, target) ∉ connections cs := fun hmem =>
        hnew ((h.mem_edges_iff _).mpr hmem)
      rw [hold e he, hconnections, List.idxOf_append_of_notMem hfirst]
      have hlt := List.idxOf_lt_length_of_mem ((h.mem_edges_iff e).mp he)
      omega

theorem ids_eq (h : Records cs g) : g.blocks.map (·.id) = List.range g.size := by
  rw [h.size_eq, h.blocks_eq]
  exact List.ext_getElem (by simp) fun i hi hi' => by simp

theorem change (h : Records cs g) (c : Change) : Records (cs ++ [c]) (g.change c) := by
  cases c with
  | add label line => exact h.addBlock label line
  | connect source target =>
      by_cases hin : slot source < g.size ∧ slot target < g.size
      · rw [change_connect_of_lt hin]
        exact h.link rfl (if_pos hin) hin
      · rw [change_connect_of_not_lt hin]
        exact h.unchanged rfl (if_neg hin)

end Records

theorem records_ofChanges (cs : List Change) : Records cs (ofChanges cs) := by
  induction cs using List.reverseRecOn with
  | nil => exact ⟨rfl, nofun, fun e => Iff.rfl, .nil⟩
  | append_singleton cs c ih =>
      rw [ofChanges_concat]
      exact ih.change c

/-! ### The store of a graph -/

/-- **What a flow graph holds.** Let a graph come of any changes that add fewer blocks than there
are slots.  Then every block has its place for a number, and the label and the line that it was
added with.  A connection cannot be made if one of its slots has no block, and then nothing changes.
Every edge joins two blocks; the edges are the connections that were made, each once, in the order
in which they were first made.  There is an edge between two blocks if and only if it is one of the
edges, and then the second block is a successor of the first one; successors increase, and there are
as many edges as there are successors of all blocks. -/
theorem ofChanges_store (cs : List Change) (hfew : (additions cs).length < slotCount - 1) :
    let g := ofChanges cs
    (∀ i : Nat, g.blocks[i]? = (additions cs)[i]?.map fun a => (⟨i, a.1, a.2⟩ : Block)) ∧
    (∀ i, i < g.size → g.block? i = g.blocks[i]?) ∧
    (∀ u v, (g.connect? u v = none ↔ g.size ≤ slot u ∨ g.size ≤ slot v) ∧
      (g.connect? u v = none → ofChanges (cs ++ [.connect u v]) = g)) ∧
    (∀ e ∈ g.edges, e.1 < g.size ∧ e.2 < g.size) ∧
    (∀ e, e ∈ g.edges ↔ e ∈ connections cs) ∧ g.edges.Nodup ∧
    (g.edges.Pairwise fun e f => (connections cs).idxOf e < (connections cs).idxOf f) ∧
    (∀ u v, (g.hasEdge u v = true ↔ (u, v) ∈ g.edges) ∧
      ((u, v) ∈ g.edges ↔ v ∈ g.successors u)) ∧
    (∀ u, (g.successors u).Pairwise (· < ·)) ∧
    g.edgeCount = (g.blocks.map fun b => (g.successors b.id).length).sum := by
  have h := records_ofChanges cs
  have hsize : (ofChanges cs).size < slotCount := by
    rw [h.size_eq]
    omega
  refine ⟨fun i => ?_, fun i hi => ?_, fun u v => ⟨?_, fun hnone => ?_⟩, h.inRange,
    h.mem_edges_iff, h.nodup_edges, h.increasing,
    fun u v => ⟨hasEdge_iff h.inRange, (mem_successors_iff h.inRange).symm⟩,
    pairwise_successors h.nodup_edges, ?_⟩
  · rw [h.blocks_eq, List.getElem?_mapIdx]
  · unfold block?
    rw [slot_of_lt (Nat.lt_trans hi hsize)]
  · unfold connect?
    split <;> grind
  · rw [ofChanges_concat, FlowGraph.change, hnone]
    rfl
  · have hmap : (ofChanges cs).blocks.map (fun b => ((ofChanges cs).successors b.id).length) =
        ((ofChanges cs).blocks.map (·.id)).map fun u => ((ofChanges cs).successors u).length := by
      rw [List.map_map]
      rfl
    rw [hmap, h.ids_eq]
    exact edgeCount_eq_sum h.inRange h.nodup_edges

/-- A loop in a function: it is connected too early, then twice, once through a slot beyond the
last one, and then to itself and back. -/
def entangled : List Change :=
  [.add (.function "f") 1, .connect 0 1, .add .forLoop 2, .connect 0 1, .connect 1 1,
    .connect slotCount 1, .connect 1 0]

theorem ofChanges_store_entangled :
    (additions entangled).length < slotCount - 1 ∧
    (ofChanges entangled).edges = [(0, 1), (1, 1), (1, 0)] ∧
    (∀ e, e ∈ (ofChanges entangled).edges ↔ e ∈ [(0, 1), (1, 1), (0, 1), (1, 0)]) ∧
    (ofChanges entangled).edgeCount =
      ((ofChanges entangled).blocks.map fun b =>
        ((ofChanges entangled).successors b.id).length).sum := by
  have hfew : (additions entangled).length < slotCount - 1 := by decide
  obtain ⟨-, -, -, -, hmem, -, -, -, -, hcount⟩ := ofChanges_store entangled hfew
  exact ⟨hfew, by decide, hmem, hcount⟩

end FlowGraph

end StructuralGrading
