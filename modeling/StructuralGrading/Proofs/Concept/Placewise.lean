import StructuralGrading.Proofs.Concept.Matching
import StructuralGrading.Proofs.Order.Extensional

/-! # Comparing place by place

Two graphs are compared as sets: of placements, and of relationships.  That is the same as going
through the places of both at once, and turning a comparison round only swaps what is missing and
what is extra.

* `ConceptGraph.agreements`: the number of places at which two graphs agree;
* `Comparison.matchCount_placements`: it is the number of matching placements;
* `Comparison.IsPlacewise`: what a comparison tells, in terms of places;
* `Comparison.compare_placewise`: every comparison tells this, and so does its reverse. -/

namespace StructuralGrading

/-! ### Orders -/

instance : Std.TransOrd Concept :=
  inferInstanceAs (Std.TransCmp (compareLex (compareOn fun c : Concept => c.key.1)
    (compareOn fun c : Concept => c.key.2)))

instance : Std.TransOrd Relationship :=
  inferInstanceAs (Std.TransCmp (compareLex (compareOn Relationship.source)
    (compareOn Relationship.target)))

/-- By number, then by concept. -/
instance : Ord Placement where
  compare p q := (compare p.id q.id).then (compare p.concept q.concept)

/-! ### Places -/

namespace ConceptGraph

/-- The number of places at which two graphs have the same concept. -/
def agreements (g h : ConceptGraph) : Nat :=
  (g.concepts.zip h.concepts).countP fun cs => cs.1 = cs.2

variable {g h : ConceptGraph}

theorem length_placements (g : ConceptGraph) : g.placements.length = g.size := by
  rw [placements, List.length_map, List.length_zipIdx, concepts, List.length_map, size]

theorem map_id_placements (g : ConceptGraph) : g.placements.map (·.id) = List.range g.size := by
  have hids : g.concepts.zipIdx.map Prod.snd = List.range g.size := by
    rw [List.zipIdx_map_snd, List.range_eq_range', concepts, List.length_map, size]
  rw [placements, List.map_map, ← hids]
  rfl

theorem pairwise_id_placements (g : ConceptGraph) :
    g.placements.Pairwise fun p q => p.id < q.id := by
  have hids : (g.placements.map (·.id)).Pairwise (· < ·) := by
    rw [map_id_placements]
    exact List.pairwise_lt_range
  exact List.pairwise_map.mp hids

theorem pairwise_placements (g : ConceptGraph) :
    g.placements.Pairwise (compare · · = .lt) := by
  refine g.pairwise_id_placements.imp ?_
  intro p q hpq
  show (compare p.id q.id).then (compare p.concept q.concept) = .lt
  rw [Nat.compare_eq_lt.mpr hpq]
  rfl

theorem nodup_placements (g : ConceptGraph) : g.placements.Nodup := by
  refine g.pairwise_id_placements.imp ?_
  rintro p q hpq rfl
  exact Nat.lt_irrefl p.id hpq

theorem pairwise_relationships (g : ConceptGraph) :
    g.relationships.Pairwise (compare · · = .lt) := Sorted.pairwise_ofList _

theorem nodup_relationships (g : ConceptGraph) : g.relationships.Nodup :=
  Sorted.nodup_of_pairwise g.pairwise_relationships

theorem line?_isSome_of_mem {p : Placement} (hp : p ∈ g.placements) :
    (g.line? p.id).isSome = true := by
  have hid := (List.getElem?_eq_some_iff.mp (mem_placements.mp hp)).1
  rw [concepts, List.length_map] at hid
  rw [line?, List.getElem?_map, List.getElem?_eq_getElem hid]
  rfl

end ConceptGraph

namespace Comparison

/-! ### Matches -/

section lists

variable {β : Type} [DecidableEq β] {xs ys : List β}

theorem matchCount_add_length_lacking (xs ys : List β) :
    matchCount xs ys + (lacking xs ys).length = xs.length := by
  have hsplit : xs.length = _ := List.length_eq_length_filter_add fun x => decide (x ∈ ys)
  rw [hsplit, matchCount, lacking]
  simp only [decide_not]

theorem matchCount_comm (hxs : xs.Nodup) (hys : ys.Nodup) :
    matchCount xs ys = matchCount ys xs := by
  have hperm : (xs.filter (· ∈ ys)).Perm (ys.filter (· ∈ xs)) := by
    rw [List.perm_ext_iff_of_nodup (hxs.filter _) (hys.filter _)]
    intro x
    simp [and_comm]
  exact hperm.length_eq

end lists

/-- Going through the places of a list from `k` on, with another list at hand, finds the members
that agree. -/
theorem countP_zipIdx {β : Type} [DecidableEq β] (ys : List β) : ∀ (xs : List β) (k : Nat),
    (xs.zipIdx k).countP (fun p => ys[p.2]? = some p.1) =
      (xs.zip (ys.drop k)).countP fun p => p.1 = p.2
  | [], k => by simp
  | x :: xs, k => by
      rw [List.zipIdx_cons, List.countP_cons, countP_zipIdx ys xs (k + 1)]
      rcases Nat.lt_or_ge k ys.length with hk | hk
      · rw [List.drop_eq_getElem_cons hk, List.zip_cons_cons, List.countP_cons]
        simp [hk, eq_comm]
      · rw [List.drop_of_length_le hk, List.drop_of_length_le (by omega)]
        simp [hk]

theorem matchCount_placements (g h : ConceptGraph) :
    matchCount g.placements h.placements = g.agreements h := by
  have hmem : ∀ p : Concept × Nat,
      decide ((⟨p.2, p.1⟩ : Placement) ∈ h.placements) = decide (h.concepts[p.2]? = some p.1) :=
    fun p => decide_eq_decide.mpr ConceptGraph.mem_placements
  have hcount := countP_zipIdx h.concepts g.concepts 0
  simp only [← hmem, List.drop_zero] at hcount
  rw [matchCount, ← List.countP_eq_length_filter, ConceptGraph.agreements, ← hcount]
  exact List.countP_map

theorem agreements_comm (g h : ConceptGraph) : g.agreements h = h.agreements g := by
  rw [← matchCount_placements, ← matchCount_placements]
  exact matchCount_comm g.nodup_placements h.nodup_placements

theorem agreements_add_length_lacking (g h : ConceptGraph) :
    g.agreements h + (lacking g.placements h.placements).length = g.size := by
  rw [← matchCount_placements, matchCount_add_length_lacking, ConceptGraph.length_placements]

theorem mem_lacking_placements {g h : ConceptGraph} {id : Nat} {x : Concept} :
    ⟨id, x⟩ ∈ lacking g.placements h.placements ↔
      g.concepts[id]? = some x ∧ h.concepts[id]? ≠ some x := by
  rw [mem_lacking, ConceptGraph.mem_placements, ConceptGraph.mem_placements]

/-- What a graph has and another one lacks stands at the places at which they differ. -/
theorem map_id_lacking (g h : ConceptGraph) :
    (lacking g.placements h.placements).map (·.id) =
      (List.range g.size).filter fun id => g.concepts[id]? ≠ h.concepts[id]? := by
  rw [← g.map_id_placements, List.filter_map, lacking]
  congr 1
  apply List.filter_congr
  rintro ⟨id, x⟩ hmem
  have hx := ConceptGraph.mem_placements.mp hmem
  simp [ConceptGraph.mem_placements, hx, eq_comm]

/-! ### Lines -/

theorem lookup_linesOf (g : ConceptGraph) (id : Nat) : ∀ ps : List Placement,
    (linesOf g ps).lookup id = if id ∈ ps.map (·.id) then g.line? id else none
  | [] => rfl
  | p :: ps => by
      have ih := lookup_linesOf g id ps
      have hcons : linesOf g (p :: ps) =
          ((g.line? p.id).map fun line => (p.id, line)).toList ++ linesOf g ps := by
        rw [linesOf, List.filterMap_cons]
        cases g.line? p.id <;> rfl
      by_cases hid : id = p.id
      · subst hid
        rw [hcons, List.map_cons, if_pos List.mem_cons_self]
        cases hline : g.line? p.id with
        | none => simp [ih, hline]
        | some line => simp
      · have hmem : id ∈ (p :: ps).map (·.id) ↔ id ∈ ps.map (·.id) := by simp [hid]
        rw [hcons, if_congr hmem rfl rfl, ← ih]
        cases g.line? p.id with
        | none => rfl
        | some line =>
            have hne : (id == p.id) = false := beq_false_of_ne hid
            simp [List.lookup_cons, hne]

theorem mem_map_id_iff {id : Nat} {ps : List Placement} :
    id ∈ ps.map (·.id) ↔ ∃ x, ⟨id, x⟩ ∈ ps := by
  rw [List.mem_map]
  constructor
  · rintro ⟨p, hp, rfl⟩
    exact ⟨p.concept, hp⟩
  · rintro ⟨x, hx⟩
    exact ⟨_, hx, rfl⟩

/-- The placements of a graph that another one lacks have their lines, and no other number has. -/
theorem isSome_lookup_linesOf (g h : ConceptGraph) (id : Nat) :
    ((linesOf g (lacking g.placements h.placements)).lookup id).isSome = true ↔
      ∃ x, ⟨id, x⟩ ∈ lacking g.placements h.placements := by
  rw [lookup_linesOf, ← mem_map_id_iff]
  split
  case isTrue hid =>
    obtain ⟨x, hx⟩ := mem_map_id_iff.mp hid
    have hsome := ConceptGraph.line?_isSome_of_mem (mem_lacking.mp hx).1
    exact ⟨fun _ => hid, fun _ => hsome⟩
  case isFalse hid =>
    exact ⟨fun h => absurd h Bool.false_ne_true, fun h => absurd h hid⟩

theorem lookup_linesOf_of_mem {g : ConceptGraph} {ps : List Placement} {p : Placement}
    (hp : p ∈ ps) : (linesOf g ps).lookup p.id = g.line? p.id := by
  rw [lookup_linesOf, if_pos (List.mem_map_of_mem hp)]

/-! ### What a comparison tells -/

/-- What a comparison of two graphs tells, in terms of their places. -/
structure IsPlacewise (c : Comparison) (student reference : ConceptGraph) : Prop where
  /-- A node is missing where the student lacks the concept that the reference has. -/
  mem_missingNodes : ∀ (id : Nat) (x : Concept), ⟨id, x⟩ ∈ c.missingNodes ↔
    reference.concepts[id]? = some x ∧ student.concepts[id]? ≠ some x
  mem_extraNodes : ∀ (id : Nat) (x : Concept), ⟨id, x⟩ ∈ c.extraNodes ↔
    student.concepts[id]? = some x ∧ reference.concepts[id]? ≠ some x
  mem_missingEdges : ∀ r : Relationship, r ∈ c.missingEdges ↔
    r ∈ reference.relationships ∧ r ∉ student.relationships
  mem_extraEdges : ∀ r : Relationship, r ∈ c.extraEdges ↔
    r ∈ student.relationships ∧ r ∉ reference.relationships
  /-- Everything is listed in increasing order, so nothing is listed twice. -/
  pairwise_missingNodes : c.missingNodes.Pairwise (Ord.compare · · = .lt)
  pairwise_extraNodes : c.extraNodes.Pairwise (Ord.compare · · = .lt)
  pairwise_missingEdges : c.missingEdges.Pairwise (Ord.compare · · = .lt)
  pairwise_extraEdges : c.extraEdges.Pairwise (Ord.compare · · = .lt)
  /-- The nodes that count as matched are the places of agreement. -/
  nodeSimilarity_eq : c.nodeSimilarity =
    Score.ratio (student.agreements reference) reference.size
  agreements_add_missing : student.agreements reference + c.missingNodes.length = reference.size
  agreements_add_extra : student.agreements reference + c.extraNodes.length = student.size
  /-- The edges that count as matched are those that are neither missing nor extra. -/
  edgeSimilarity_eq : ∃ matched : Nat,
    c.edgeSimilarity = Score.ratio matched reference.relationships.length ∧
    matched + c.missingEdges.length = reference.relationships.length ∧
    matched + c.extraEdges.length = student.relationships.length
  isSome_missingLine? : ∀ id : Nat, (c.missingLine? id).isSome = true ↔
    ∃ x, ⟨id, x⟩ ∈ c.missingNodes
  missingLine?_eq : ∀ p ∈ c.missingNodes, c.missingLine? p.id = reference.line? p.id
  isSome_extraLine? : ∀ id : Nat, (c.extraLine? id).isSome = true ↔
    ∃ x, ⟨id, x⟩ ∈ c.extraNodes
  extraLine?_eq : ∀ p ∈ c.extraNodes, c.extraLine? p.id = student.line? p.id

/-- What the one comparison says is missing, the other says is extra. -/
structure IsReverseOf (d c : Comparison) : Prop where
  missingNodes : d.missingNodes = c.extraNodes
  extraNodes : d.extraNodes = c.missingNodes
  missingEdges : d.missingEdges = c.extraEdges
  extraEdges : d.extraEdges = c.missingEdges
  missingLine? : ∀ id : Nat, d.missingLine? id = c.extraLine? id
  extraLine? : ∀ id : Nat, d.extraLine? id = c.missingLine? id
  isExact : d.isExact = c.isExact

theorem isPlacewise_compare (weights : Weights Float) (student reference : ConceptGraph) :
    (compare weights student reference).IsPlacewise student reference where
  mem_missingNodes := fun _ _ => mem_lacking_placements
  mem_extraNodes := fun _ _ => mem_lacking_placements
  mem_missingEdges := fun _ => mem_lacking
  mem_extraEdges := fun _ => mem_lacking
  pairwise_missingNodes := reference.pairwise_placements.filter _
  pairwise_extraNodes := student.pairwise_placements.filter _
  pairwise_missingEdges := reference.pairwise_relationships.filter _
  pairwise_extraEdges := student.pairwise_relationships.filter _
  nodeSimilarity_eq := by
    rw [← matchCount_placements, ← reference.length_placements]
    rfl
  agreements_add_missing := by
    rw [agreements_comm]
    exact agreements_add_length_lacking reference student
  agreements_add_extra := agreements_add_length_lacking student reference
  edgeSimilarity_eq := by
    have hcomm := matchCount_comm student.nodup_relationships reference.nodup_relationships
    refine ⟨matchCount student.relationships reference.relationships, rfl, ?_, ?_⟩
    · rw [hcomm]
      exact matchCount_add_length_lacking _ _
    · exact matchCount_add_length_lacking _ _
  isSome_missingLine? := isSome_lookup_linesOf reference student
  missingLine?_eq := fun _ hp => lookup_linesOf_of_mem hp
  isSome_extraLine? := isSome_lookup_linesOf student reference
  extraLine?_eq := fun _ hp => lookup_linesOf_of_mem hp

theorem isReverseOf_compare (weights : Weights Float) (student reference : ConceptGraph) :
    (compare weights reference student).IsReverseOf (compare weights student reference) where
  missingNodes := rfl
  extraNodes := rfl
  missingEdges := rfl
  extraEdges := rfl
  missingLine? := fun _ => rfl
  extraLine? := fun _ => rfl
  isExact := by
    rw [Bool.eq_iff_iff, isExact_iff, isExact_iff]
    constructor
    · rintro ⟨hmissing, hextra, hmissingEdges, hextraEdges⟩
      exact ⟨hextra, hmissing, hextraEdges, hmissingEdges⟩
    · rintro ⟨hmissing, hextra, hmissingEdges, hextraEdges⟩
      exact ⟨hextra, hmissing, hextraEdges, hmissingEdges⟩

/-- **Comparing goes place by place.**  What any comparison tells of its graphs is what going
through their places at once tells.  The reverse comparison finds as many places of agreement, and
swaps what is missing and what is extra. -/
theorem compare_placewise (weights : Weights Float) (student reference : ConceptGraph) :
    (compare weights student reference).IsPlacewise student reference ∧
    (compare weights reference student).IsReverseOf (compare weights student reference) ∧
    reference.agreements student = student.agreements reference :=
  ⟨isPlacewise_compare weights student reference, isReverseOf_compare weights student reference,
    agreements_comm reference student⟩

end Comparison

end StructuralGrading
