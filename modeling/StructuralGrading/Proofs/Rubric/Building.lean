import StructuralGrading.Proofs.Concept.Labels
import StructuralGrading.Proofs.Order.Extensional
import StructuralGrading.Rubric.Reader

/-! # Building a rubric item by item

A rubric keeps its items and, beside them, the concepts of the labels that name one.  Adding an item
updates both, and they never drift apart.

* `Rubric.Reachable`: the rubrics that can be built or read;
* `Rubric.withItem_ofItems`: adding an item agrees with building all at once;
* `Rubric.Reachable.eq_ofItems`: so every rubric is the one with its items;
* `Rubric.get?_items_withItems`: of several items under one label the last one stays;
* `Rubric.reachable_agrees`: what follows for concepts, unknown labels, points and scores. -/

namespace StructuralGrading.Rubric

/-! ### Histories -/

/-- Adds items one after the other. -/
def withItems (r : Rubric) (es : List (String × RubricItem)) : Rubric :=
  es.foldl (fun r e => r.withItem e.1 e.2) r

/-- The last of the items that are added under a label. -/
def lastItem? (es : List (String × RubricItem)) (label : String) : Option RubricItem :=
  es.reverse.lookup label

/-- The rubrics that come from the empty one, or from one that was read, by adding items. -/
inductive Reachable : Rubric → Prop
  | empty : Reachable .empty
  | read {text : String} {r : Rubric} : ofText text = .ok r → Reachable r
  | add {r : Rubric} (label : String) (item : RubricItem) : Reachable r →
      Reachable (r.withItem label item)

/-! ### Items and concepts -/

theorem get?_concepts_ofItems (items : SortedMap String RubricItem) (label : String) :
    (ofItems items).concepts.get? label = (items.get? label).bind fun _ => conceptOf? label :=
  SortedMap.get?_filterMap items _ label

theorem get?_concepts_withItem (r : Rubric) (label : String) (item : RubricItem) (l : String) :
    (r.withItem label item).concepts.get? l =
      if l = label then conceptOf? label else r.concepts.get? l := by
  unfold withItem
  cases conceptOf? label with
  | none => exact SortedMap.get?_erase r.concepts label l
  | some c => exact SortedMap.get?_insert r.concepts label c l

theorem get?_items_withItem (r : Rubric) (label : String) (item : RubricItem) (l : String) :
    (r.withItem label item).items.get? l = if l = label then some item else r.items.get? l :=
  SortedMap.get?_insert r.items label item l

/-- Adding an item to a rubric that was built all at once is building it with the item. -/
theorem withItem_ofItems (items : SortedMap String RubricItem) (label : String)
    (item : RubricItem) :
    (ofItems items).withItem label item = ofItems (items.insert label item) := by
  have hconcepts : ((ofItems items).withItem label item).concepts =
      (ofItems (items.insert label item)).concepts := by
    apply SortedMap.ext_get?
    intro l
    rw [get?_concepts_withItem, get?_concepts_ofItems, get?_concepts_ofItems,
      SortedMap.get?_insert]
    by_cases h : l = label
    · rw [if_pos h, if_pos h, Option.bind_some, h]
    · rw [if_neg h, if_neg h]
  exact congrArg (Rubric.mk (items.insert label item)) hconcepts

variable {r : Rubric}

theorem Reachable.eq_ofItems (h : Reachable r) : r = ofItems r.items := by
  induction h with
  | empty => rfl
  | @read text r htext =>
      unfold ofText at htext
      cases hentries : entriesOfText text with
      | error fault =>
          rw [hentries] at htext
          cases htext
      | ok es =>
          rw [hentries] at htext
          cases htext
          rfl
  | @add r label item _ ih =>
      have hstep := withItem_ofItems r.items label item
      rw [← ih] at hstep
      exact hstep

theorem Reachable.addAll : ∀ (es : List (String × RubricItem)) {r : Rubric}, Reachable r →
    Reachable (r.withItems es)
  | [], _, h => h
  | e :: es, _, h => Reachable.addAll es (h.add e.1 e.2)

/-! ### Order of additions -/

theorem lastItem?_cons (e : String × RubricItem) (es : List (String × RubricItem))
    (label : String) :
    lastItem? (e :: es) label =
      (lastItem? es label).or (if label = e.1 then some e.2 else none) := by
  have hone : [e].lookup label = if label = e.1 then some e.2 else none := by
    rw [List.lookup_cons, List.lookup_nil]
    by_cases h : label = e.1
    · rw [if_pos h, beq_iff_eq.mpr h]
    · rw [if_neg h, beq_false_of_ne h]
  rw [lastItem?, List.reverse_cons, List.lookup_append, hone]
  rfl

/-- Under a label stands the last item that was added under it, or the one that stood there. -/
theorem get?_items_withItems (label : String) : ∀ (es : List (String × RubricItem)) (r : Rubric),
    (r.withItems es).items.get? label = (lastItem? es label).or (r.items.get? label)
  | [], r => rfl
  | e :: es, r => by
      have htail := get?_items_withItems label es (r.withItem e.1 e.2)
      have hcons : r.withItems (e :: es) = (r.withItem e.1 e.2).withItems es := rfl
      rw [hcons, htail, get?_items_withItem, lastItem?_cons, Option.or_assoc]
      by_cases h : label = e.1
      · rw [if_pos h, if_pos h, Option.some_or]
      · rw [if_neg h, if_neg h, Option.none_or]

/-- Only the last item under each label counts. -/
theorem Reachable.withItems_eq (h : Reachable r) {es fs : List (String × RubricItem)}
    (hlast : ∀ label, lastItem? es label = lastItem? fs label) :
    r.withItems es = r.withItems fs := by
  have hitems : (r.withItems es).items = (r.withItems fs).items := by
    apply SortedMap.ext_get?
    intro label
    rw [get?_items_withItems, get?_items_withItems, hlast label]
  rw [(h.addAll es).eq_ofItems, (h.addAll fs).eq_ofItems, hitems]

/-! ### Labels -/

theorem conceptOf?_eq_some_iff {label : String} {c : Concept} :
    conceptOf? label = some c ↔ Concept.ofLabel label = .ok c := by
  rw [conceptOf?, Concept.toOption_ofLabel_eq_some_iff, Concept.ofLabel_eq_ok_iff]

theorem Reachable.concept?_eq_some_iff (h : Reachable r) {label : String} {c : Concept} :
    r.concept? label = some c ↔ label ∈ r.items.keys ∧ Concept.ofLabel label = .ok c := by
  have hconcept : r.concept? label = (r.items.get? label).bind fun _ => conceptOf? label := by
    rw [concept?]
    conv_lhs => rw [h.eq_ofItems]
    exact get?_concepts_ofItems r.items label
  rw [hconcept, Option.bind_eq_some_iff, ← conceptOf?_eq_some_iff, SortedMap.mem_keys_iff,
    SortedMap.contains, Option.isSome_iff_exists, exists_and_right]

theorem Reachable.mem_unknownLabels_iff (h : Reachable r) {label : String} :
    label ∈ r.unknownLabels ↔
      label ∈ r.items.keys ∧ ∀ c, Concept.ofLabel label ≠ .ok c := by
  have habsent : (!r.concepts.contains label) = true ↔ ∀ c, r.concept? label ≠ some c := by
    rw [Bool.not_eq_true', SortedMap.contains, Option.isSome_eq_false_iff,
      Option.isNone_iff_eq_none, Option.eq_none_iff_forall_ne_some]
    rfl
  rw [unknownLabels, List.mem_filter, habsent]
  refine and_congr_right fun hkey => forall_congr' fun c => not_congr ?_
  rw [h.concept?_eq_some_iff]
  exact and_iff_right hkey

theorem pairwise_unknownLabels (r : Rubric) : r.unknownLabels.Pairwise (compare · · = .lt) :=
  r.items.sorted.filter _

/-! ### Agreement -/

/-- **Items and concepts never drift apart.**  In a rubric that was built by any history of
additions, the concepts are those of its labels, the unknown labels are the others, and building
it anew from its items gives it back.  Histories with the same last items lead to one rubric. -/
theorem reachable_agrees {r : Rubric} (h : Reachable r) :
    (∀ label c,
      r.concept? label = some c ↔ label ∈ r.items.keys ∧ Concept.ofLabel label = .ok c) ∧
    (∀ label,
      label ∈ r.unknownLabels ↔
        label ∈ r.items.keys ∧ ∀ c, Concept.ofLabel label ≠ .ok c) ∧
    r.unknownLabels.Pairwise (compare · · = .lt) ∧
    ofItems r.items = r ∧
    ∀ es fs, (∀ label, lastItem? es label = lastItem? fs label) →
      r.withItems es = r.withItems fs ∧
      (r.withItems es).maxPoints = (r.withItems fs).maxPoints ∧
      ∀ g, (r.withItems es).tally g = (r.withItems fs).tally g := by
  refine ⟨fun label c => h.concept?_eq_some_iff, fun label => h.mem_unknownLabels_iff,
    pairwise_unknownLabels r, h.eq_ofItems.symm, ?_⟩
  intro es fs hlast
  have heq : r.withItems es = r.withItems fs := h.withItems_eq hlast
  exact ⟨heq, congrArg maxPoints heq, fun g => by rw [heq]⟩

/-- A rubric with one label that names a concept and one that does not. -/
def loopAndGoto : String := "\x7b\"Concept: For Loop\": [1], \"Concept: Goto\": [2]\x7d"

/-- After a rubric was read, an item that is replaced by a later one leaves no trace. -/
theorem reachable_agrees_replaced : ∃ r, ofText loopAndGoto = .ok r ∧
    r.concept? "Concept: For Loop" = some .forLoop ∧
    "Concept: Goto" ∈ r.unknownLabels ∧
    r.withItems [("Function: f", ⟨3, none⟩), ("Concept: Goto", ⟨4, none⟩),
        ("Function: f", ⟨5, none⟩)] =
      r.withItems [("Concept: Goto", ⟨4, none⟩), ("Function: f", ⟨5, none⟩)] := by
  have hkeys : (ofText loopAndGoto).toOption.map (·.items.keys) =
      some ["Concept: For Loop", "Concept: Goto"] := by decide +kernel
  cases hr : ofText loopAndGoto with
  | error fault =>
      rw [hr] at hkeys
      cases hkeys
  | ok r =>
      rw [hr] at hkeys
      have hlabels : r.items.keys = ["Concept: For Loop", "Concept: Goto"] :=
        Option.some.inj hkeys
      obtain ⟨hconcept, hunknown, -, -, hsame⟩ := reachable_agrees (.read hr)
      refine ⟨r, rfl, (hconcept _ _).mpr ⟨?_, by decide⟩, (hunknown _).mpr ⟨?_, ?_⟩,
        (hsame _ _ ?_).1⟩
      · simp [hlabels]
      · simp [hlabels]
      · intro c hc
        have hgoto : (Concept.ofLabel "Concept: Goto").toOption = none := by decide
        rw [hc] at hgoto
        cases hgoto
      · intro label
        simp only [lastItem?_cons]
        by_cases h : label = "Function: f" <;> simp [h, lastItem?]

end StructuralGrading.Rubric
