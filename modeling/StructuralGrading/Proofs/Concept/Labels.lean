import Mathlib.Data.List.Infix
import StructuralGrading.Written

/-! # Labels name concepts

Every concept has a label of its own, and reading a label back gives the concept.  This holds for
functions with any name, also one that looks like a label.

* `Concept.ofLabel_label`: reading undoes writing;
* `Concept.label_of_ofLabel`: what is read has the text for its label;
* `Concept.ofLabel_eq_ok_iff`: so the two are inverse to each other;
* `Concept.ofJson?_eq_some_iff`: and so are writing a concept as a value and reading it;
* `Concept.label_ofBlock_eq_iff`: the blocks whose concepts have the same label;
* `Concept.labels_faithful`: all of this together. -/

namespace StructuralGrading.Concept

theorem isPrefixOf?_functionHead (name : String) :
    functionHead.toList.isPrefixOf? (functionHead ++ name).toList = some name.toList := by
  rw [List.isPrefixOf?_eq_some_iff_append_eq, String.toList_append]

theorem ofLabel_label : ∀ c : Concept, ofLabel c.label = .ok c
  | function name => by
      have hname : String.ofList name.toList = name := String.ofList_toList
      simp only [ofLabel, label, isPrefixOf?_functionHead, hname]
  | forLoop | whileLoop | ifCondition | conditionalBranch | general => by rfl

theorem label_of_ofLabel {text : String} {c : Concept} (h : ofLabel text = .ok c) :
    c.label = text := by
  unfold ofLabel at h
  cases hhead : functionHead.toList.isPrefixOf? text.toList with
  | some name =>
      rw [hhead] at h
      obtain rfl := Except.ok.inj h
      rw [List.isPrefixOf?_eq_some_iff_append_eq] at hhead
      apply String.toList_injective
      rw [label, String.toList_append, String.toList_ofList, hhead]
  | none =>
      simp only [hhead] at h
      -- One case for each line of the table.
      split at h
      all_goals first | (obtain rfl := Except.ok.inj h; rfl) | cases h

theorem ofLabel_eq_ok_iff {text : String} {c : Concept} :
    ofLabel text = .ok c ↔ c.label = text := by
  refine ⟨label_of_ofLabel, ?_⟩
  rintro rfl
  exact ofLabel_label c

theorem label_injective : Function.Injective label := by
  intro c d h
  have hc := ofLabel_label c
  rw [h, ofLabel_label] at hc
  exact (Except.ok.inj hc).symm

theorem text_of_ofLabel {text : String} {e : UnknownConcept} (h : ofLabel text = .error e) :
    e.text = text := by
  unfold ofLabel at h
  split at h
  · cases h
  · split at h
    all_goals cases h
    rfl

/-! ### Written concepts -/

theorem toOption_ofLabel_eq_some_iff {text : String} {c : Concept} :
    (ofLabel text).toOption = some c ↔ c.label = text := by
  rw [← ofLabel_eq_ok_iff]
  cases ofLabel text <;> simp [Except.toOption]

theorem ofJson?_eq_some_iff {v : Json} {c : Concept} : ofJson? v = some c ↔ c.toJson = v := by
  unfold ofJson? toJson
  cases v with
  | text s => simp [Json.text?, toOption_ofLabel_eq_some_iff]
  | null | bool | nat | real | list | object => simp [Json.text?]

/-! ### Concepts of blocks -/

/-- Only branches share a concept, and statements do. -/
theorem label_ofBlock_eq_iff {l m : BlockLabel} :
    (ofBlock l).label = (ofBlock m).label ↔
      l = m ∨ (l = .trueBranch ∨ l = .falseBranch) ∧ (m = .trueBranch ∨ m = .falseBranch) ∨
        (∃ kind, l = .statement kind) ∧ ∃ kind, m = .statement kind := by
  rw [label_injective.eq_iff]
  cases l <;> cases m <;> simp [ofBlock]

/-- **Concepts and their labels.** Every concept is read back from its label, and a text that reads
as a concept is its label; any other text is told in the error.  So different concepts have
different labels, and no two texts read as one concept.  The same holds of concepts that are written
as values.  Two blocks have concepts with one label only if they are the same, or both branches, or
both statements. -/
theorem labels_faithful :
    (∀ c : Concept, ofLabel c.label = .ok c) ∧
    (∀ text c, ofLabel text = .ok c → c.label = text) ∧
    (∀ text e, ofLabel text = .error e → e.text = text) ∧
    Function.Injective label ∧
    (∀ text text' c, ofLabel text = .ok c → ofLabel text' = .ok c → text = text') ∧
    (∀ c : Concept, ofJson? c.toJson = some c) ∧
    (∀ v c, ofJson? v = some c → c.toJson = v) ∧
    ∀ l m : BlockLabel, (ofBlock l).label = (ofBlock m).label ↔
      l = m ∨ (l = .trueBranch ∨ l = .falseBranch) ∧ (m = .trueBranch ∨ m = .falseBranch) ∨
        (∃ kind, l = .statement kind) ∧ ∃ kind, m = .statement kind := by
  refine ⟨ofLabel_label, fun _ _ => label_of_ofLabel, fun _ _ => text_of_ofLabel, label_injective,
    fun text text' c h h' => ?_, fun _ => ofJson?_eq_some_iff.mpr rfl,
    fun _ _ => ofJson?_eq_some_iff.mp, fun _ _ => label_ofBlock_eq_iff⟩
  rw [← label_of_ofLabel h, label_of_ofLabel h']

end StructuralGrading.Concept
