import Mathlib.Data.List.DropRight
import Mathlib.Tactic.MkIffOfInductiveProp
import StructuralGrading.Text.Blank

/-! # Parts of texts

A text is cut into parts at a separator, and what white space stands around a part is trimmed.

* `Text.not_mem_of_mem_splitOn`: no separator is left in a part;
* `Text.AllBlank`: nothing but white space;
* `Text.IsTrimmed`: no white space at the ends;
* `Text.Pads`: a text with white space around another one;
* `Text.pads_trim`, `Text.isTrimmed_trim`: trimming takes all white space off the ends and nothing
  else;
* `Text.Pads.trim_eq`: it does not matter how much of it there is. -/

namespace StructuralGrading.Text

/-! ### Parts between separators -/

theorem not_mem_of_mem_splitOn {α : Type} [BEq α] [LawfulBEq α] {c : α} {cs part : List α}
    (h : part ∈ cs.splitOn c) : c ∉ part := by
  induction cs generalizing part with
  | nil =>
      rw [List.splitOn_nil, List.mem_singleton] at h
      rw [h]
      exact List.not_mem_nil
  | cons a cs ih =>
      obtain ⟨first, rest, hsplit⟩ := List.exists_cons_of_ne_nil (List.splitOn_ne_nil c cs)
      rw [hsplit] at ih
      rw [List.splitOn_cons_eq_if_modifyHead, hsplit] at h
      split at h
      · rcases List.mem_cons.mp h with rfl | h
        · exact List.not_mem_nil
        · exact ih h
      · rename_i hac
        -- The first part goes on with a character that is no separator.
        rcases List.mem_cons.mp h with rfl | h
        · have hfirst : c ∉ first := ih List.mem_cons_self
          have hne : c ≠ a := fun heq => hac (by simp [heq])
          simp [hfirst, hne]
        · exact ih (List.mem_cons_of_mem first h)

theorem mem_intercalate {α : Type} {sep part : List α} {d : α} (hd : d ∈ part) :
    ∀ {parts : List (List α)}, part ∈ parts → d ∈ sep.intercalate parts
  | [first], h => by
      rw [List.mem_singleton] at h
      rwa [List.intercalate_singleton, ← h]
  | first :: second :: parts, h => by
      rw [List.intercalate_cons_cons, List.mem_append, List.mem_append]
      rcases List.mem_cons.mp h with rfl | h
      · exact .inl (.inl hd)
      · exact .inr (mem_intercalate hd h)

theorem mem_of_mem_splitOn {α : Type} [BEq α] [LawfulBEq α] {c d : α} {cs part : List α}
    (h : part ∈ cs.splitOn c) (hd : d ∈ part) : d ∈ cs := by
  have hall : d ∈ [c].intercalate (cs.splitOn c) := mem_intercalate hd h
  rwa [List.intercalate_splitOn] at hall

/-! ### Texts and white space -/

/-- A text of white space only. -/
def AllBlank (s : String) : Prop := ∀ c ∈ s.toList, isBlank c = true

/-- A text that neither starts nor ends with white space. -/
@[mk_iff]
structure IsTrimmed (s : String) : Prop where
  first : ∀ c ∈ s.toList.head?, isBlank c = false
  last : ∀ c ∈ s.toList.getLast?, isBlank c = false

/-- The text `s` is `core` with white space around it, or `core` itself. -/
def Pads (core s : String) : Prop :=
  ∃ before after : String, AllBlank before ∧ AllBlank after ∧ s = before ++ core ++ after

-- By the characters of the text, not by all characters that there are.
instance (s : String) : Decidable (AllBlank s) := List.decidableBAll _ s.toList

instance (s : String) : Decidable (IsTrimmed s) :=
  have := Option.decidableForallMem (p := fun c => isBlank c = false) s.toList.head?
  have := Option.decidableForallMem (p := fun c => isBlank c = false) s.toList.getLast?
  decidable_of_iff _ (isTrimmed_iff s).symm

theorem Pads.refl (s : String) : Pads s s :=
  ⟨"", "", nofun, nofun, by rw [String.empty_append, String.append_empty]⟩

theorem AllBlank.pads_empty {s : String} (h : AllBlank s) : Pads "" s :=
  ⟨s, "", h, nofun, by rw [String.append_empty, String.append_empty]⟩

/-! ### Trimming characters -/

section characters

variable {before cs after : List Char}

theorem dropBlankEnd_eq (cs : List Char) : dropBlankEnd cs = cs.rdropWhile isBlank := rfl

theorem trimChars_append (hbefore : ∀ c ∈ before, isBlank c = true)
    (hafter : ∀ c ∈ after, isBlank c = true) :
    trimChars (before ++ cs ++ after) = trimChars cs := by
  have hend : ∀ ds : List Char, dropBlankEnd (ds ++ after) = dropBlankEnd ds := by
    intro ds
    have hreverse : ∀ c ∈ after.reverse, isBlank c = true := by simpa using hafter
    unfold dropBlankEnd dropBlank
    rw [List.reverse_append, List.dropWhile_append_of_pos hreverse]
  have hrest : dropBlank after = [] := List.dropWhile_eq_nil_iff.mpr hafter
  unfold trimChars
  rw [List.append_assoc, dropBlank, List.dropWhile_append_of_pos hbefore, List.dropWhile_append]
  -- Of blank text nothing is left for the white space to stand around.
  split
  · rename_i hnone
    have hnone : dropBlank cs = [] := List.isEmpty_iff.mp hnone
    exact congrArg dropBlankEnd (hrest.trans hnone.symm)
  · exact hend (dropBlank cs)

/-- What is trimmed off is white space. -/
theorem exists_eq_append_trimChars (cs : List Char) : ∃ before after : List Char,
    (∀ c ∈ before, isBlank c = true) ∧ (∀ c ∈ after, isBlank c = true) ∧
      cs = before ++ trimChars cs ++ after := by
  refine ⟨cs.takeWhile isBlank, (dropBlank cs).rtakeWhile isBlank, ?_, ?_, ?_⟩
  · intro c hc
    exact List.mem_takeWhile_imp hc
  · intro c hc
    exact List.mem_rtakeWhile_imp hc
  · have hstart : cs.takeWhile isBlank ++ dropBlank cs = cs := List.takeWhile_append_dropWhile
    have hend : trimChars cs ++ (dropBlank cs).rtakeWhile isBlank = dropBlank cs := by
      rw [trimChars, dropBlankEnd_eq, List.rdropWhile_append_rtakeWhile]
    rw [List.append_assoc, hend, hstart]

theorem head?_trimChars (cs : List Char) : ∀ c ∈ (trimChars cs).head?, isBlank c = false := by
  intro c hc
  obtain ⟨rest, hrest⟩ : trimChars cs <+: dropBlank cs := by
    rw [trimChars, dropBlankEnd_eq]
    exact List.rdropWhile_prefix _ _
  have hhead : (dropBlank cs).head? = some c := by
    rw [← hrest, List.head?_append, hc]
    rfl
  have hnot := List.head?_dropWhile_not isBlank cs
  rw [dropBlank] at hhead
  rw [hhead] at hnot
  exact hnot

theorem getLast?_trimChars (cs : List Char) :
    ∀ c ∈ (trimChars cs).getLast?, isBlank c = false := by
  intro c hc
  have hne : trimChars cs ≠ [] := by
    intro hnil
    rw [hnil] at hc
    cases hc
  have hlast := List.rdropWhile_last_not isBlank (dropBlank cs) hne
  rw [List.getLast?_eq_some_getLast hne] at hc
  obtain rfl := Option.some.inj hc
  exact (Bool.not_eq_true _).mp hlast

end characters

/-! ### Trimming texts -/

variable {core s t : String}

theorem toList_trim (s : String) : (trim s).toList = trimChars s.toList := String.toList_ofList

/-- However much white space stands around a text, it is trimmed. -/
theorem Pads.trim_eq (h : Pads core s) : trim s = trim core := by
  obtain ⟨before, after, hbefore, hafter, rfl⟩ := h
  unfold trim
  rw [String.toList_append, String.toList_append, trimChars_append hbefore hafter]

theorem pads_trim (s : String) : Pads (trim s) s := by
  obtain ⟨before, after, hbefore, hafter, heq⟩ := exists_eq_append_trimChars s.toList
  refine ⟨String.ofList before, String.ofList after, ?_, ?_, ?_⟩
  · simpa [AllBlank] using hbefore
  · simpa [AllBlank] using hafter
  · apply String.toList_injective
    simpa [toList_trim] using heq

theorem isTrimmed_trim (s : String) : IsTrimmed (trim s) where
  first := by
    rw [toList_trim]
    exact head?_trimChars s.toList
  last := by
    rw [toList_trim]
    exact getLast?_trimChars s.toList

theorem IsTrimmed.trim_eq (h : IsTrimmed s) : trim s = s := by
  unfold trim
  rw [trim_of_ends h.first h.last, String.ofList_toList]

theorem AllBlank.trim_eq (h : AllBlank s) : trim s = "" := h.pads_empty.trim_eq

theorem trim_eq_empty_iff : trim s = "" ↔ AllBlank s := by
  constructor
  · intro h
    obtain ⟨before, after, hbefore, hafter, heq⟩ := pads_trim s
    rw [h, String.append_empty] at heq
    intro c hc
    rw [heq, String.toList_append] at hc
    rcases List.mem_append.mp hc with hc | hc
    · exact hbefore c hc
    · exact hafter c hc
  · exact AllBlank.trim_eq

theorem mem_of_mem_trim {c : Char} (h : c ∈ (trim s).toList) : c ∈ s.toList := by
  obtain ⟨before, after, -, -, heq⟩ := pads_trim s
  rw [heq]
  simp [h]

end StructuralGrading.Text
