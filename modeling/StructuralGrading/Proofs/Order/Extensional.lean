import Mathlib.Data.List.Nodup
import StructuralGrading.Order.Sorted

/-! # Sorted lists and maps by what they hold

A sorted list without repetition is determined by its members, and a map by the values of its
keys.

* `Sorted.pairwise_ofList`: the members of a sorted list increase;
* `Sorted.perm_sort`, `Sorted.pairwise_sort`: sorting puts the members of a list in order;
* `Sorted.eq_of_perm`, `Sorted.sort_eq_of_perm`: there is only one order in which they increase;
* `SortedMap.mem_entries_iff`: the entries of a map are its keys with their values;
* `SortedMap.ext_get?`: maps that give every key the same value are equal. -/

namespace StructuralGrading

/-! ### Lists -/

namespace Sorted

variable {α : Type} [Ord α] [Std.TransOrd α] [Std.LawfulEqOrd α]

theorem pairwise_insert (a : α) : ∀ bs : List α, bs.Pairwise (compare · · = .lt) →
    (insert a bs).Pairwise (compare · · = .lt)
  | [], _ => List.pairwise_singleton _ a
  | b :: bs, h => by
      obtain ⟨habove, hbs⟩ := List.pairwise_cons.mp h
      cases hab : compare a b with
      | lt =>
          simp only [insert, hab]
          refine List.pairwise_cons.mpr ⟨?_, h⟩
          intro c hc
          rcases List.mem_cons.mp hc with rfl | hc
          · exact hab
          · exact Std.TransCmp.lt_trans hab (habove c hc)
      | eq =>
          simp only [insert, hab]
          exact h
      | gt =>
          simp only [insert, hab]
          refine List.pairwise_cons.mpr ⟨?_, pairwise_insert a bs hbs⟩
          intro c hc
          rcases (mem_insert a c bs).mp hc with rfl | hc
          · exact Std.OrientedCmp.lt_of_gt hab
          · exact habove c hc

theorem pairwise_ofList : ∀ as : List α, (ofList as).Pairwise (compare · · = .lt)
  | [] => .nil
  | a :: as => pairwise_insert a _ (pairwise_ofList as)

omit [Std.TransOrd α] in
theorem nodup_of_pairwise {as : List α} (h : as.Pairwise (compare · · = .lt)) : as.Nodup := by
  refine h.imp ?_
  rintro a b hab rfl
  rw [Std.ReflOrd.compare_self] at hab
  cases hab

omit [Std.TransOrd α] [Std.LawfulEqOrd α] in
theorem perm_insertRepeated (a : α) : ∀ bs : List α, (insertRepeated a bs).Perm (a :: bs)
  | [] => .refl _
  | b :: bs => by
      unfold insertRepeated
      split
      · exact ((perm_insertRepeated a bs).cons b).trans (.swap a b bs)
      · exact .refl _

omit [Std.TransOrd α] [Std.LawfulEqOrd α] in
theorem perm_sort : ∀ as : List α, (sort as).Perm as
  | [] => .refl _
  | a :: as => (perm_insertRepeated a (sort as)).trans ((perm_sort as).cons a)

omit [Std.LawfulEqOrd α] in
theorem pairwise_insertRepeated (a : α) : ∀ bs : List α, bs.Pairwise (compare · · ≠ .gt) →
    (insertRepeated a bs).Pairwise (compare · · ≠ .gt)
  | [], _ => List.pairwise_singleton _ a
  | b :: bs, h => by
      obtain ⟨hfirst, hbs⟩ := List.pairwise_cons.mp h
      unfold insertRepeated
      by_cases hab : compare a b = .gt
      · rw [if_pos (by rw [hab]; rfl)]
        refine List.pairwise_cons.mpr ⟨fun c hc => ?_, pairwise_insertRepeated a bs hbs⟩
        rcases List.mem_cons.mp ((perm_insertRepeated a bs).mem_iff.mp hc) with rfl | hc
        · rw [Std.OrientedCmp.lt_of_gt hab]
          decide
        · exact hfirst c hc
      · rw [if_neg (by simpa using hab)]
        refine List.pairwise_cons.mpr ⟨fun c hc => ?_, h⟩
        rcases List.mem_cons.mp hc with rfl | hc
        · exact hab
        · have hab' : (compare a b).isLE = true := Ordering.isLE_iff_ne_gt.mpr hab
          have hbc : (compare b c).isLE = true := Ordering.isLE_iff_ne_gt.mpr (hfirst c hc)
          exact Ordering.isLE_iff_ne_gt.mp (Std.TransCmp.isLE_trans hab' hbc)

omit [Std.LawfulEqOrd α] in
theorem pairwise_sort : ∀ as : List α, (sort as).Pairwise (compare · · ≠ .gt)
  | [] => .nil
  | a :: as => pairwise_insertRepeated a _ (pairwise_sort as)

/-- Without repetitions the members of a sorted list increase. -/
theorem pairwise_sort_of_nodup {as : List α} (h : as.Nodup) :
    (sort as).Pairwise (compare · · = .lt) := by
  have hnodup : (sort as).Nodup := (perm_sort as).nodup_iff.mpr h
  refine (hnodup.and (pairwise_sort as)).imp ?_
  rintro a b ⟨hne, hle⟩
  cases hab : compare a b with
  | lt => rfl
  | eq => exact absurd (Std.LawfulEqCmp.eq_of_compare hab) hne
  | gt => exact absurd hab hle

omit [Std.LawfulEqOrd α] in
theorem eq_of_perm {as bs : List α} (h : as.Perm bs) (has : as.Pairwise (compare · · = .lt))
    (hbs : bs.Pairwise (compare · · = .lt)) : as = bs := by
  refine h.eq_of_pairwise ?_ has hbs
  intro a b _ _ hab hba
  exact absurd hba (Std.OrientedCmp.not_lt_of_lt hab)

theorem sort_eq_of_perm {as bs : List α} (h : as.Perm bs)
    (hbs : bs.Pairwise (compare · · = .lt)) : sort as = bs :=
  have hnodup : as.Nodup := h.nodup_iff.mpr (nodup_of_pairwise hbs)
  eq_of_perm ((perm_sort as).trans h) (pairwise_sort_of_nodup hnodup) hbs

end Sorted

/-! ### Maps -/

namespace SortedMap

variable {κ ν : Type} [Ord κ] [Std.LawfulEqOrd κ] {m n : SortedMap κ ν}

theorem mem_entries_iff {k : κ} {v : ν} : (k, v) ∈ m.entries ↔ m.get? k = some v := by
  rw [get?, find?, Option.map_eq_some_iff]
  constructor
  · intro hmem
    have hsome : (m.entries.find? fun e => compare k e.1 == .eq).isSome := by
      rw [List.find?_isSome]
      exact ⟨(k, v), hmem, by simp⟩
    obtain ⟨e, he⟩ := Option.isSome_iff_exists.mp hsome
    have hkey : compare k e.1 = .eq := by simpa using List.find?_some he
    have heq : e = (k, v) :=
      List.inj_on_of_nodup_map m.nodup_keys (List.mem_of_find?_eq_some he) hmem
        (Std.LawfulEqCmp.eq_of_compare hkey).symm
    exact ⟨e, he, by rw [heq]⟩
  · rintro ⟨⟨l, w⟩, he, rfl⟩
    have hkey : compare k l = .eq := by simpa using List.find?_some he
    obtain rfl := Std.LawfulEqCmp.eq_of_compare hkey
    exact List.mem_of_find?_eq_some he

theorem mem_keys_iff {k : κ} : k ∈ m.keys ↔ m.contains k = true := by
  rw [keys, contains, List.mem_map, Option.isSome_iff_exists]
  constructor
  · rintro ⟨⟨l, v⟩, hmem, rfl⟩
    exact ⟨v, mem_entries_iff.mp hmem⟩
  · rintro ⟨v, hv⟩
    exact ⟨(k, v), mem_entries_iff.mpr hv, rfl⟩

theorem get?_insert [Std.TransOrd κ] [DecidableEq κ] (m : SortedMap κ ν) (k : κ) (v : ν) (l : κ) :
    (m.insert k v).get? l = if l = k then some v else m.get? l := by
  by_cases h : l = k
  · rw [if_pos h, h, get?_insert_self]
  · rw [if_neg h, get?_insert_ne m v h]

theorem get?_erase [DecidableEq κ] (m : SortedMap κ ν) (k l : κ) :
    (m.erase k).get? l = if l = k then none else m.get? l := by
  rw [erase, get?_filter]
  by_cases h : l = k
  · simp [h]
  · have hne : k ≠ l := fun h' => h h'.symm
    simp [h, hne]

theorem ext_get? [Std.TransOrd κ] (h : ∀ k, m.get? k = n.get? k) : m = n := by
  have hmem : ∀ e : κ × ν, e ∈ m.entries ↔ e ∈ n.entries := by
    rintro ⟨k, v⟩
    rw [mem_entries_iff, mem_entries_iff, h k]
  have hperm : m.entries.Perm n.entries :=
    (List.perm_ext_iff_of_nodup m.nodup_keys.of_map n.nodup_keys.of_map).mpr hmem
  have hm : m.entries.Pairwise fun a b => compare a.1 b.1 = .lt := List.pairwise_map.mp m.sorted
  have hn : n.entries.Pairwise fun a b => compare a.1 b.1 = .lt := List.pairwise_map.mp n.sorted
  have hentries : m.entries = n.entries := by
    refine hperm.eq_of_pairwise ?_ hm hn
    intro a b _ _ hab hba
    exact absurd hba (Std.OrientedCmp.not_lt_of_lt hab)
  obtain ⟨es, hes⟩ := m
  obtain ⟨fs, hfs⟩ := n
  obtain rfl : es = fs := hentries
  rfl

end SortedMap

end StructuralGrading
