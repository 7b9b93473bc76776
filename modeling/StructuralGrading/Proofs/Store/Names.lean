import StructuralGrading.Proofs.Store.Access

/-! # Names in a folder

The names that are listed for a folder are those of all that lies directly in it, each once, in
increasing order.  They depend on nothing else in a store.  What lies below the folder is listed in
the same way, by the names on the way to it.

* `Store.mem_locations_iff`, `Store.pairwise_locations`: what is listed below a folder;
* `Store.mem_names_iff`, `Store.pairwise_names`: which names are listed, and in which order;
* `Store.names_congr`: folders that hold entries with the same names have the same names;
* `Store.list_eq_ok_iff`: a folder lists its names, in an order of its own. -/

namespace StructuralGrading

/-! ### Order -/

/-- Lists that start alike are compared by what comes after that. -/
theorem compareLex_append {α : Type} [Ord α] [Std.ReflOrd α] (ps as bs : List α) :
    compare (ps ++ as) (ps ++ bs) = compare as bs := by
  induction ps with
  | nil => rfl
  | cons p ps ih =>
      show List.compareLex compare (p :: (ps ++ as)) (p :: (ps ++ bs)) = _
      rw [List.compareLex_cons_cons, Std.ReflOrd.compare_self]
      exact ih

theorem compare_singleton {α : Type} [Ord α] (a b : α) : compare [a] [b] = compare a b := by
  show List.compareLex compare [a] [b] = _
  rw [List.compareLex_cons_cons]
  cases compare a b <;> rfl

namespace Store

variable {s t : Store} {d : Location} {name : OsText}

/-! ### Below a folder -/

/-- The ways from a folder to everything below it. -/
def locations (s : Store) (d : Location) : List Location := (s.below d).map (·.1)

theorem mem_locations_iff {rest : Location} :
    rest ∈ s.locations d ↔ rest ≠ [] ∧ (s.get? (d ++ rest)).isSome = true := by
  simp only [locations, below, List.mem_map, List.mem_filterMap]
  constructor
  · rintro ⟨⟨way, e⟩, ⟨⟨loc, f⟩, hmem, hmatch⟩, rfl⟩
    split at hmatch
    · cases hmatch
    · rename_i way' hne hpre
      cases hmatch
      obtain rfl := List.isPrefixOf?_eq_some_iff_append_eq.mp hpre
      have hway : way ≠ [] := hne
      have hget := SortedMap.mem_entries_iff.mp hmem
      refine ⟨hway, ?_⟩
      rw [get?_of_ne (by simp [hway]), hget]
      rfl
    · cases hmatch
  · rintro ⟨hne, hsome⟩
    obtain ⟨e, he⟩ := Option.isSome_iff_exists.mp hsome
    rw [get?_of_ne (by simp [hne])] at he
    refine ⟨(rest, e), ⟨(d ++ rest, e), SortedMap.mem_entries_iff.mpr he, ?_⟩, rfl⟩
    rw [List.isPrefixOf?_eq_some_iff_append_eq.mpr rfl]
    cases rest with
    | nil => exact absurd rfl hne
    | cons name rest => rfl

theorem pairwise_locations (s : Store) (d : Location) :
    (s.locations d).Pairwise (compare · · = .lt) := by
  rw [locations, below, List.pairwise_map, List.pairwise_filterMap]
  refine List.Pairwise.imp ?_ (List.pairwise_map.mp s.entries.sorted)
  intro e f hef a ha b hb
  split at ha
  · cases ha
  · rename_i he
    cases ha
    split at hb
    · cases hb
    · rename_i hf
      cases hb
      rwa [← List.isPrefixOf?_eq_some_iff_append_eq.mp he,
        ← List.isPrefixOf?_eq_some_iff_append_eq.mp hf, compareLex_append] at hef
    · cases hb
  · cases ha

/-! ### Names -/

/-- The name that a way consists of, if it is a single one. -/
def single? : Location → Option OsText
  | [name] => some name
  | _ => none

theorem single?_eq_some_iff {rest : Location} : single? rest = some name ↔ rest = [name] := by
  unfold single?
  split
  · simp
  · rename_i hne
    simpa using hne name

theorem names_eq (s : Store) (d : Location) : s.names d = (s.locations d).filterMap single? := by
  unfold names locations below SortedMap.keys
  rw [List.filterMap_map, List.filterMap_map, List.filterMap_filterMap]
  refine List.filterMap_congr fun e _ => ?_
  simp only [Function.comp_apply]
  cases hpre : d.isPrefixOf? e.1 with
  | none => rfl
  | some rest =>
      cases rest with
      | nil => rfl
      | cons first rest => cases rest <;> rfl

theorem mem_names_iff : name ∈ s.names d ↔ (s.get? (d ++ [name])).isSome = true := by
  simp [names_eq, single?_eq_some_iff, mem_locations_iff]

theorem pairwise_names (s : Store) (d : Location) :
    (s.names d).Pairwise (compare · · = .lt) := by
  rw [names_eq, List.pairwise_filterMap]
  refine (s.pairwise_locations d).imp fun {k l} hkl a ha b hb => ?_
  rw [single?_eq_some_iff] at ha hb
  rwa [ha, hb, compare_singleton] at hkl

theorem names_congr
    (h : ∀ name, (s.get? (d ++ [name])).isSome = (t.get? (d ++ [name])).isSome) :
    s.names d = t.names d := by
  have hs := pairwise_names s d
  have ht := pairwise_names t d
  refine Sorted.eq_of_perm ?_ hs ht
  refine (List.perm_ext_iff_of_nodup (Sorted.nodup_of_pairwise hs)
    (Sorted.nodup_of_pairwise ht)).mpr fun name => ?_
  rw [mem_names_iff, mem_names_iff, h]

/-! ### Listing -/

variable {p : Path} {names : List OsText}

theorem list_of_locate (h : s.locate p = .ok d) (hd : s.get? d = some .folder) :
    s.list p = .ok (s.listing.order d (s.names d)) := by
  rw [list, h]
  simp only [bind, Except.bind, hd]
  rfl

theorem list_eq_ok_iff :
    s.list p = .ok names ↔ ∃ d, s.locate p = .ok d ∧ s.get? d = some .folder ∧
      names = s.listing.order d (s.names d) := by
  constructor
  · intro h
    rw [list] at h
    obtain ⟨d, hloc, hlist⟩ := exists_of_bind_eq_ok h
    refine ⟨d, hloc, ?_⟩
    split at hlist
    · exact ⟨‹_›, (Except.ok.inj hlist).symm⟩
    · cases hlist
    · cases hlist
  · rintro ⟨d, hloc, hd, rfl⟩
    exact list_of_locate hloc hd

end Store

end StructuralGrading
