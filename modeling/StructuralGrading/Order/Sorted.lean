/-!
# Sorted lists and maps

Sets and finite maps as lists in increasing order without repetition, so that two sets with the
same members are the same list.  Everything is built by `insert`, one member at a time.

* `Sorted.insert`, `Sorted.ofList` and `mem_ofList`: sets.
* `SortedMap.insert`, `SortedMap.filter`, `SortedMap.get?`: maps, with one entry for a key.
  `get?_insert_self`, `get?_insert_ne` and `get?_filter` say what they hold.
-/

namespace StructuralGrading

namespace Sorted

variable {α : Type} [Ord α]

/-- Adds a member to a sorted list, unless it is there already. -/
def insert (a : α) : List α → List α
  | [] => [a]
  | b :: bs =>
    match compare a b with
    | .lt => a :: b :: bs
    | .eq => b :: bs
    | .gt => b :: insert a bs

/-- The members of a list in increasing order, each once. -/
def ofList (as : List α) : List α := as.foldr insert []

/-- Adds a member to a sorted list, in front of those that are equal to it. -/
def insertRepeated (a : α) : List α → List α
  | [] => [a]
  | b :: bs => if compare a b == .gt then b :: insertRepeated a bs else a :: b :: bs

/-- The members of a list in increasing order, as often as they occur. -/
def sort (as : List α) : List α := as.foldr insertRepeated []

theorem mem_insert [Std.LawfulEqOrd α] (a x : α) :
    ∀ bs : List α, x ∈ insert a bs ↔ x = a ∨ x ∈ bs
  | [] => by simp [insert]
  | b :: bs => by
    cases h : compare a b with
    | lt => simp [insert, h]
    | eq =>
      obtain rfl := Std.LawfulEqCmp.eq_of_compare h
      simp [insert]
    | gt =>
      simp only [insert, h, List.mem_cons, mem_insert a x bs]
      exact or_left_comm

theorem mem_ofList [Std.LawfulEqOrd α] (x : α) : ∀ as : List α, x ∈ ofList as ↔ x ∈ as
  | [] => by simp [ofList]
  | a :: as => by
    have ih := mem_ofList x as
    simp only [ofList, List.foldr_cons, List.mem_cons] at ih ⊢
    rw [mem_insert, ih]

end Sorted

/-! ### Maps -/

/-- A finite map: its entries in increasing order of the keys, one for each key. -/
structure SortedMap (κ ν : Type) [Ord κ] where
  entries : List (κ × ν)
  /-- The keys increase. -/
  sorted : (entries.map (·.1)).Pairwise (compare · · = .lt)
  deriving Repr

namespace SortedMap

variable {κ ν μ : Type} [Ord κ]

instance [DecidableEq κ] [DecidableEq ν] : DecidableEq (SortedMap κ ν) := fun m n =>
  decidable_of_iff (m.entries = n.entries) ⟨fun h => by cases m; cases n; simp_all, (· ▸ rfl)⟩

/-- The map without entries. -/
def empty : SortedMap κ ν := ⟨[], .nil⟩

/-- The keys in increasing order. -/
def keys (m : SortedMap κ ν) : List κ := m.entries.map (·.1)

/-- The values in the order of their keys. -/
def values (m : SortedMap κ ν) : List ν := m.entries.map (·.2)

/-- Whether there are no entries. -/
def isEmpty (m : SortedMap κ ν) : Bool := m.entries.isEmpty

/-- The value of a key among entries. -/
def find? (k : κ) (es : List (κ × ν)) : Option ν :=
  (es.find? fun e => compare k e.1 == .eq).map (·.2)

/-- The value of a key. -/
def get? (m : SortedMap κ ν) (k : κ) : Option ν := find? k m.entries

/-- Whether a key has a value. -/
def contains (m : SortedMap κ ν) (k : κ) : Bool := (m.get? k).isSome

/-! ### Filtering -/

theorem pairwise_filterMap {f : κ → ν → Option μ} {es : List (κ × ν)}
    (h : (es.map (·.1)).Pairwise (compare · · = .lt)) :
    ((es.filterMap fun e => (f e.1 e.2).map fun v => (e.1, v)).map (·.1)).Pairwise
      (compare · · = .lt) := by
  rw [List.pairwise_map] at h ⊢
  rw [List.pairwise_filterMap]
  refine h.imp ?_
  intro a b hab x hx y hy
  obtain ⟨_, _, rfl⟩ := Option.map_eq_some_iff.1 hx
  obtain ⟨_, _, rfl⟩ := Option.map_eq_some_iff.1 hy
  exact hab

/-- Gives every key a new value or takes it away. -/
def filterMap (f : κ → ν → Option μ) (m : SortedMap κ ν) : SortedMap κ μ :=
  ⟨m.entries.filterMap fun e => (f e.1 e.2).map fun v => (e.1, v), pairwise_filterMap m.sorted⟩

/-- Keeps the keys of which a test holds. -/
def filter (keep : κ → Bool) (m : SortedMap κ ν) : SortedMap κ ν :=
  m.filterMap fun k v => if keep k then some v else none

/-- Takes a key and its value away. -/
def erase (m : SortedMap κ ν) (k : κ) : SortedMap κ ν := m.filter fun l => compare k l != .eq

/-! ### Inserting -/

/-- Puts an entry in its place, instead of the one with the same key. -/
def insertEntry (k : κ) (v : ν) : List (κ × ν) → List (κ × ν)
  | [] => [(k, v)]
  | e :: es =>
    match compare k e.1 with
    | .lt => (k, v) :: e :: es
    | .eq => (k, v) :: es
    | .gt => e :: insertEntry k v es

theorem mem_keys_insertEntry [Std.LawfulEqOrd κ] {k l : κ} {v : ν} :
    ∀ {es : List (κ × ν)}, l ∈ (insertEntry k v es).map (·.1) → l = k ∨ l ∈ es.map (·.1)
  | [], h => by simpa [insertEntry] using h
  | e :: es, h => by
    cases c : compare k e.1 with
    | lt => simpa [insertEntry, c] using h
    | eq =>
      simp only [insertEntry, c, List.map_cons, List.mem_cons] at h ⊢
      exact h.imp_right Or.inr
    | gt =>
      simp only [insertEntry, c, List.map_cons, List.mem_cons] at h ⊢
      rcases h with rfl | h
      · exact .inr (.inl rfl)
      · exact (mem_keys_insertEntry h).imp_right Or.inr

variable [Std.TransOrd κ] [Std.LawfulEqOrd κ]

theorem pairwise_insertEntry {k : κ} {v : ν} :
    ∀ {es : List (κ × ν)}, (es.map (·.1)).Pairwise (compare · · = .lt) →
      ((insertEntry k v es).map (·.1)).Pairwise (compare · · = .lt)
  | [], _ => by simp [insertEntry]
  | e :: es, h => by
    have above : ∀ l ∈ es.map (·.1), compare e.1 l = .lt := (List.pairwise_cons.1 h).1
    cases c : compare k e.1 with
    | lt =>
      simp only [insertEntry, c, List.map_cons] at h ⊢
      refine List.pairwise_cons.2 ⟨fun l hl => ?_, h⟩
      rcases List.mem_cons.1 hl with rfl | hl
      · exact c
      · exact Std.TransCmp.lt_trans c (above l hl)
    | eq =>
      obtain rfl := Std.LawfulEqCmp.eq_of_compare c
      simpa only [insertEntry, c, List.map_cons] using h
    | gt =>
      simp only [insertEntry, c, List.map_cons] at h ⊢
      refine List.pairwise_cons.2 ⟨fun l hl => ?_, pairwise_insertEntry (List.Pairwise.of_cons h)⟩
      rcases mem_keys_insertEntry hl with rfl | hl
      · exact Std.OrientedCmp.lt_of_gt c
      · exact above l hl

/-- Gives a key a value, instead of the one it has. -/
def insert (m : SortedMap κ ν) (k : κ) (v : ν) : SortedMap κ ν :=
  ⟨insertEntry k v m.entries, pairwise_insertEntry m.sorted⟩

/-- The map with the given entries; of several for one key the last stays. -/
def ofList (es : List (κ × ν)) : SortedMap κ ν :=
  es.foldl (fun m e => m.insert e.1 e.2) empty

/-! ### The values of keys -/

omit [Std.TransOrd κ] in
theorem find?_insertEntry_self (k : κ) (v : ν) :
    ∀ es : List (κ × ν), find? k (insertEntry k v es) = some v
  | [] => by simp [insertEntry, find?]
  | e :: es => by
    cases c : compare k e.1 with
    | lt => simp [insertEntry, c, find?]
    | eq => simp [insertEntry, c, find?]
    | gt => simpa [insertEntry, c, find?] using find?_insertEntry_self k v es

omit [Std.TransOrd κ] in
theorem find?_insertEntry_ne {k l : κ} (v : ν) (h : l ≠ k) :
    ∀ es : List (κ × ν), find? l (insertEntry k v es) = find? l es
  | [] => by simp [insertEntry, find?, h]
  | e :: es => by
    have ih := find?_insertEntry_ne v h es
    simp only [find?] at ih
    cases c : compare k e.1 with
    | lt => simp [insertEntry, c, find?, h]
    | eq =>
      obtain rfl := Std.LawfulEqCmp.eq_of_compare c
      simp [insertEntry, find?, h]
    | gt => by_cases same : l = e.1 <;> simp [insertEntry, c, find?, same, ih]

@[simp] theorem get?_insert_self (m : SortedMap κ ν) (k : κ) (v : ν) :
    (m.insert k v).get? k = some v := find?_insertEntry_self k v m.entries

theorem get?_insert_ne (m : SortedMap κ ν) {k l : κ} (v : ν) (h : l ≠ k) :
    (m.insert k v).get? l = m.get? l := find?_insertEntry_ne v h m.entries

omit [Std.TransOrd κ] in
theorem find?_eq_none {k : κ} {es : List (κ × ν)} (h : k ∉ es.map (·.1)) : find? k es = none := by
  simp only [find?, Option.map_eq_none_iff, List.find?_eq_none, beq_iff_eq]
  intro e he c
  obtain rfl := Std.LawfulEqCmp.eq_of_compare c
  exact h (List.mem_map_of_mem he)

omit [Std.TransOrd κ] in
theorem find?_filterMap (f : κ → ν → Option μ) (k : κ) :
    ∀ es : List (κ × ν), (es.map (·.1)).Nodup →
      find? k (es.filterMap fun e => (f e.1 e.2).map fun v => (e.1, v)) = (find? k es).bind (f k)
  | [], _ => by simp [find?]
  | e :: es, h => by
    have ih := find?_filterMap f k es (List.nodup_cons.1 h).2
    by_cases same : k = e.1
    · subst same
      rw [find?_eq_none (List.nodup_cons.1 h).1, Option.bind_none] at ih
      cases hf : f e.1 e.2
      · simpa [find?, hf, -List.find?_filterMap] using ih
      · simp [find?, hf]
    · simp only [find?] at ih ⊢
      cases hf : f e.1 e.2 <;> simp [hf, same, ih, -List.find?_filterMap]

omit [Std.TransOrd κ] in
theorem nodup_keys (m : SortedMap κ ν) : (m.entries.map (·.1)).Nodup :=
  m.sorted.imp fun h => by rintro rfl; simp at h

omit [Std.TransOrd κ] in
theorem get?_filterMap (m : SortedMap κ ν) (f : κ → ν → Option μ) (k : κ) :
    (m.filterMap f).get? k = (m.get? k).bind (f k) :=
  find?_filterMap f k m.entries m.nodup_keys

omit [Std.TransOrd κ] in
theorem get?_filter (m : SortedMap κ ν) (keep : κ → Bool) (k : κ) :
    (m.filter keep).get? k = if keep k then m.get? k else none := by
  rw [filter, get?_filterMap]
  cases keep k <;> simp

end SortedMap

end StructuralGrading
