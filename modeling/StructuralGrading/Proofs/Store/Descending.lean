import StructuralGrading.Proofs.Store.Joining
import StructuralGrading.Proofs.Store.Names
import StructuralGrading.Store.Search

/-! # Paths to what lies below a folder

What lies below a folder has a path that goes on from that of the folder, name by name.  Such paths
lead where their names say, and to sort them is to sort by these.

* `Path.sort_of_perm`: paths with increasing routes are what sorting them in any order gives;
* `Store.place_descend`: where a path leads that goes on;
* `Store.route_descend`: by which steps;
* `Store.sort_descend`: such paths are sorted if their names are;
* `Path.sort_join`: so are the paths of names in a folder, whatever order they are listed in. -/

namespace StructuralGrading

/-! ### Order of routes -/

instance : Std.TransOrd Path.Step :=
  inferInstanceAs (Std.TransCmp (compareLex (compareOn fun s : Path.Step => s.key.1)
    (compareOn fun s : Path.Step => s.key.2)))

theorem compare_map_name (as bs : List OsText) :
    compare (as.map Path.Step.name) (bs.map Path.Step.name) = compare as bs := by
  have hname : ∀ a b : OsText, compare (Path.Step.name a) (.name b) = compare a b :=
    fun _ _ => rfl
  induction as generalizing bs with
  | nil => cases bs <;> rfl
  | cons a as ih =>
      cases bs with
      | nil => rfl
      | cons b bs =>
          have htail : List.compareLex compare (as.map Path.Step.name) (bs.map .name) =
              List.compareLex compare as bs := ih bs
          show List.compareLex compare (_ :: _) (_ :: _) = List.compareLex compare (_ :: _) (_ :: _)
          rw [List.compareLex_cons_cons, List.compareLex_cons_cons, hname, htail]

namespace Path

variable {ps qs : List Path}

/-- If the routes of some paths increase then sorting the paths, in whatever order they come, gives
them in this one. -/
theorem sort_of_perm (h : ps.Perm qs) (hsorted : (qs.map route).Pairwise (compare · · = .lt)) :
    sort ps = qs := by
  have hq : qs.Pairwise fun p q => compare p.route q.route = .lt := List.pairwise_map.mp hsorted
  have hperm : (sort ps).Perm qs := (List.mergeSort_perm ps _).trans h
  have hdiffer : (sort ps).Pairwise fun p q => compare p.route q.route ≠ .eq := by
    have hsymm : ∀ {p q : Path}, compare p.route q.route ≠ .eq → compare q.route p.route ≠ .eq :=
      fun hne heq => hne (Std.OrientedCmp.eq_symm heq)
    refine (hperm.pairwise_iff hsymm).mpr (hq.imp fun {p q} hlt => ?_)
    rw [hlt]
    exact nofun
  have hle : (sort ps).Pairwise fun p q => (compare p.route q.route).isLE = true := by
    refine List.pairwise_mergeSort (fun p q r => Std.TransCmp.isLE_trans) (fun p q => ?_) ps
    have hswap : compare q.route p.route = (compare p.route q.route).swap := Std.OrientedCmp.eq_swap
    rw [hswap]
    cases compare p.route q.route <;> rfl
  have hlt : (sort ps).Pairwise fun p q => compare p.route q.route = .lt := by
    refine (hle.and hdiffer).imp ?_
    rintro p q ⟨hpq, hne⟩
    cases hcompare : compare p.route q.route with
    | lt => rfl
    | eq => exact absurd hcompare hne
    | gt =>
        rw [hcompare] at hpq
        cases hpq
  refine hperm.eq_of_pairwise ?_ hlt hq
  intro p q _ _ hpq hqp
  exact absurd hqp (Std.OrientedCmp.not_lt_of_lt hpq)

/-- Paths that go on from the same steps by names are in the order of these. -/
theorem pairwise_route {front : List Step} {f : Location → Path} {found : List Location}
    (hroute : ∀ rest ∈ found, (f rest).route = front ++ rest.map .name)
    (hsorted : found.Pairwise (compare · · = .lt)) :
    ((found.map f).map route).Pairwise (compare · · = .lt) := by
  rw [List.map_map]
  refine List.pairwise_map.mpr (hsorted.imp_of_mem fun {a b} ha hb hab => ?_)
  rw [Function.comp_apply, Function.comp_apply, hroute a ha, hroute b hb, compareLex_append,
    compare_map_name, hab]

end Path

/-! ### Single names -/

theorem pairwise_singletons {names : List OsText} (h : names.Pairwise (compare · · = .lt)) :
    (names.map ([·])).Pairwise (compare · · = .lt) := by
  refine List.pairwise_map.mpr (h.imp fun {a b} hab => ?_)
  rw [compare_singleton, hab]

/-- However the names in a folder are listed, sorting their paths puts the names in order. -/
theorem Path.sort_join {p : Path} (hp : p ≠ []) {names : List OsText}
    (hnames : ∀ n ∈ names, IsName n) (hsorted : names.Pairwise (compare · · = .lt))
    {listed : List OsText} (hperm : listed.Perm names) :
    sort (listed.map p.join) = names.map p.join := by
  have hroute : ∀ rest ∈ names.map ([·]),
      (rest.foldl join p).route = p.route ++ rest.map .name := by
    refine List.forall_mem_map.mpr fun n hn => ?_
    exact route_foldl_join (by simpa using hnames n hn) hp
  have hroutes := pairwise_route hroute (pairwise_singletons hsorted)
  have hjoins : (names.map ([·])).map (fun rest => rest.foldl join p) = names.map p.join :=
    List.map_map
  rw [hjoins] at hroutes
  exact sort_of_perm (hperm.map p.join) hroutes

/-! ### On from a folder -/

namespace Store

variable {s : Store} {q : Path} {name : OsText} {rest : Location}

theorem place_empty (s : Store) : s.place [] = s.working := rfl

theorem place_of_isHere (h : q.isHere = true) : s.place q = s.working := by
  rw [Path.isHere, beq_iff_eq, Path.route] at h
  have hstays : ∀ {ps : List OsText}, ps.filterMap Path.Step.ofPiece? = [] →
      ∀ loc, ps.foldl Path.climb loc = loc := by
    intro ps hnone loc
    induction ps with
    | nil => rfl
    | cons piece ps ih =>
        rw [List.filterMap_eq_nil_iff, List.forall_mem_cons] at hnone
        have hstay : Path.climb loc piece = loc := by rw [Path.climb, hnone.1]
        rw [List.foldl_cons, hstay]
        exact ih (List.filterMap_eq_nil_iff.mpr hnone.2)
  -- No piece is the step to the working folder, so that step is where the route starts.
  have hhere : Path.Step.here ∉ q.pieces.filterMap Path.Step.ofPiece? := by
    intro hmem
    obtain ⟨piece, -, hpiece⟩ := List.mem_filterMap.mp hmem
    rw [Path.Step.ofPiece?] at hpiece
    split at hpiece
    · cases hpiece
    · split at hpiece <;> cases hpiece
  split at h
  · cases h
  · rename_i habsolute
    rw [place, start, if_neg habsolute]
    split at h
    · exact hstays (List.cons.inj h).2 _
    · rw [List.nil_append] at h
      exact absurd (h ▸ List.mem_cons_self) hhere

/-- Names in the working folder stand without its dot. -/
theorem pathIn_here (name : OsText) : pathIn [Path.dot] name = name := by
  have hhere : Path.isHere [Path.dot] = true := by decide +kernel
  rw [pathIn, hhere, if_pos rfl]

theorem pathIn_ne_empty (q : Path) (hname : Path.IsName name) : pathIn q name ≠ [] := by
  rw [pathIn]
  split
  · exact hname.ne_empty
  · exact Path.join_ne_empty q hname

theorem route_pathIn (hq : q ≠ []) (hname : Path.IsName name) :
    (pathIn q name).route = (if q.isHere then [] else q.route) ++ [.name name] := by
  rw [pathIn]
  split
  · rw [Path.route_of_isName hname, List.nil_append]
  · rw [Path.route_join hq hname.1, hname.2]
    rfl

theorem stem?_pathIn (hq : q ≠ []) (hname : Path.IsName name) :
    (pathIn q name).stem? = some (Path.stemOf name) := by
  rw [Path.stem?, Path.fileName?, route_pathIn hq hname, List.getLast?_concat]
  rfl

theorem descend_cons (q : Path) (name : OsText) (rest : Location) :
    descend q (name :: rest) = rest.foldl Path.join (pathIn q name) := by
  have hempty : Path.join [] name = name := by simp [Path.join]
  rw [descend, pathIn, List.foldl_cons]
  split
  · rw [hempty]
  · rfl

theorem route_descend (hq : q ≠ []) (hnames : ∀ n ∈ rest, Path.IsName n) :
    (descend q rest).route = (if q.isHere then [] else q.route) ++ rest.map .name := by
  cases rest with
  | nil =>
      have hempty : Path.route [] = [] := by decide +kernel
      rw [descend, List.foldl_nil, List.map_nil, List.append_nil]
      split
      · exact hempty
      · rfl
  | cons name rest =>
      have hname := hnames name List.mem_cons_self
      have hrest : ∀ n ∈ rest, Path.IsName n := fun n hn => hnames n (List.mem_cons_of_mem name hn)
      rw [descend_cons, Path.route_foldl_join hrest (pathIn_ne_empty q hname),
        route_pathIn hq hname]
      simp

theorem place_descend (s : Store) (q : Path) (hnames : ∀ n ∈ rest, Path.IsName n) :
    s.place (descend q rest) = s.place q ++ rest := by
  rw [descend, s.place_foldl_join hnames]
  split
  · rename_i hhere
    rw [place_of_isHere hhere, place_empty]
  · rfl

section sorting

variable {found : List Location}

theorem pairwise_route_descend (hq : q ≠ []) (hnames : ∀ rest ∈ found, ∀ n ∈ rest, Path.IsName n)
    (hsorted : found.Pairwise (compare · · = .lt)) :
    (found.map fun rest => (descend q rest).route).Pairwise (compare · · = .lt) := by
  have hroutes := Path.pairwise_route (fun rest h => route_descend hq (hnames rest h)) hsorted
  rwa [List.map_map] at hroutes

theorem sort_descend (hq : q ≠ []) (hnames : ∀ rest ∈ found, ∀ n ∈ rest, Path.IsName n)
    (hsorted : found.Pairwise (compare · · = .lt)) :
    Path.sort (found.map (descend q)) = found.map (descend q) :=
  Path.sort_of_perm (.refl _)
    (Path.pairwise_route (fun rest h => route_descend hq (hnames rest h)) hsorted)

end sorting

theorem descend_singleton (q : Path) (name : OsText) : descend q [name] = pathIn q name := by
  rw [descend_cons, List.foldl_nil]

theorem sort_pathIn (hq : q ≠ []) {names : List OsText} (hnames : ∀ n ∈ names, Path.IsName n)
    (hsorted : names.Pairwise (compare · · = .lt)) :
    Path.sort (names.map (pathIn q)) = names.map (pathIn q) := by
  have hsort : Path.sort ((names.map ([·])).map (descend q)) = (names.map ([·])).map (descend q) :=
    sort_descend hq (by simpa using hnames) (pairwise_singletons hsorted)
  simpa only [List.map_map, Function.comp_def, descend_singleton] using hsort

end Store

end StructuralGrading
