import StructuralGrading.Proofs.Order.Extensional
import StructuralGrading.Store.Access

/-! # Following paths

A path leads somewhere only through folders, so what it leads to does not depend on anything else in
a store, and it stays as long as the folders stay.

* `Store.place`: where a path leads as it is written;
* `Store.locate_eq_ok_iff`, `Store.find_eq_ok_iff`: what it takes for a path to lead somewhere, and
  for something to be there;
* `Store.KeepsFolders.locate`: it still leads there if all folders are kept;
* `Store.get?_set`: what changes when an entry is put at such a place;
* `Store.read_of_write`: what is written can be read. -/

namespace StructuralGrading

/-! ### One step after another -/

theorem exists_of_bind_eq_ok {ε α β : Type} {x : Except ε α} {f : α → Except ε β} {b : β}
    (h : x >>= f = .ok b) : ∃ a, x = .ok a ∧ f a = .ok b := by
  cases x with
  | error fault => cases h
  | ok a => exact ⟨a, rfl, h⟩

/-! ### Locations of paths -/

/-- Where a piece leads from a location as it is written. -/
def Path.climb (loc : Location) (piece : OsText) : Location :=
  match Step.ofPiece? piece with
  | some (.name name) => loc ++ [name]
  | some _ => loc.dropLast
  | none => loc

namespace Store

variable {s t : Store} {p : Path} {loc l : Location} {piece : OsText}

/-- Where a path leads as it is written. -/
def place (s : Store) (p : Path) : Location := p.pieces.foldl Path.climb (s.start p)

/-! ### One piece -/

theorem folder_of_follow (h : s.follow loc piece = .ok l) : s.get? loc = some .folder := by
  rw [follow] at h
  split at h
  · cases h
  · cases h
  · assumption

/-- A piece that leads nowhere stays in its folder. -/
theorem follow_of_ofPiece?_eq_none (hpiece : Path.Step.ofPiece? piece = none)
    (hloc : s.get? loc = some .folder) : s.follow loc piece = .ok loc := by
  rw [follow, hloc, hpiece]

/-- In a folder, a piece leads to where it leads as it is written, or nowhere. -/
theorem climb_of_follow (h : s.follow loc piece = .ok l) : Path.climb loc piece = l := by
  rw [follow, folder_of_follow h] at h
  rw [Path.climb]
  cases hstep : Path.Step.ofPiece? piece with
  | none =>
      rw [hstep] at h
      exact Except.ok.inj h
  | some step =>
      cases step with
      | name name =>
          simp only [hstep] at h ⊢
          split at h
          · cases h
          · exact Except.ok.inj h
      | top | here | up =>
          simp only [hstep] at h ⊢
          exact Except.ok.inj h

/-- From a folder, a piece leads to the same place in every store. -/
theorem follow_congr (hs : s.get? loc = some .folder) (ht : t.get? loc = some .folder) :
    s.follow loc piece = t.follow loc piece := by
  rw [follow, follow, hs, ht]

theorem dropLast_of_follow (h : s.follow loc piece = .ok l) : s.get? l.dropLast = some .folder := by
  have hfolder := folder_of_follow h
  rw [← climb_of_follow h, Path.climb]
  split
  · rw [List.dropLast_concat]
    exact hfolder
  · exact get?_dropLast (get?_dropLast hfolder)
  · exact get?_dropLast hfolder

/-! ### Pieces -/

theorem climb_of_foldlM {ps : List OsText} : ∀ {loc : Location},
    ps.foldlM s.follow loc = .ok l → ps.foldl Path.climb loc = l := by
  induction ps with
  | nil => exact fun h => Except.ok.inj h
  | cons piece ps ih =>
      intro loc h
      rw [List.foldlM_cons] at h
      obtain ⟨next, hstep, hrest⟩ := exists_of_bind_eq_ok h
      rw [List.foldl_cons, climb_of_follow hstep]
      exact ih hrest

theorem foldlM_of_ofPiece?_eq_none {ps : List OsText}
    (hps : ∀ piece ∈ ps, Path.Step.ofPiece? piece = none) (hloc : s.get? loc = some .folder) :
    ps.foldlM s.follow loc = .ok loc := by
  induction ps with
  | nil => rfl
  | cons piece ps ih =>
      rw [List.foldlM_cons, follow_of_ofPiece?_eq_none (hps piece List.mem_cons_self) hloc]
      exact ih fun other hother => hps other (List.mem_cons_of_mem piece hother)

theorem dropLast_of_foldlM {ps : List OsText} : ∀ {loc : Location},
    s.get? loc.dropLast = some .folder → ps.foldlM s.follow loc = .ok l →
      s.get? l.dropLast = some .folder := by
  induction ps with
  | nil =>
      intro loc hfolder h
      cases h
      exact hfolder
  | cons piece ps ih =>
      intro loc hfolder h
      rw [List.foldlM_cons] at h
      obtain ⟨next, hstep, hrest⟩ := exists_of_bind_eq_ok h
      exact ih (dropLast_of_follow hstep) hrest

/-! ### Paths -/

theorem get?_start (s : Store) (p : Path) : s.get? (s.start p) = some .folder := by
  unfold start
  split
  · rfl
  · exact s.working_folder

theorem locate_eq_ok_iff :
    s.locate p = .ok l ↔
      p.contains 0 = false ∧ p.length ≤ pathLimit ∧ p ≠ [] ∧
        p.pieces.foldlM s.follow (s.start p) = .ok l := by
  rw [locate]
  constructor
  · intro h
    split at h
    · cases h
    · split at h
      · cases h
      · split at h
        · cases h
        · rename_i hnull hsize hempty
          exact ⟨by simpa using hnull, Nat.le_of_not_lt hsize, hempty, h⟩
  · rintro ⟨hnull, hsize, hempty, h⟩
    rw [hnull, if_neg Bool.false_ne_true, if_neg (Nat.not_lt.mpr hsize), if_neg hempty]
    exact h

theorem place_of_locate (h : s.locate p = .ok l) : s.place p = l :=
  climb_of_foldlM (locate_eq_ok_iff.mp h).2.2.2

theorem dropLast_of_locate (h : s.locate p = .ok l) : s.get? l.dropLast = some .folder :=
  dropLast_of_foldlM (get?_dropLast (s.get?_start p)) (locate_eq_ok_iff.mp h).2.2.2

theorem find_eq_ok_iff {e : Entry} :
    s.find p = .ok e ↔ ∃ loc, s.locate p = .ok loc ∧ s.get? loc = some e := by
  rw [find]
  constructor
  · intro h
    obtain ⟨loc, hloc, hfind⟩ := exists_of_bind_eq_ok h
    refine ⟨loc, hloc, ?_⟩
    split at hfind <;> cases hfind
    assumption
  · rintro ⟨loc, hloc, he⟩
    rw [hloc]
    simp only [bind, Except.bind, he]
    rfl

/-! ### Keeping folders -/

/-- Whether every folder of a store is a folder of another one that is otherwise used alike: paths
start at the same places, and folders list in the same order. -/
structure KeepsFolders (s t : Store) : Prop where
  folder : ∀ loc : Location, s.get? loc = some .folder → t.get? loc = some .folder
  working : t.working = s.working
  listing : t.listing = s.listing

theorem KeepsFolders.start (hkeeps : KeepsFolders s t) (p : Path) : t.start p = s.start p := by
  rw [Store.start, Store.start, hkeeps.working]

theorem KeepsFolders.place (hkeeps : KeepsFolders s t) (p : Path) : t.place p = s.place p := by
  rw [Store.place, Store.place, hkeeps.start]

theorem KeepsFolders.foldlM (hkeeps : KeepsFolders s t) {ps : List OsText} : ∀ {loc : Location},
    ps.foldlM s.follow loc = .ok l → ps.foldlM t.follow loc = .ok l := by
  induction ps with
  | nil => exact fun h => h
  | cons piece ps ih =>
      intro loc h
      rw [List.foldlM_cons] at h ⊢
      obtain ⟨next, hstep, hrest⟩ := exists_of_bind_eq_ok h
      have hfolder := folder_of_follow hstep
      rw [← follow_congr hfolder (hkeeps.folder loc hfolder), hstep]
      exact ih hrest

theorem KeepsFolders.locate (hkeeps : KeepsFolders s t) (h : s.locate p = .ok l) :
    t.locate p = .ok l := by
  obtain ⟨hnull, hsize, hempty, hpieces⟩ := locate_eq_ok_iff.mp h
  refine locate_eq_ok_iff.mpr ⟨hnull, hsize, hempty, ?_⟩
  rw [hkeeps.start]
  exact hkeeps.foldlM hpieces

/-! ### Changes -/

theorem get?_of_ne (h : loc ≠ []) : s.get? loc = s.entries.get? loc := by
  rw [get?, entryAt?, if_neg h]

/-- Two stores with the same entries that are used alike are the same. -/
theorem ext_entries (h : ∀ loc, s.entries.get? loc = t.entries.get? loc)
    (hworking : s.working = t.working) (hlisting : s.listing = t.listing) : s = t := by
  have hentries : s.entries = t.entries := SortedMap.ext_get? h
  cases s
  cases t
  cases hentries
  cases hworking
  cases hlisting
  rfl

/-- Putting an entry somewhere makes no difference to how a store is used. -/
theorem working_set (s : Store) (loc : Location) (e : Entry) :
    (s.set loc e).working = s.working ∧ (s.set loc e).listing = s.listing := by
  unfold set put
  split
  · split <;> exact ⟨rfl, rfl⟩
  · exact ⟨rfl, rfl⟩

theorem entries_get?_set (hparent : s.get? loc.dropLast = some .folder)
    (hfree : s.get? loc ≠ some .folder) (e : Entry) (l : Location) :
    (s.set loc e).entries.get? l = if l = loc then some e else s.entries.get? l := by
  rcases List.eq_nil_or_concat loc with rfl | ⟨folder, name, rfl⟩
  · exact absurd (get?_nil s) hfree
  · rw [List.concat_eq_append] at hparent hfree ⊢
    rw [List.dropLast_concat] at hparent
    have hset : s.set (folder ++ [name]) e = s.put folder name e := by
      simp [set]
    rw [hset, put, dif_pos ⟨hparent, hfree⟩]
    exact SortedMap.get?_insert _ _ _ _

theorem get?_set (hparent : s.get? loc.dropLast = some .folder) (hfree : s.get? loc ≠ some .folder)
    (e : Entry) (l : Location) : (s.set loc e).get? l = if l = loc then some e else s.get? l := by
  by_cases hl : l = []
  · have hne : l ≠ loc := by
      rintro rfl
      exact hfree (hl ▸ get?_nil s)
    rw [if_neg hne, hl, get?_nil, get?_nil]
  · rw [get?_of_ne hl, get?_of_ne hl, entries_get?_set hparent hfree]

theorem keepsFolders_set (hparent : s.get? loc.dropLast = some .folder)
    (hfree : s.get? loc ≠ some .folder) (e : Entry) : KeepsFolders s (s.set loc e) where
  folder l hl := by
    have hne : l ≠ loc := fun h => hfree (h ▸ hl)
    rw [get?_set hparent hfree, if_neg hne, hl]
  working := (s.working_set loc e).1
  listing := (s.working_set loc e).2

theorem write_eq_ok {content : ByteArray} (h : s.write p content = .ok t) :
    ∃ loc, s.locate p = .ok loc ∧ s.get? loc ≠ some .folder ∧ t = s.set loc (.file content) := by
  rw [write] at h
  obtain ⟨loc, hloc, hset⟩ := exists_of_bind_eq_ok h
  refine ⟨loc, hloc, ?_⟩
  split at hset <;> cases hset
  exact ⟨‹_›, rfl⟩

theorem write_of_error {content : ByteArray} {fault : AccessFault}
    (h : s.locate p = .error fault) : s.write p content = .error fault := by
  rw [write, h]
  rfl

theorem write_of_folder {content : ByteArray} (hloc : s.locate p = .ok loc)
    (hfolder : s.get? loc = some .folder) : s.write p content = .error .isFolder := by
  rw [write, hloc]
  simp only [bind, Except.bind, hfolder]
  rfl

theorem write_of_locate {content : ByteArray} (hloc : s.locate p = .ok loc)
    (hfree : s.get? loc ≠ some .folder) : s.write p content = .ok (s.set loc (.file content)) := by
  rw [write, hloc]
  simp only [bind, Except.bind]
  rfl

theorem read_eq_ok {content : ByteArray} (hloc : s.locate p = .ok loc)
    (hfile : s.get? loc = some (.file content)) : s.read p = .ok content := by
  rw [read, find_eq_ok_iff.mpr ⟨loc, hloc, hfile⟩]
  rfl

theorem exists_file_of_read {content : ByteArray} (h : s.read p = .ok content) :
    ∃ loc, s.locate p = .ok loc ∧ s.get? loc = some (.file content) := by
  rw [read] at h
  obtain ⟨e, hfind, hread⟩ := exists_of_bind_eq_ok h
  cases e with
  | folder => cases hread
  | file content =>
      cases hread
      exact find_eq_ok_iff.mp hfind

theorem read_of_write {content : ByteArray} (h : s.write p content = .ok t) :
    t.read p = .ok content := by
  obtain ⟨loc, hloc, hfree, rfl⟩ := write_eq_ok h
  have hparent := dropLast_of_locate hloc
  refine read_eq_ok ((keepsFolders_set hparent hfree _).locate hloc) ?_
  rw [get?_set hparent hfree, if_pos rfl]

end Store

end StructuralGrading
