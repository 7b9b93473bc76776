import StructuralGrading.Batch.Basic
import StructuralGrading.Proofs.Script.Folders
import StructuralGrading.Proofs.Store.Descending
import Mathlib.Data.List.Infix

/-! # What a batch starts from

A batch that is prepared has jobs for students who have a folder each, and a folder for the reports.

* `Store.Named`: whether everything in a store has a name that paths can have;
* `Path.not_mem_of_stem?`: tasks that are found have no separator in their names;
* `exists_names_of_yields_subfolders`: students come in the order of the names of their folders;
* `Batch.prepare_of_listed`, `Batch.exists_of_yields_prepare`: what a batch is prepared from;
* `Batch.Prepared`, `Batch.prepared_prepare`: what is there when it is prepared. -/

namespace StructuralGrading

open Script (yields leaves)

/-! ### Names -/

/-- Whether all names in a store are names that a path can lead to. -/
def Store.Named (s : Store) : Prop := ∀ e ∈ s.entries.entries, ∀ name ∈ e.1, Path.IsName name

instance (s : Store) : Decidable s.Named := inferInstanceAs (Decidable (∀ e ∈ _, _))

theorem Store.named_iff {s : Store} :
    s.Named ↔ ∀ loc e, s.get? loc = some e → ∀ name ∈ loc, Path.IsName name := by
  constructor
  · intro hs loc e he name hname
    by_cases hloc : loc = []
    · rw [hloc] at hname
      cases hname
    · rw [Store.get?_of_ne hloc] at he
      exact hs (loc, e) (SortedMap.mem_entries_iff.mpr he) name hname
  · rintro hs ⟨loc, e⟩ he name hname
    have hloc : loc ≠ [] := by
      rintro rfl
      cases hname
    exact hs loc e ((Store.get?_of_ne hloc).trans (SortedMap.mem_entries_iff.mp he)) name hname

theorem Store.Named.isName_of_append {s : Store} (h : s.Named) {d rest : Location}
    (hsome : (s.get? (d ++ rest)).isSome = true) : ∀ name ∈ rest, Path.IsName name := by
  obtain ⟨e, he⟩ := Option.isSome_iff_exists.mp hsome
  exact fun name hname => Store.named_iff.mp h _ e he name (List.mem_append_right d hname)

theorem Store.Named.isName {s : Store} (h : s.Named) {d : Location} {name : OsText}
    (hname : name ∈ s.names d) : Path.IsName name :=
  h.isName_of_append (Store.mem_names_iff.mp hname) name (List.mem_singleton_self name)

/-- A store with entries whose names are texts, each put in after the folder it lies in. -/
def Store.ofTexts (entries : List (List String × Entry)) : Store :=
  entries.foldl (fun s e => s.set (e.1.map .ofText) e.2) .empty

namespace Path

variable {p : Path} {name : OsText}

theorem not_mem_of_fileName? (h : p.fileName? = some name) : separator ∉ name := by
  rw [fileName?] at h
  split at h
  · rename_i text hlast
    cases h
    have hmem := List.mem_of_getLast? hlast
    rw [route, List.mem_append] at hmem
    rcases hmem with hstart | hsteps
    · split at hstart
      · simp at hstart
      · split at hstart <;> simp at hstart
    · obtain ⟨piece, hpiece, hstep⟩ := List.mem_filterMap.mp hsteps
      rw [Step.ofPiece?] at hstep
      split at hstep
      · cases hstep
      · split at hstep
        · cases hstep
        · cases hstep
          exact not_mem_of_mem_pieces hpiece
  · cases h

theorem mem_of_mem_stemOf {c : UInt8} (h : c ∈ stemOf name) : c ∈ name := by
  rw [stemOf] at h
  split at h
  · exact h
  · rw [List.mem_reverse] at h
    exact List.mem_reverse.mp ((List.dropWhile_sublist _).mem (List.mem_of_mem_drop h))

theorem not_mem_of_stem? {stem : OsText} (h : p.stem? = some stem) :
    '/' ∉ stem.shown.toList := by
  obtain ⟨name, hname, rfl⟩ := Option.map_eq_some_iff.mp h
  intro hmem
  have hbyte := OsText.byte_mem_of_mem_shown (by decide) hmem
  exact not_mem_of_fileName? hname (mem_of_mem_stemOf hbyte)

end Path

/-! ### Listing -/

section listing

variable {s : Store} {root : Path} {folders : List Path}

theorem run_foldersAmong (s : Store) : ∀ ps : List Path,
    ((foldersAmong ps).run s).store = s ∧
      ((foldersAmong ps).run s).result = ps.filter s.hasFolder
  | [] => ⟨rfl, rfl⟩
  | p :: ps => by
      obtain ⟨hstore, hresult⟩ := run_foldersAmong s ps
      have hrun : ((foldersAmong (p :: ps)).run s) = ((foldersAmong ps).bind fun rest =>
          .done (if s.hasFolder p then p :: rest else rest)).run s := rfl
      rw [hrun, Script.store_bind, Script.result_bind, hstore, hresult, List.filter_cons]
      exact ⟨rfl, rfl⟩

/-- The folders that are listed are those among the paths of the names in a folder, sorted. -/
theorem yields_subfolders_eq_ok_iff :
    yields (subfolders root) s = .ok folders ↔ ∃ listed, s.list root = .ok listed ∧
      folders = Path.sort ((listed.map root.join).filter s.hasFolder) := by
  have hstay : leaves (Script.list root) s = s := rfl
  have hrest : ∀ listed : List OsText, yields (do
      let folders ← liftM (foldersAmong (listed.map root.join))
      return Path.sort folders : ExceptT AccessFault Script (List Path)) s =
        .ok (Path.sort ((listed.map root.join).filter s.hasFolder)) := by
    intro listed
    rw [Script.yields_bind_pure, Script.yields_lift, (run_foldersAmong s _).2]
    rfl
  constructor
  · intro h
    obtain ⟨listed, hlist, hyields, -⟩ := Script.exists_of_yields_bind _ _ s h
    rw [hstay, hrest] at hyields
    cases hyields
    exact ⟨listed, hlist, rfl⟩
  · rintro ⟨listed, hlist, rfl⟩
    have hyields : yields (Script.list root) s = .ok listed := hlist
    rw [subfolders, (Script.bind_of_ok _ _ s hyields).1, hstay, hrest]

/-- In whatever order a folder lists its names, the folders in it come in the order of theirs. -/
theorem yields_subfolders_of_perm {listed names : List OsText} (hlist : s.list root = .ok listed)
    (hperm : (listed.filter (s.hasFolder ∘ root.join)).Perm names)
    (hsorted : names.Pairwise (compare · · = .lt)) (hnames : ∀ n ∈ names, Path.IsName n) :
    yields (subfolders root) s = .ok (names.map root.join) := by
  obtain ⟨d, hloc, -, -⟩ := Store.list_eq_ok_iff.mp hlist
  have hne : root ≠ [] := (Store.locate_eq_ok_iff.mp hloc).2.2.1
  refine yields_subfolders_eq_ok_iff.mpr ⟨listed, hlist, ?_⟩
  rw [List.filter_map]
  exact (Path.sort_join hne hnames hsorted hperm).symm

theorem exists_names_of_yields_subfolders (hs : s.Named)
    (h : yields (subfolders root) s = .ok folders) :
    ∃ (d : Location) (listed names : List OsText), s.Opens root d ∧ root ≠ [] ∧
      s.list root = .ok listed ∧
      (∀ n, n ∈ names ↔ n ∈ listed ∧ s.hasFolder (root.join n) = true) ∧
      names.Pairwise (compare · · = .lt) ∧ (∀ n ∈ names, Path.IsName n) ∧
      folders = names.map root.join := by
  obtain ⟨listed, hlist, -⟩ := yields_subfolders_eq_ok_iff.mp h
  obtain ⟨d, hloc, hd, hlisted⟩ := Store.list_eq_ok_iff.mp hlist
  have hperm : listed.Perm (s.names d) := hlisted ▸ s.listing.perm d _
  have hsorted := (s.pairwise_names d).filter (s.hasFolder ∘ root.join)
  have hnames : ∀ n ∈ (s.names d).filter (s.hasFolder ∘ root.join), Path.IsName n :=
    fun n hn => hs.isName (List.mem_filter.mp hn).1
  have hne : root ≠ [] := (Store.locate_eq_ok_iff.mp hloc).2.2.1
  refine ⟨d, listed, _, Store.opens_of_locate hloc hd, hne, hlist, fun n => ?_, hsorted, hnames, ?_⟩
  · rw [List.mem_filter, hperm.mem_iff]
    rfl
  · have hyields := yields_subfolders_of_perm hlist (hperm.filter _) hsorted hnames
    exact Except.ok.inj (h.symm.trans hyields)

theorem leaves_subfolders (s : Store) (root : Path) : leaves (subfolders root) s = s := by
  refine Script.leaves_bind_eq _ _ s rfl fun listed => ?_
  rw [Script.leaves_bind_pure, Script.leaves_lift]
  exact (run_foldersAmong s _).1

end listing

/-! ### Tasks -/

section tasks

variable {c : Configuration} {s : Store} {tasks : List String}

theorem leaves_findFiles (extension : String) (depth : Int) (root : Path) (s : Store) :
    leaves (findFiles extension depth root) s = s := by
  rw [findFiles]
  split
  · rfl
  · split
    · rfl
    · rw [Script.leaves_bind_pure]
      rfl

theorem leaves_resolveTasks (c : Configuration) (s : Store) : leaves (resolveTasks c) s = s := by
  rw [resolveTasks]
  split
  · exact Script.leaves_bind_eq _ _ s (leaves_findFiles _ _ _ s) fun _ => rfl
  · rfl

theorem yields_resolveTasks (h : yields (resolveTasks c) s = .ok tasks) :
    tasks = c.tasks ∨
      ∀ t ∈ tasks, ∃ (p : Path) (stem : OsText), p.stem? = some stem ∧ t = stem.shown := by
  rw [resolveTasks] at h
  split at h
  · obtain ⟨paths, -, hrest, -⟩ := Script.exists_of_yields_bind _ _ s h
    have hfound : tasks = paths.filterMap fun p => p.stem?.map OsText.shown :=
      (Except.ok.inj hrest).symm
    refine .inr fun t ht => ?_
    obtain ⟨p, -, hp⟩ := List.mem_filterMap.mp (hfound ▸ ht)
    obtain ⟨stem, hstem, rfl⟩ := Option.map_eq_some_iff.mp hp
    exact ⟨p, stem, hstem, rfl⟩
  · cases h
    exact .inl rfl

end tasks

/-! ### Prepared batches -/

namespace Batch

/-- What is there when a batch is prepared: a folder for the reports at the path of the results, and
for every job a folder among the submissions, by whose name the student is called. -/
structure Prepared (c : Configuration) (s : Store) (js : List Job) : Prop where
  results : c.results.ancestors = [] ∨ s.hasFolder c.results = true
  submissions : ∃ d, s.Opens c.submissions d ∧
    ∀ j ∈ js, ∃ name : OsText, Path.IsName name ∧ j.student = name.shown ∧
      j.folder = c.submissions.join name ∧ s.Opens j.folder (d ++ [name])
  separator_notMem : ∀ j ∈ js, '/' ∉ j.task.toList

theorem jobs_map_join {root : Path} (hne : root ≠ []) {names : List OsText}
    (hnames : ∀ n ∈ names, Path.IsName n) (tasks : List String) :
    jobs (names.map root.join) tasks = names.flatMap fun name =>
      tasks.map fun task => ⟨name.shown, root.join name, task⟩ := by
  rw [jobs, List.flatMap_map]
  refine List.flatMap_congr fun name hname => ?_
  rw [Path.fileName?_join hne (hnames name hname)]

section preparing

variable {c : Configuration} {s : Store} {tasks : List String} {folders : List Path}
  {js : List Job}

/-- Where the tasks and the students are listed, a batch is prepared by making the folder for the
reports. -/
theorem prepare_of_listed (hresolve : yields (resolveTasks c) s = .ok tasks)
    (hlisted : yields (subfolders c.submissions) s = .ok folders) :
    yields (prepare c) s =
        ((yields (Script.makeFolders c.results) s).mapError (.results c.results)).map
          (fun _ => jobs folders tasks) ∧
      leaves (prepare c) s = leaves (Script.makeFolders c.results) s := by
  have htasks : yields ((resolveTasks c).adapt BatchFault.search) s = .ok tasks :=
    (Script.yields_adapt_eq_ok _ s).mpr hresolve
  have hfolders : yields ((subfolders c.submissions).adapt
      (BatchFault.submissions c.submissions)) s = .ok folders :=
    (Script.yields_adapt_eq_ok _ s).mpr hlisted
  have htold : Script.OnlyLooks (fun _ => True) (do
      (Script.tellAll ((folders.filterMap Path.fileName?).map fun student =>
        .evaluating student.shown) : Script Unit)
      return jobs folders tasks : ExceptT BatchFault Script (List Job)) :=
    Script.onlyLooks_tellAll _ trivial
  rw [prepare, (Script.bind_of_ok _ _ s htasks).1, (Script.bind_of_ok _ _ s htasks).2,
    Script.leaves_adapt, leaves_resolveTasks, (Script.bind_of_ok _ _ s hfolders).1,
    (Script.bind_of_ok _ _ s hfolders).2, Script.leaves_adapt, leaves_subfolders,
    Script.yields_bind, Script.leaves_bind, Script.yields_adapt, Script.leaves_adapt]
  cases yields (Script.makeFolders c.results) s with
  | error fault => exact ⟨rfl, rfl⟩
  | ok _ => exact ⟨Script.yields_tellAll _ _ _, htold.leaves_eq _⟩

/-- What a batch is prepared from: tasks, students, and a folder for the reports, which is all that
is made. -/
theorem exists_of_yields_prepare (h : yields (prepare c) s = .ok js) :
    ∃ tasks folders, yields (resolveTasks c) s = .ok tasks ∧
      yields (subfolders c.submissions) s = .ok folders ∧
      yields (Script.makeFolders c.results) s = .ok () ∧
      js = jobs folders tasks ∧
      leaves (prepare c) s = leaves (Script.makeFolders c.results) s := by
  obtain ⟨tasks, hresolve, hrest, -⟩ := Script.exists_of_yields_bind _ _ s h
  rw [Script.yields_adapt_eq_ok] at hresolve
  rw [Script.leaves_adapt, leaves_resolveTasks] at hrest
  obtain ⟨folders, hlisted, -⟩ := Script.exists_of_yields_bind _ _ s hrest
  rw [Script.yields_adapt_eq_ok] at hlisted
  obtain ⟨hyields, hleaves⟩ := prepare_of_listed hresolve hlisted
  rw [hyields] at h
  cases hmake : yields (Script.makeFolders c.results) s with
  | error fault =>
      rw [hmake] at h
      cases h
  | ok _ =>
      rw [hmake] at h
      cases h
      exact ⟨tasks, folders, hresolve, hlisted, rfl, rfl, hleaves⟩

end preparing

theorem prepared_prepare {c : Configuration} {s : Store} {js : List Job} (hs : s.Named)
    (htasks : ∀ t ∈ c.tasks, '/' ∉ t.toList) (h : yields (prepare c) s = .ok js) :
    Prepared c (leaves (prepare c) s) js := by
  obtain ⟨tasks, folders, hresolve, hlisted, hresults, rfl, hleaves⟩ := exists_of_yields_prepare h
  obtain ⟨d, listed, names, hopens, hne, -, hmem, -, hnames, rfl⟩ :=
    exists_names_of_yields_subfolders hs hlisted
  rw [hleaves, jobs_map_join hne hnames]
  have hkeeps : Store.KeepsFolders s (leaves (Script.makeFolders c.results) s) :=
    Script.keepsFolders_run _ s
  refine ⟨Script.hasFolder_of_makeFolders hresults, ⟨d, hopens.keep hkeeps, fun j hj => ?_⟩,
    fun j hj => ?_⟩
  · obtain ⟨name, hname, hj⟩ := List.mem_flatMap.mp hj
    obtain ⟨task, -, rfl⟩ := List.mem_map.mp hj
    refine ⟨name, hnames name hname, rfl, rfl, ?_⟩
    obtain ⟨l, hloc, hopensJ⟩ := Store.opens_of_hasFolder ((hmem name).mp hname).2
    obtain ⟨d', hopens', rfl⟩ := Store.opens_of_locate_join (hnames name hname) hloc
    obtain rfl := hopens'.unique hopens
    exact hopensJ.keep hkeeps
  · obtain ⟨name, -, hj⟩ := List.mem_flatMap.mp hj
    obtain ⟨task, htask, rfl⟩ := List.mem_map.mp hj
    rcases yields_resolveTasks hresolve with rfl | hfound
    · exact htasks task htask
    · obtain ⟨p, stem, hstem, rfl⟩ := hfound task htask
      exact Path.not_mem_of_stem? hstem

end Batch

end StructuralGrading
