import StructuralGrading.Proofs.Batch.Preparation
import StructuralGrading.Proofs.Store.Searching

/-! # Finding the tasks of a batch

If a configuration names no tasks then they are found by their references: every entry in the folder
of the references that has the ending of a program stands for a task.

* `yields_findFiles_of_plain`: what a search for files finds, whatever its depth is;
* `yields_findFiles`: what it finds in a folder alone;
* `yields_resolveTasks_of_plain`: the tasks are the stems of what is found;
* `resolveTasks_finds`: the main result;
* `resolveTasks_misses`: what becomes of a folder whose path says something else in a pattern. -/

namespace StructuralGrading

open Script (yields leaves)
open Pattern (only anyWith)
open Store (descend)

variable {c : Configuration} {s : Store} {root : Path} {d : Location} {names : List OsText}

/-! ### Stems -/

theorem Path.stemOf_append {t : String} (h : t ≠ "") :
    stemOf (.ofText (t ++ ".py")) = .ofText t := by
  have hne : (OsText.ofText t).reverse ≠ [] := by
    rw [ne_eq, List.reverse_eq_nil_iff, OsText.ofText_eq_nil_iff]
    exact h
  have hending : OsText.ofText ".py" = [dot, OsText.byte 'p', OsText.byte 'y'] := by decide
  have hdots : OsText.byte 'p' ≠ dot ∧ OsText.byte 'y' ≠ dot := by decide
  have hbefore : ((OsText.ofText (t ++ ".py")).reverse.dropWhile (· != dot)).drop 1 =
      (OsText.ofText t).reverse := by
    simp [OsText.ofText_append, hending, hdots]
  rw [stemOf, hbefore]
  split
  · rename_i hnil
    exact absurd hnil hne
  · rw [List.reverse_reverse]

/-! ### Files and tasks -/

/-- Files are found by a search for the pattern of their extension, if nothing else is left open in
the pattern. -/
theorem yields_findFiles_eq_search (hroot : root ≠ []) (hliteral : root.IsLiteral)
    {extension : String} (hsep : '/' ∉ extension.toList)
    (hextension : ∀ c ∈ extension.toList, Pattern.IsLiteral c) (depth : Int) :
    yields (findFiles extension depth root) s = .ok (Path.sort
      (s.search ⟨root.isAbsolute, root.texts.map only ++
        (Pattern.between depth.toNat ++ [.name (anyWith ("." ++ extension).toList)]), false⟩)) := by
  obtain ⟨text, htext, hpattern⟩ := Pattern.ofText_pathFor hroot hliteral hsep hextension depth
  rw [findFiles]
  simp only [htext, hpattern]
  rfl

theorem yields_findFiles_of_plain (hplain : root.IsPlain) (hroot : s.locate root = .ok d)
    (hd : s.get? d = some .folder) {extension : String} (hsep : '/' ∉ extension.toList)
    (hextension : ∀ c ∈ extension.toList, Pattern.IsLiteral c) (depth : Int) :
    yields (findFiles extension depth root) s = .ok (Path.sort
      ((s.found root.plainly d ("." ++ extension) depth.toNat).map (descend root.plainly))) := by
  obtain ⟨-, hq, hsearch⟩ := Store.search_plain hplain hroot hd
  rw [yields_findFiles_eq_search (Store.locate_eq_ok_iff.mp hroot).2.2.1 hplain.1 hsep hextension,
    hsearch, Store.expand_ending hq hd]

theorem yields_findFiles (hplain : root.IsPlain) (hroot : s.locate root = .ok d)
    (hd : s.get? d = some .folder) (hnames : ∀ n ∈ s.names d, Path.IsName n) (extension : String)
    (hsep : '/' ∉ extension.toList) (hextension : ∀ c ∈ extension.toList, Pattern.IsLiteral c) :
    ∃ q, q ≠ [] ∧ yields (findFiles extension 0 root) s =
      .ok ((Store.endingWith ("." ++ extension) (s.names d)).map (Store.pathIn q)) := by
  obtain ⟨hne, -⟩ := Store.search_plain hplain hroot hd
  have hfound : (s.found root.plainly d ("." ++ extension) 0).map (descend root.plainly) =
      (Store.endingWith ("." ++ extension) (s.names d)).map (Store.pathIn root.plainly) := by
    simp only [Store.found, List.map_map, Function.comp_def, Store.descend_singleton]
  have hends : ∀ n ∈ Store.endingWith ("." ++ extension) (s.names d), Path.IsName n :=
    fun n hn => hnames n (Store.mem_endingWith_iff.mp hn).1
  have hsort := Store.sort_pathIn hne hends ((s.pairwise_names d).filter _)
  refine ⟨root.plainly, hne, ?_⟩
  rw [yields_findFiles_of_plain hplain hroot hd hsep hextension, Int.toNat_zero, hfound, hsort]

theorem yields_resolveTasks_of_findFiles {q : Path} (hunset : c.tasks = []) (hne : q ≠ [])
    (hnames : ∀ n ∈ names, Path.IsName n)
    (hfound : yields (findFiles "py" 0 c.references) s =
      .ok ((Store.endingWith ".py" names).map (Store.pathIn q))) :
    yields (resolveTasks c) s =
      .ok ((Store.endingWith ".py" names).map fun n => (Path.stemOf n).shown) := by
  have hstems : ((Store.endingWith ".py" names).map (Store.pathIn q)).filterMap
      (fun p => p.stem?.map OsText.shown) =
        (Store.endingWith ".py" names).map fun n => (Path.stemOf n).shown := by
    rw [List.filterMap_map, ← List.filterMap_eq_map]
    refine List.filterMap_congr fun n hn => ?_
    rw [Function.comp_apply,
      Store.stem?_pathIn hne (hnames n (Store.mem_endingWith_iff.mp hn).1)]
    rfl
  rw [resolveTasks, if_pos (by rw [hunset]; rfl), (Script.bind_of_ok _ _ s hfound).1]
  exact congrArg Except.ok hstems

theorem yields_resolveTasks_of_plain (hunset : c.tasks = []) (hplain : c.references.IsPlain)
    (hroot : s.locate c.references = .ok d) (hd : s.get? d = some .folder)
    (hnames : ∀ n ∈ s.names d, Path.IsName n) :
    yields (resolveTasks c) s =
      .ok ((Store.endingWith ".py" (s.names d)).map fun n => (Path.stemOf n).shown) := by
  obtain ⟨q, hne, hfound⟩ := yields_findFiles hplain hroot hd hnames "py" (by decide)
    (by simp [Pattern.IsLiteral])
  exact yields_resolveTasks_of_findFiles hunset hne hnames hfound

/-- From the empty path, files are found in the working folder. -/
theorem yields_resolveTasks_of_empty (hunset : c.tasks = []) (hempty : c.references = [])
    (hnames : ∀ n ∈ s.names s.working, Path.IsName n) :
    yields (resolveTasks c) s =
      .ok ((Store.endingWith ".py" (s.names s.working)).map fun n => (Path.stemOf n).shown) := by
  have hpath : (Pattern.pathFor "py" 0 []).text? = some "*.py" := by decide +kernel
  have hpattern : Pattern.ofText "*.py" = .ok ⟨false, [.name (anyWith ".py".toList)], false⟩ := by
    decide +kernel
  have hends : ∀ n ∈ Store.endingWith ".py" (s.names s.working), Path.IsName n :=
    fun n hn => hnames n (Store.mem_endingWith_iff.mp hn).1
  have hdot : [Path.dot] ≠ [] := by decide
  refine yields_resolveTasks_of_findFiles hunset hdot hnames ?_
  rw [hempty, findFiles]
  simp only [hpath, hpattern]
  have hsearch : s.search ⟨false, [.name (anyWith ".py".toList)], false⟩ =
      (Store.endingWith ".py" (s.names s.working)).map (Store.pathIn [Path.dot]) := by
    rw [Store.search_eq]
    exact Store.expand_name s.locate_here s.working_folder ".py"
  have hsort := Store.sort_pathIn hdot hends ((s.pairwise_names s.working).filter _)
  show Except.ok (Path.sort (s.search ⟨false, [.name (anyWith ".py".toList)], false⟩)) = _
  rw [hsearch, hsort]

/-- Where nothing is left open in the path of the references, but it means something else at the start
of a pattern, no task is found. -/
theorem yields_resolveTasks_of_not_plain (hunset : c.tasks = []) (hliteral : c.references.IsLiteral)
    (hplain : ¬c.references.IsPlain) (s : Store) : yields (resolveTasks c) s = .ok [] := by
  have hne : c.references ≠ [] := fun h => hplain (h ▸ by decide +kernel)
  have hfound : yields (findFiles "py" 0 c.references) s = .ok [] := by
    rw [yields_findFiles_eq_search hne hliteral (by decide) (by simp [Pattern.IsLiteral]),
      Store.search_eq_nil hliteral hplain, Path.sort, List.mergeSort_nil]
  rw [resolveTasks, if_pos (by rw [hunset]; rfl), (Script.bind_of_ok _ _ s hfound).1]
  rfl

theorem map_stemOf_endingWith (hbare : OsText.ofText ".py" ∉ names) :
    ((Store.endingWith ".py" names).map fun n => (Path.stemOf n).shown).map
      (fun t => OsText.ofText (t ++ ".py")) = Store.endingWith ".py" names := by
  rw [List.map_map]
  refine (List.map_congr_left fun n hn => ?_).trans (List.map_id _)
  obtain ⟨hn, t, rfl⟩ := Store.mem_endingWith_iff.mp hn
  have ht : t ≠ "" := by
    rintro rfl
    exact hbare hn
  rw [Function.comp_apply, Path.stemOf_append ht, OsText.shown_ofText]
  rfl

/-- **Discovered tasks are the reference programs.** Let a configuration name no tasks, and let the
path of the references be that of a folder and mean the same at the start of a pattern.  If no entry
in it consists of the ending alone, then a text is a task exactly if the folder has an entry with
that name and the ending.  Each is found once, in the order of the entries, and nothing changes.  So
every task has its reference, unless its path is of no use in itself. -/
theorem resolveTasks_finds (hnamed : s.Named) (hunset : c.tasks = [])
    (hlist : s.list c.references = .ok names) (hplain : c.references.IsPlain)
    (hbare : OsText.ofText ".py" ∉ names) :
    ∃ tasks, yields (resolveTasks c) s = .ok tasks ∧ leaves (resolveTasks c) s = s ∧
      (∀ t : String, t ∈ tasks ↔ OsText.ofText (t ++ ".py") ∈ names) ∧ tasks.Nodup ∧
      (tasks.map fun t => OsText.ofText (t ++ ".py")).Pairwise (compare · · = .lt) ∧
      ∀ t ∈ tasks, s.hasEntry (c.referenceOf t) = true ∨
        s.locate (c.referenceOf t) = .error .nameTooLong ∨
        s.locate (c.referenceOf t) = .error .nameWithNull := by
  obtain ⟨d, hroot, hd, hlisted⟩ := Store.list_eq_ok_iff.mp hlist
  have hperm : names.Perm (s.names d) := hlisted ▸ s.listing.perm d _
  rw [hperm.mem_iff] at hbare
  have hyields := yields_resolveTasks_of_plain hunset hplain hroot hd fun n => hnamed.isName
  have hentries := map_stemOf_endingWith hbare
  have hordered : (((Store.endingWith ".py" (s.names d)).map fun n => (Path.stemOf n).shown).map
      fun t => OsText.ofText (t ++ ".py")).Pairwise (compare · · = .lt) := by
    rw [hentries]
    exact (s.pairwise_names d).filter _
  have hmem : ∀ t, t ∈ (Store.endingWith ".py" (s.names d)).map (fun n => (Path.stemOf n).shown) ↔
      OsText.ofText (t ++ ".py") ∈ s.names d := by
    intro t
    have hinjective : Function.Injective fun t : String => OsText.ofText (t ++ ".py") :=
      fun a b h => (String.append_left_inj ".py").mp (OsText.ofText_injective h)
    rw [← List.mem_map_of_injective hinjective, hentries, Store.mem_endingWith_iff,
      and_iff_left ⟨t, rfl⟩]
  refine ⟨_, hyields, leaves_resolveTasks c s, fun t => (hmem t).trans hperm.mem_iff.symm,
    (Sorted.nodup_of_pairwise hordered).of_map, hordered, fun t ht => ?_⟩
  have hentry := (hmem t).mp ht
  rcases (Store.opens_of_locate hroot hd).locate_join (hnamed.isName hentry) with hloc | hlost
  · obtain ⟨e, he⟩ := Option.isSome_iff_exists.mp (Store.mem_names_iff.mp hentry)
    refine .inl ?_
    rw [Store.hasEntry, Configuration.referenceOf, Configuration.sourceIn,
      Store.find_eq_ok_iff.mpr ⟨_, hloc, he⟩]
    rfl
  · exact .inr hlost

/-- The configuration that names no tasks. -/
def openConfiguration : Configuration := { Configuration.standard with tasks := [] }

/-- References for two tasks, one of them with a dot in its name, and another file. -/
def referenceStore : Store := .ofTexts
  [(["correct_code"], .folder), (["correct_code", "notes.txt"], .file .empty),
    (["correct_code", "part.two.py"], .file .empty), (["correct_code", "task1.py"], .file .empty)]

/-- The references in the standard folder are found, and the other file is not. -/
theorem resolveTasks_finds_both :
    let names := ["notes.txt", "part.two.py", "task1.py"].map OsText.ofText
    referenceStore.Named ∧ openConfiguration.tasks = [] ∧
    referenceStore.list openConfiguration.references = .ok names ∧
    openConfiguration.references.IsPlain ∧ OsText.ofText ".py" ∉ names ∧
    ∃ tasks, yields (resolveTasks openConfiguration) referenceStore = .ok tasks ∧
      "part.two" ∈ tasks ∧ "task1" ∈ tasks ∧ "notes" ∉ tasks := by
  intro names
  have hnamed : referenceStore.Named := by decide +kernel
  have hlist : referenceStore.list openConfiguration.references = .ok names := by decide +kernel
  have hplain : openConfiguration.references.IsPlain := by decide +kernel
  have hbare : OsText.ofText ".py" ∉ names := by decide
  obtain ⟨tasks, hyields, -, hmem, -⟩ := resolveTasks_finds hnamed rfl hlist hplain hbare
  refine ⟨hnamed, rfl, hlist, hplain, hbare, tasks, hyields, ?_⟩
  rw [hmem, hmem, hmem]
  decide

/-! ### A path that says something else in a pattern -/

/-- A configuration whose references are in a folder with brackets in its name. -/
def bracketConfiguration : Configuration :=
  { openConfiguration with references := .ofText "ref[1]" }

/-- The reference for one task in that folder. -/
def bracketStore : Store :=
  .ofTexts [(["ref[1]"], .folder), (["ref[1]", "task1.py"], .file .empty)]

/-- In a pattern brackets stand for one of the characters between them, so the folder is not found,
and neither is the reference in it. -/
theorem resolveTasks_misses :
    bracketStore.Named ∧ bracketConfiguration.tasks = [] ∧
    bracketStore.list bracketConfiguration.references = .ok [.ofText "task1.py"] ∧
    ¬∃ tasks, yields (resolveTasks bracketConfiguration) bracketStore = .ok tasks ∧
      ∀ t : String, t ∈ tasks ↔ OsText.ofText (t ++ ".py") ∈ [OsText.ofText "task1.py"] := by
  have hnone : yields (resolveTasks bracketConfiguration) bracketStore = .ok [] := by
    decide +kernel
  refine ⟨by decide +kernel, rfl, by decide +kernel, ?_⟩
  rintro ⟨tasks, hyields, hmem⟩
  rw [hnone] at hyields
  cases hyields
  exact absurd ((hmem "task1").mpr (by decide)) List.not_mem_nil

end StructuralGrading
