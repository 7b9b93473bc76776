import StructuralGrading.Proofs.Batch.Discovery
import StructuralGrading.Proofs.Batch.Frame

/-! # A batch after itself

When a batch has come to its end then doing it again lists the same tasks and students, grades them
alike, and leaves the store as it is.

* `Batch.Ready.yields_resolveTasks_of_onward`, `Batch.yields_subfolders_of_sameIn`: what is listed
  after the jobs is what is listed before them;
* `Configuration.ListsAlike`, `Batch.listsAlike_of_straight`: when it is what is listed before the
  folder for the reports is made;
* `Batch.Ready.completes_again`: the second run;
* `Batch.evaluate_frame`: the main result. -/

namespace StructuralGrading

open Script (yields leaves)
open Store (KeepsFolders Opens SameIn)

namespace Batch

variable {parse : Parser} {c : Configuration} {s t u : Store} {js : List Job} {results : Location}
  {p : Path} {d : Location} {listed : List OsText} {tasks : List String} {folders : List Path}
  {outs : List TaskOutcome}

/-! ### Listing again -/

theorem list_of_sameIn (hlist : s.list p = .ok listed) (hkeeps : KeepsFolders s t)
    (hsame : ∀ d, s.Opens p d → SameIn d s t) : t.list p = .ok listed := by
  obtain ⟨d, hloc, hd, rfl⟩ := Store.list_eq_ok_iff.mp hlist
  refine Store.list_eq_ok_iff.mpr ⟨d, hkeeps.locate hloc, hkeeps.folder d hd, ?_⟩
  have hnames : t.names d = s.names d :=
    Store.names_congr fun name => by rw [hsame d (Store.opens_of_locate hloc hd) name]
  rw [hkeeps.listing, hnames]

theorem yields_subfolders_of_sameIn (hnamed : s.Named)
    (h : yields (subfolders p) s = .ok folders) (hkeeps : KeepsFolders s t)
    (hsame : ∀ d, s.Opens p d → SameIn d s t) : yields (subfolders p) t = .ok folders := by
  obtain ⟨listed, hlist, rfl⟩ := yields_subfolders_eq_ok_iff.mp h
  refine yields_subfolders_eq_ok_iff.mpr ⟨listed, list_of_sameIn hlist hkeeps hsame, ?_⟩
  obtain ⟨d, hloc, hd, hlisted⟩ := Store.list_eq_ok_iff.mp hlist
  have hopens := Store.opens_of_locate hloc hd
  have hperm : listed.Perm (s.names d) := hlisted ▸ s.listing.perm d _
  refine congrArg Path.sort (List.filter_congr fun q hq => ?_)
  obtain ⟨name, hname, rfl⟩ := List.mem_map.mp hq
  rw [Store.hasFolder, Store.hasFolder,
    (hsame d hopens).find_join hopens hkeeps (hnamed.isName (hperm.mem_iff.mp hname))]

/-- If nothing is left open in the path of the references then the tasks that are found are a matter
of what is in their folder. -/
theorem yields_resolveTasks_of_sameIn (hnamed : s.Named) (hunset : c.tasks = [])
    (hliteral : c.references.IsLiteral)
    (hthere : c.references = [] ∨ s.hasFolder c.references = true) (hkeeps : KeepsFolders s t)
    (hsame : ∀ d, s.Opens c.references d → SameIn d s t) :
    yields (resolveTasks c) t = yields (resolveTasks c) s := by
  have hnames : ∀ d, s.Opens c.references d → t.names d = s.names d :=
    fun d hd => Store.names_congr fun name => by rw [hsame d hd name]
  by_cases hplain : c.references.IsPlain
  · rcases hthere with hempty | hthere
    · have hopens : s.Opens c.references s.working := by
        have hstart := Store.opens_start (s := s) (p := c.references) (by rw [hempty]; rfl)
        rwa [hempty] at hstart ⊢
      rw [yields_resolveTasks_of_empty hunset hempty fun n => hnamed.isName,
        yields_resolveTasks_of_empty hunset hempty, hkeeps.working, hnames _ hopens]
      rw [hkeeps.working, hnames _ hopens]
      exact fun n => hnamed.isName
    · obtain ⟨d, hloc, hd⟩ := Store.opens_of_hasFolder hthere
      rw [yields_resolveTasks_of_plain hunset hplain hloc hd.2 fun n => hnamed.isName,
        yields_resolveTasks_of_plain hunset hplain (hkeeps.locate hloc) (hkeeps.folder d hd.2),
        hnames d hd]
      rw [hnames d hd]
      exact fun n => hnamed.isName
  · rw [yields_resolveTasks_of_not_plain hunset hliteral hplain,
      yields_resolveTasks_of_not_plain hunset hliteral hplain]

theorem yields_resolveTasks_of_set (hset : c.tasks ≠ []) (s : Store) :
    yields (resolveTasks c) s = .ok c.tasks := by
  rw [resolveTasks, if_neg (by simpa using hset)]
  rfl

namespace Ready

variable (hready : Ready c s js results)

include hready

/-- If a job can leave anything then the folder of the references is found. -/
theorem hasFolder_references (hne : c.references ≠ []) {k : Job} (hk : k ∈ js) {loc : Location}
    {e : Entry} (hmark : k.Marks parse c s results loc e) : s.hasFolder c.references = true := by
  have hname : Path.IsName (.ofText (k.task ++ ".py")) :=
    Path.isName_ofText_append (hready.separator_notMem k hk) (by decide) (by decide)
  have hthere := all_hasEntry_of_marks hmark (c.referenceOf k.task) (by simp [Job.inputs])
  obtain ⟨l, hl⟩ := Store.locate_of_hasEntry hthere
  obtain ⟨d, hloc, hd⟩ := Store.locate_of_locate_join hname hne hl
  exact (Store.hasFolder_iff_of_locate hloc).mpr hd

theorem yields_resolveTasks_of_onward (hnamed : s.Named)
    (hliteral : c.tasks = [] → c.references.IsLiteral) (h : Onward parse c s js results s t) :
    yields (resolveTasks c) t = yields (resolveTasks c) s := by
  by_cases hunset : c.tasks = []
  · rcases h.eq_or_marks with rfl | ⟨k, hk, loc, e, hmark⟩
    · rfl
    · have hthere : c.references = [] ∨ s.hasFolder c.references = true :=
        or_iff_not_imp_left.mpr fun hne => hready.hasFolder_references hne hk hmark
      exact yields_resolveTasks_of_sameIn hnamed hunset (hliteral hunset) hthere h.1
        fun d hd => h.sameIn (hready.apart_references d hd)
  · rw [yields_resolveTasks_of_set hunset, yields_resolveTasks_of_set hunset]

end Ready

/-! ### The folder for the reports -/

theorem prepare_of_there (hresolve : yields (resolveTasks c) t = .ok tasks)
    (hfolders : yields (subfolders c.submissions) t = .ok folders)
    (hthere : c.results.ancestors = [] ∨ t.hasFolder c.results = true) :
    yields (prepare c) t = .ok (jobs folders tasks) ∧ leaves (prepare c) t = t := by
  obtain ⟨hyields, hleaves⟩ := prepare_of_listed hresolve hfolders
  obtain ⟨hmake, hstay⟩ := Script.makeFolders_of_there hthere
  rw [hyields, hmake]
  exact ⟨rfl, hleaves.trans hstay⟩

end Batch

/-- Whether making the folder for the reports makes no difference to the tasks and to the students
that are listed. -/
def Configuration.ListsAlike (c : Configuration) (s : Store) : Prop :=
  yields (resolveTasks c) (leaves (Script.makeFolders c.results) s) = yields (resolveTasks c) s ∧
    yields (subfolders c.submissions) (leaves (Script.makeFolders c.results) s) =
      yields (subfolders c.submissions) s

instance (c : Configuration) (s : Store) : Decidable (c.ListsAlike s) :=
  inferInstanceAs (Decidable (_ ∧ _))

namespace Batch

variable {parse : Parser} {c : Configuration} {s t u : Store} {js : List Job} {results : Location}
  {folders : List Path} {outs : List TaskOutcome}

/-- Folders on a way that never goes up are not among those that are listed, if the reports lie
apart from them. -/
theorem listsAlike_of_straight (hnamed : s.Named) (hapart : c.ResultsApart s)
    (hfolders : yields (subfolders c.submissions) s = .ok folders)
    (hup : [Path.dot, Path.dot] ∉ c.results.pieces)
    (hliteral : c.tasks = [] → c.references.IsLiteral)
    (hthere : c.tasks = [] → c.references = [] ∨ s.hasFolder c.references = true) :
    c.ListsAlike s := by
  have hadds := Script.addsFolders_makeFolders c.results s
  have hsame : ∀ p ∈ [c.submissions, c.references, c.rubrics], ∀ d, s.Opens p d →
      SameIn d s (leaves (Script.makeFolders c.results) s) := by
    intro p hp d hd name
    rcases hadds.same_or_new (d ++ [name]) with hsame | ⟨-, -, q, hq, hplace⟩
    · exact hsame
    · -- A new folder on the way to the reports would make the way lead through this one.
      have hway := s.place_prefix_of_mem_ancestors hup hq
      rw [hplace] at hway
      have hd' := (hapart p hp).1
      rw [hd.place_eq] at hd'
      exact absurd ((List.prefix_append d [name]).trans hway) hd'
  refine ⟨?_, hfolders ▸ yields_subfolders_of_sameIn hnamed hfolders hadds.keeps
    (hsame c.submissions (by simp))⟩
  by_cases hunset : c.tasks = []
  · exact yields_resolveTasks_of_sameIn hnamed hunset (hliteral hunset) (hthere hunset) hadds.keeps
      (hsame c.references (by simp))
  · rw [yields_resolveTasks_of_set hunset, yields_resolveTasks_of_set hunset]

namespace Ready

variable (hready : Ready c s js results)

include hready

/-- If a batch is prepared where its jobs have come to their ends, then they come to the same ends
and leave everything as it is. -/
theorem completes_again (hst : Onward parse c s js results s t)
    (hleft : ∀ j ∈ js, j.HasLeft parse c s results t)
    (houts : outs = js.map fun j => ((j.evaluate parse c).run s).result)
    (hprepare : yields (prepare c) t = .ok js) (hstay : leaves (prepare c) t = t) :
    Completes parse c t outs t ∧
      ∀ outs' u, Completes parse c t outs' u → outs' = outs ∧ u = t := by
  have honly : ∀ outs' u, Completes parse c t outs' u → outs' = outs ∧ u = t := by
    rintro outs' u ⟨js', schedule, hprepare', hplay⟩
    obtain rfl := Except.ok.inj (hprepare.symm.trans hprepare')
    rw [hstay] at hplay
    obtain ⟨houts', htu, hleft'⟩ := hready.outcomes_of_play hst (congrArg Pool.scripts hplay)
    rw [hplay] at htu hleft'
    exact ⟨houts'.trans houts.symm,
      eq_of_hasLeft (overTime_onward.trans hst htu) hst hleft' hleft⟩
  obtain ⟨schedule, hplay⟩ := (pool parse c js (leaves (prepare c) t)).exists_play_inTurn
  have hdone : Completes parse c t _ _ := ⟨js, schedule, hprepare, hplay⟩
  obtain ⟨hsame, hsame'⟩ := honly _ _ hdone
  rw [hsame, hsame'] at hdone
  exact ⟨hdone, honly⟩

end Ready

end Batch

/-! ### What a batch leaves -/

namespace Batch

variable {parse : Parser} {c : Configuration} {s s₀ t : Store} {js : List Job} {results : Location}
  {outs : List TaskOutcome}

/-- What a batch with certain jobs and rows makes of a store: all that is new or changed among the
files are the reports of graded rows. -/
structure LeavesReports (parse : Parser) (c : Configuration) (s : Store) (js : List Job)
    (outs : List TaskOutcome) (t : Store) : Prop where
  /-- Every job has a row. -/
  length_eq : outs.length = js.length
  /-- No folder is taken away. -/
  keeps_folders : KeepsFolders s t
  /-- No file is taken away. -/
  keeps_files : ∀ loc content, s.get? loc = some (.file content) →
    ∃ later, t.get? loc = some (.file later)
  /-- A file that is new or changed is the report of a graded row. -/
  changes : ∀ loc content, t.get? loc = some (.file content) →
    s.get? loc = some (.file content) ∨
      ∃ j o, (j, o) ∈ js.zip outs ∧ o.status = .graded ∧ t.locate (j.reportFile c) = .ok loc
  /-- The report of a graded row holds the grade of the files of its task, and these are as they
  were. -/
  graded : ∀ j o, (j, o) ∈ js.zip outs → o.status = .graded →
    (∀ p ∈ j.inputs c, ∃ loc content, t.locate p = .ok loc ∧
      s.get? loc = some (.file content) ∧ t.get? loc = some (.file content)) ∧
    ∃ g, j.ofStore parse c t = .ok g ∧ o = .graded j.student g (j.reportFile c) ∧
      t.read (j.reportFile c) = .ok g.report.toByteArray
  /-- A report that is there already stays as it is if the row is skipped, and none is made. -/
  skipped : ∀ j o, (j, o) ∈ js.zip outs → o.status ≠ .graded → ∀ loc content,
    t.locate (j.reportFile c) = .ok loc →
      (t.get? loc = some (.file content) ↔ s.get? loc = some (.file content))

theorem mem_zip_map_iff {α β : Type} {f : α → β} {as : List α} {a : α} {b : β} :
    (a, b) ∈ as.zip (as.map f) ↔ a ∈ as ∧ b = f a := by
  have hzip : as.zip (as.map f) = as.map fun a => (a, f a) := by
    simpa using List.zip_map' (f := id) (g := f) (l := as)
  rw [hzip, List.mem_map]
  constructor
  · rintro ⟨a, ha, ⟨⟩⟩
    exact ⟨ha, rfl⟩
  · rintro ⟨ha, rfl⟩
    exact ⟨a, ha, rfl⟩

namespace Ready

variable (hready : Ready c s js results)

include hready

/-- When all jobs of a prepared batch are at their ends, it has left the reports and nothing else;
also if folders had been made to prepare it. -/
theorem leavesReports {P : Path → Prop} (hmade : s₀.AddsFolders P s)
    (hst : Onward parse c s js results s t) (hleft : ∀ j ∈ js, j.HasLeft parse c s results t)
    (houts : outs = js.map fun j => ((j.evaluate parse c).run s).result) :
    LeavesReports parse c s₀ js outs t where
  length_eq := by rw [houts, List.length_map]
  keeps_folders := hmade.keeps.trans hst.1
  keeps_files loc content hfile := hst.keeps_files (hmade.get?_file_iff.mpr hfile)
  changes loc content hfile := by
    rcases hst.exists_reports_of_file hfile with hsame | ⟨j, hj, hreports, rfl⟩
    · exact .inl (hmade.get?_file_iff.mp hsame)
    · obtain ⟨g, -, hloc, -⟩ := report_of_reports hst.1 (hleft j hj) hreports
      exact .inr ⟨j, _, houts ▸ mem_zip_map_iff.mpr ⟨hj, rfl⟩,
        (hready.status_evaluate_iff parse hj).mpr hreports, hloc⟩
  graded j o ho hgraded := by
    rw [houts] at ho
    obtain ⟨hj, rfl⟩ := mem_zip_map_iff.mp ho
    obtain ⟨g, hgrade, hresult, -⟩ := j.exists_of_status_evaluate parse c hgraded
    obtain ⟨g', hgrade', -, hread⟩ := report_of_reports hst.1 (hleft j hj)
      ((hready.status_evaluate_iff parse hj).mp hgraded)
    obtain rfl := Except.ok.inj (hgrade.symm.trans hgrade')
    have hinputs : ∀ p ∈ j.inputs c, t.find p = s.find p := fun p hp => hready.find_input hj hp hst
    refine ⟨fun p hp => ?_, g, ?_, hresult, hread⟩
    · obtain ⟨loc, content, hloc, hfile⟩ := j.exists_file_of_ofStore parse c hgrade p hp
      have hread : t.read p = .ok content := by
        rw [Store.read, hinputs p hp]
        exact Store.read_eq_ok hloc hfile
      obtain ⟨loc', hloc', hfile'⟩ := Store.exists_file_of_read hread
      obtain rfl := Except.ok.inj ((hst.1.locate hloc).symm.trans hloc')
      exact ⟨loc, content, hloc', hmade.get?_file_iff.mp hfile, hfile'⟩
    · rw [j.ofStore_congr parse c hinputs, hgrade]
  skipped j o ho hskipped loc content hloc := by
    rw [houts] at ho
    obtain ⟨hj, rfl⟩ := mem_zip_map_iff.mp ho
    have hnot : ¬j.Reports parse c s results := by
      rwa [← hready.status_evaluate_iff parse hj]
    obtain rfl := hready.eq_reportPlace hj hst.1 hloc
    rw [hready.get?_of_not_reports hj hst hnot]
    exact hmade.get?_file_iff

end Ready

/-- **What a batch changes, and what a second run does.**  Let the names of a store and of the tasks
be such as files can have, and let the reports lie apart from everything that is read.  A batch that
fails has changed nothing, unless it was the folder for the reports that could not be made.  However
a batch completes for whose jobs different folders of students are shown by different names, it
takes nothing away, and the files that are new or changed are the reports of the tasks that were
graded.  If nothing is left open in the path of the references, and if making the folder for the
reports makes no difference to what is listed, then the batch completes once more with the same
outcomes, and it leaves everything as it is.  There is no difference if the path of the results
never goes up and the references are there to be listed. -/
theorem evaluate_frame (parse : Parser) (hnamed : s.Named)
    (htasks : ∀ t ∈ c.tasks, '/' ∉ t.toList) (hapart : c.ResultsApart s) :
    (∀ fault, yields (evaluate parse c) s = .error fault →
      (∃ p f, fault = .results p f) ∨ leaves (evaluate parse c) s = s) ∧
    ∀ js, yields (prepare c) s = .ok js →
      (∀ j ∈ js, ∀ k ∈ js, j.student = k.student → j.folder = k.folder) →
      ∀ outs t, Completes parse c s outs t →
        LeavesReports parse c s js outs t ∧
        ((c.tasks = [] → c.references.IsLiteral) →
          c.ListsAlike s ∨ [Path.dot, Path.dot] ∉ c.results.pieces ∧
            (c.tasks = [] → c.references = [] ∨ s.hasFolder c.references = true) →
          Completes parse c t outs t ∧
            ∀ outs' u, Completes parse c t outs' u → outs' = outs ∧ u = t) := by
  refine ⟨fun fault => leaves_of_error, fun js hprepare hshown outs t h => ?_⟩
  obtain ⟨js', schedule, hprepare', hplay⟩ := h
  obtain rfl := Except.ok.inj (hprepare.symm.trans hprepare')
  obtain ⟨tasks, folders, hresolve, hfolders, hmake, rfl, hleaves⟩ :=
    exists_of_yields_prepare hprepare
  have hmade := Script.addsFolders_makeFolders c.results s
  have hprepared := prepared_prepare hnamed htasks hprepare
  rw [hleaves] at hprepared hplay
  have hready := hprepared.ready (hapart.keep hmade.keeps) hshown
  obtain ⟨houts, hst, hleft⟩ :=
    hready.outcomes_of_play (overTime_onward.refl _) (congrArg Pool.scripts hplay)
  rw [hplay] at hst hleft
  refine ⟨hready.leavesReports hmade hst hleft houts, fun hliteral hlists => ?_⟩
  have halike : c.ListsAlike s := by
    rcases hlists with halike | ⟨hup, hthere⟩
    · exact halike
    · exact listsAlike_of_straight hnamed hapart hfolders hup hliteral hthere
  have hnamed' := hmade.named hnamed
  -- What is listed at the end is what was listed at the start.
  have hresolve' : yields (resolveTasks c) t = .ok tasks := by
    rw [hready.yields_resolveTasks_of_onward hnamed' hliteral hst, halike.1, hresolve]
  have hfolders' : yields (subfolders c.submissions) t = .ok folders := by
    refine yields_subfolders_of_sameIn hnamed' (halike.2.trans hfolders) hst.1 fun d hd => ?_
    refine hst.sameIn ?_
    rw [← hd.place_eq]
    exact hapart.keep hmade.keeps c.submissions (by simp)
  have hthere' : c.results.ancestors = [] ∨ t.hasFolder c.results = true := by
    refine (Script.hasFolder_of_makeFolders hmake).imp_right fun hthere => ?_
    obtain ⟨d, hloc, hopens⟩ := Store.opens_of_hasFolder hthere
    exact (Store.hasFolder_iff_of_locate (hst.1.locate hloc)).mpr (hst.1.folder d hopens.2)
  obtain ⟨hprepare', hstay⟩ := prepare_of_there hresolve' hfolders' hthere'
  exact hready.completes_again hst hleft houts hprepare' hstay

/-- The student with a program is graded once more, and the other one is skipped once more. -/
theorem evaluate_frame_twice :
    let c := twiceConfiguration
    let outs := ((evaluateAll (fun _ => idleTree) c idleJobs).run
      (leaves (prepare c) idleStore)).result
    idleStore.Named ∧ (∀ t ∈ c.tasks, '/' ∉ t.toList) ∧ c.ResultsApart idleStore ∧
    yields (prepare c) idleStore = .ok idleJobs ∧
    (∀ j ∈ idleJobs, ∀ k ∈ idleJobs, j.student = k.student → j.folder = k.folder) ∧
    outs.map (·.status) = [.graded, .graded, .skipped .missingFiles, .skipped .missingFiles] ∧
    ∃ t, Completes (fun _ => idleTree) c idleStore outs t ∧
      LeavesReports (fun _ => idleTree) c idleStore idleJobs outs t ∧
      Completes (fun _ => idleTree) c t outs t := by
  intro c outs
  obtain ⟨hprepare, hleaves⟩ := prepare_idleStore
  have hnamed : idleStore.Named := by decide +kernel
  have htasks : ∀ t ∈ c.tasks, '/' ∉ t.toList := by decide +kernel
  have hapart : c.ResultsApart idleStore := by decide +kernel
  have hshown : ∀ j ∈ idleJobs, ∀ k ∈ idleJobs, j.student = k.student → j.folder = k.folder := by
    decide +kernel
  have hdone := completes_evaluate (evaluate_of_prepare (fun _ => idleTree) hprepare).1
  obtain ⟨-, hall⟩ := evaluate_frame (fun _ => idleTree) hnamed htasks hapart
  obtain ⟨hleft, hagain⟩ := hall _ hprepare hshown _ _ hdone
  refine ⟨hnamed, htasks, hapart, hprepare, hshown, ?_, _, hdone, hleft, ?_⟩
  · show (((evaluateAll _ c idleJobs).run (leaves (prepare c) idleStore)).result).map _ = _
    rw [hleaves]
    decide +kernel
  · exact (hagain (by decide) (.inr ⟨by decide +kernel, by decide⟩)).1

/-! ### A folder that opens a way -/

/-- A configuration whose references are found on a way through the folder for the results. -/
def detourConfiguration : Configuration :=
  { openConfiguration with references := .ofText "out/../refs", results := .ofText "out/results" }

/-- The folder of a student and the reference for one task, but no folder for the results. -/
def detourStore : Store := .ofTexts
  [(["submissions"], .folder), (["submissions", "ann"], .folder), (["refs"], .folder),
    (["refs", "task1.py"], .file .empty)]

/-- The first time there is no way to the references, so no task is found; but then the folder for
the results is made, and a second time there is. -/
theorem evaluate_detour :
    detourStore.Named ∧ (∀ t ∈ detourConfiguration.tasks, '/' ∉ t.toList) ∧
    detourConfiguration.ResultsApart detourStore ∧
    yields (evaluate (fun _ => idleTree) detourConfiguration) detourStore = .ok [] ∧
    (yields (evaluate (fun _ => idleTree) detourConfiguration)
      (leaves (evaluate (fun _ => idleTree) detourConfiguration) detourStore)).map List.length =
        .ok 1 := by
  refine ⟨by decide +kernel, by decide, by decide +kernel, by decide +kernel, by decide +kernel⟩

end Batch

end StructuralGrading
