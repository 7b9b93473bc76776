import StructuralGrading.Proofs.Batch.Settling

/-! # The order of the jobs

The jobs of a batch can run in any order and side by side.  If the reports lie apart from everything
that is read, and no two students are shown by one name, this makes no difference to what becomes of
the tasks, nor to what is in the store in the end.

Folders whose names are no texts can be shown by one name.  Their reports then go to one file, and
what it holds in the end is what was written last.

* `Configuration.ResultsApart`: what it means for reports to lie apart;
* `Batch.Prepared.ready`: a prepared batch is ready then;
* `Batch.eq_of_hasLeft`: there is one store to which all jobs can lead;
* `Batch.evaluate_any_order`: the main result;
* `Batch.evaluate_any_order_shared`: two students with one report. -/

namespace StructuralGrading

open Script (yields leaves Settles)
open Store (KeepsFolders Opens)

/-! ### Results apart -/

instance (a b : Location) : Decidable (a.Apart b) := inferInstanceAs (Decidable (_ ∧ _))

/-- Whether the folder for the reports lies apart from those that jobs read. -/
def Configuration.ResultsApart (c : Configuration) (s : Store) : Prop :=
  ∀ p ∈ [c.submissions, c.references, c.rubrics], (s.place p).Apart (s.place c.results)

instance (c : Configuration) (s : Store) : Decidable (c.ResultsApart s) :=
  inferInstanceAs (Decidable (∀ p ∈ _, _))

theorem Configuration.ResultsApart.keep {c : Configuration} {s t : Store} (h : c.ResultsApart s)
    (hkeeps : KeepsFolders s t) : c.ResultsApart t := by
  intro p hp
  rw [hkeeps.place, hkeeps.place]
  exact h p hp

/-- The standard configuration keeps its reports apart. -/
example : Configuration.standard.ResultsApart .empty := by decide +kernel

namespace Batch

variable {parse : Parser} {c : Configuration} {s t u : Store} {js : List Job} {results : Location}

/-! ### From preparation to jobs -/

/-- The reports of a prepared batch have a folder, and if they lie apart, with one folder for each
name that is shown, then all jobs read elsewhere. -/
theorem Prepared.ready (h : Prepared c s js) (hapart : c.ResultsApart s)
    (hshown : ∀ j ∈ js, ∀ k ∈ js, j.student = k.student → j.folder = k.folder) :
    Ready c s js (s.place c.results) := by
  have hresults : s.Opens c.results (s.place c.results) := by
    rcases h.results with hnone | hthere
    · have hopens := Store.opens_start (s := s) hnone
      rwa [hopens.place_eq]
    · obtain ⟨d, -, hopens⟩ := Store.opens_of_hasFolder hthere
      rwa [hopens.place_eq]
  have hread : ∀ p ∈ [c.submissions, c.references, c.rubrics], ∀ d, s.Opens p d →
      d.Apart (s.place c.results) := by
    intro p hp d hd
    rw [← hd.place_eq]
    exact hapart p hp
  obtain ⟨d, hd, hfolders⟩ := h.submissions
  refine {
    opens_results := hresults
    opens_folder := fun j hj => ?_
    apart_references := hread c.references (by simp)
    apart_rubrics := hread c.rubrics (by simp)
    folder_eq := hshown
    isName := fun j hj => ?_
    separator_notMem := h.separator_notMem }
  · obtain ⟨name, -, -, -, hopens⟩ := hfolders j hj
    exact ⟨_, hopens, (hread c.submissions (by simp) d hd).append [name]⟩
  · obtain ⟨name, hname, hstudent, -, -⟩ := hfolders j hj
    rw [hstudent]
    exact Path.isName_shown hname

/-! ### One store in the end -/

/-- If all jobs have left what they leave, then only one store can have come of it. -/
theorem eq_of_hasLeft (ht : Onward parse c s js results s t) (hu : Onward parse c s js results s u)
    (htall : ∀ j ∈ js, j.HasLeft parse c s results t)
    (huall : ∀ j ∈ js, j.HasLeft parse c s results u) : t = u := by
  -- Where a job leaves anything, both stores have it.
  have hmarked : ∀ loc, ∀ j ∈ js, ∀ e, j.Marks parse c s results loc e →
      t.entries.get? loc = u.entries.get? loc := by
    intro loc j hj e hmark
    have hne : loc ≠ [] := by
      obtain ⟨w, hw, rfl⟩ := exists_append_of_marks hmark
      exact fun h => hw (List.append_eq_nil_iff.mp h).2
    rw [← Store.get?_of_ne hne, ← Store.get?_of_ne hne, htall j hj loc e hmark,
      huall j hj loc e hmark]
  refine Store.ext_entries (fun loc => ?_) (ht.1.working.trans hu.1.working.symm)
    (ht.1.listing.trans hu.1.listing.symm)
  rcases ht.2 loc with hst | ⟨j, hj, e, hmark, -⟩
  · rcases hu.2 loc with hsu | ⟨j, hj, e, hmark, -⟩
    · rw [hst, hsu]
    · exact hmarked loc j hj e hmark
  · exact hmarked loc j hj e hmark

/-! ### Any order -/

/-- The jobs of a batch, side by side. -/
def pool (parse : Parser) (c : Configuration) (js : List Job) (s : Store) : Pool TaskOutcome :=
  ⟨js.map fun j => j.evaluate parse c, s⟩

/-- Jobs that settle in their ways have ended in them when all are at their ends, and their outcomes
are in their places. -/
theorem ends_of_play {R : Store → Store → Prop} {Q : Job → TaskOutcome → Store → Prop}
    (hR : OverTime R) (hsettles : ∀ j ∈ js, (j.evaluate parse c).Settles R (Q j) t)
    {schedule : List Nat} {outs : List TaskOutcome}
    (hdone : ((pool parse c js t).play schedule).scripts = outs.map .done) :
    R t ((pool parse c js t).play schedule).store ∧ outs.length = js.length ∧
      ∀ (i : Nat) (o : TaskOutcome), outs[i]? = some o →
        ∃ j, js[i]? = some j ∧ Q j o ((pool parse c js t).play schedule).store := by
  have hpool : (pool parse c js t).Settles R fun i o u => ∃ j, js[i]? = some j ∧ Q j o u := by
    intro i m hm
    have hscript : (js[i]?).map (fun j => j.evaluate parse c) = some m :=
      List.getElem?_map.symm.trans hm
    obtain ⟨j, hj, rfl⟩ := Option.map_eq_some_iff.mp hscript
    exact (hsettles j (List.mem_of_getElem? hj)).mono fun o u h => ⟨j, hj, h⟩
  obtain ⟨hstore, hends⟩ := Pool.settles_play hR hpool schedule
  refine ⟨hstore, ?_, fun i o ho => Pool.of_settles_done hR hends hdone ho⟩
  have hscripts := congrArg List.length hdone
  rw [Pool.length_scripts_play] at hscripts
  simpa [pool] using hscripts.symm

namespace Ready

variable (hready : Ready c s js results)

include hready

/-- When all jobs are at their ends, each has come to what it comes to alone, and has left what it
leaves. -/
theorem outcomes_of_play (hst : Onward parse c s js results s t) {schedule : List Nat}
    {outs : List TaskOutcome}
    (hdone : ((pool parse c js t).play schedule).scripts = outs.map .done) :
    outs = js.map (fun j => ((j.evaluate parse c).run s).result) ∧
      Onward parse c s js results t ((pool parse c js t).play schedule).store ∧
      ∀ j ∈ js, j.HasLeft parse c s results ((pool parse c js t).play schedule).store := by
  obtain ⟨honward, hlength, hends⟩ := ends_of_play overTime_onward
    (fun j hj => (hready.settles_evaluate parse hj).later overTime_onward hst) hdone
  refine ⟨List.ext_getElem (by simpa using hlength) fun i hi hi' => ?_, honward, fun j hj => ?_⟩
  · obtain ⟨j, hj, ha, -⟩ := hends i _ (List.getElem?_eq_getElem hi)
    obtain ⟨hlt, rfl⟩ := List.getElem?_eq_some_iff.mp hj
    rw [ha, List.getElem_map]
  · obtain ⟨i, hi, rfl⟩ := List.getElem_of_mem hj
    obtain ⟨k, hk, -, hleft⟩ := hends i _ (List.getElem?_eq_getElem (hlength ▸ hi))
    obtain rfl := Option.some.inj ((List.getElem?_eq_getElem hi).symm.trans hk)
    exact hleft

theorem eq_of_play {schedule : List Nat} {outs : List TaskOutcome}
    (hdone : ((pool parse c js s).play schedule).scripts = outs.map .done) :
    outs = ((evaluateAll parse c js).run s).result ∧
      ((pool parse c js s).play schedule).store = ((evaluateAll parse c js).run s).store := by
  obtain ⟨hall, honward, hleft⟩ := hready.outcomes_of_play (overTime_onward.refl s) hdone
  obtain ⟨honward', halone⟩ :=
    (hready.settles_evaluateAll parse js fun _ h => h).run overTime_onward
  obtain ⟨hresult, hleft'⟩ := halone _ (overTime_onward.refl _)
  exact ⟨hall.trans hresult.symm, eq_of_hasLeft honward honward' hleft hleft'⟩

end Ready

theorem evaluateAll_eq_inTurn (parse : Parser) (c : Configuration) : ∀ js : List Job,
    evaluateAll parse c js = Script.inTurn (js.map fun j => j.evaluate parse c)
  | [] => rfl
  | j :: js => by
      have hrest := evaluateAll_eq_inTurn parse c js
      show (j.evaluate parse c).bind (fun o => (evaluateAll parse c js).bind fun os =>
        .done (o :: os)) = _
      rw [hrest]
      rfl

theorem evaluate_of_prepare (parse : Parser) {js : List Job} (h : yields (prepare c) s = .ok js) :
    yields (evaluate parse c) s =
        .ok ((evaluateAll parse c js).run (leaves (prepare c) s)).result ∧
      leaves (evaluate parse c) s =
        ((evaluateAll parse c js).run (leaves (prepare c) s)).store := by
  have hlift : evaluate parse c = prepare c >>= fun js => liftM (evaluateAll parse c js) := rfl
  obtain ⟨hyields, hleaves⟩ :=
    Script.bind_of_ok _ (fun js => liftM (evaluateAll parse c js)) s h
  rw [hlift, hyields, hleaves, Script.yields_lift, Script.leaves_lift]
  exact ⟨rfl, rfl⟩

/-- **The order of the jobs makes no difference.** Let the names of a store and of the tasks be such
as files can have, let the reports lie apart from everything that is read, and let different folders
of students be shown by different names.  Once a batch is prepared, its jobs can take their steps in
any order: when all are at their ends, the outcomes are the same as those of one job after the
other, and so is the store; and they can always come to their ends.  A batch does one job after the
other. -/
theorem evaluate_any_order (parse : Parser) {s₀ : Store} (hnamed : s₀.Named)
    (htasks : ∀ t ∈ c.tasks, '/' ∉ t.toList) (hapart : c.ResultsApart s₀)
    (hprepare : yields (prepare c) s₀ = .ok js)
    (hshown : ∀ j ∈ js, ∀ k ∈ js, j.student = k.student → j.folder = k.folder) :
    let start := pool parse c js (leaves (prepare c) s₀)
    let one := (evaluateAll parse c js).run (leaves (prepare c) s₀)
    (∀ (schedule : List Nat) (outs : List TaskOutcome),
      (start.play schedule).scripts = outs.map .done →
      outs = one.result ∧ (start.play schedule).store = one.store) ∧
    (∀ schedule, ∃ (further : List Nat) (outs : List TaskOutcome),
      (start.play (schedule ++ further)).scripts = outs.map .done) ∧
    yields (evaluate parse c) s₀ = .ok one.result ∧ leaves (evaluate parse c) s₀ = one.store := by
  have hready := (prepared_prepare hnamed htasks hprepare).ready
    (hapart.keep (Script.keepsFolders_run _ s₀)) hshown
  intro start one
  refine ⟨fun schedule outs => hready.eq_of_play, fun schedule => ?_, ?_⟩
  · obtain ⟨further, outs, hdone⟩ := (start.play schedule).exists_play_done
    exact ⟨further, outs, by rwa [Pool.play_append]⟩
  · exact evaluate_of_prepare parse hprepare

/-- A configuration with one task, which is named twice.  Some of its folders are found from the
top, and others on a way that goes up from the working folder. -/
def twiceConfiguration : Configuration where
  submissions := .ofText "/home/submissions"
  references := .ofText "../course/correct_code"
  rubrics := .ofText "../course/concepts"
  results := .ofText "/home/work/results"
  tasks := ["idle", "idle"]
  weights := .standard
  share := 0.5

/-- The folders of that configuration, with a reference that does nothing. -/
def courseStore : Store :=
  Store.workIn (.ofTexts [
    (["home"], .folder), (["home", "work"], .folder), (["home", "submissions"], .folder),
    (["home", "course"], .folder), (["home", "course", "correct_code"], .folder),
    (["home", "course", "concepts"], .folder),
    (["home", "course", "correct_code", "idle.py"], .file "pass\n".toByteArray),
    (["home", "course", "concepts", "idle.json"], .file "\x7b\x7d".toByteArray)])
    (["home", "work"].map .ofText)

/-- A store with one more student, who has a program for the task or none. -/
def withStudent (s : Store) (name : OsText) (program? : Option String) : Store :=
  let folder : Location := ["home", "submissions"].map .ofText ++ [name]
  match program? with
  | none => s.set folder .folder
  | some program =>
    (s.set folder .folder).set (folder ++ [.ofText "idle.py"]) (.file program.toByteArray)

/-- Two students, one of them with a program.  Folders list what is in them from the last name to
the first. -/
def idleStore : Store :=
  let s := withStudent (withStudent courseStore (.ofText "ann") "pass\n") (.ofText "bob") none
  { s with listing := ⟨fun _ names => names.reverse, fun _ names => names.reverse_perm⟩ }

/-- The tree of the program that does nothing. -/
def idleTree : Tree :=
  .node ⟨"module", none, true, false, false, false, 0, 0, 0, 5⟩
    [.node ⟨"pass_statement", none, true, false, false, false, 0, 0, 0, 4⟩ []]

/-- The jobs for the two students. -/
def idleJobs : List Job :=
  jobs ((["ann", "bob"].map .ofText).map twiceConfiguration.submissions.join) ["idle", "idle"]

theorem prepare_idleStore :
    yields (prepare twiceConfiguration) idleStore = .ok idleJobs ∧
      leaves (prepare twiceConfiguration) idleStore =
        leaves (Script.makeFolders twiceConfiguration.results) idleStore := by
  have hlist :
      idleStore.list twiceConfiguration.submissions = .ok (["bob", "ann"].map .ofText) := by
    decide +kernel
  have hlisted := yields_subfolders_of_perm hlist
    (show List.Perm _ (["ann", "bob"].map OsText.ofText) by decide +kernel)
    (by decide +kernel) (by decide +kernel)
  obtain ⟨hyields, hleaves⟩ := prepare_of_listed (c := twiceConfiguration) rfl hlisted
  refine ⟨?_, hleaves⟩
  rw [hyields]
  decide +kernel

/-- In whatever order, the student with a program is graded twice and the other one is skipped. -/
theorem evaluate_any_order_twice :
    let s := leaves (prepare twiceConfiguration) idleStore
    idleStore.Named ∧ (∀ t ∈ twiceConfiguration.tasks, '/' ∉ t.toList) ∧
    twiceConfiguration.ResultsApart idleStore ∧
    yields (prepare twiceConfiguration) idleStore = .ok idleJobs ∧
    (∀ j ∈ idleJobs, ∀ k ∈ idleJobs, j.student = k.student → j.folder = k.folder) ∧
    ∀ (schedule : List Nat) (outs : List TaskOutcome),
      ((pool (fun _ => idleTree) twiceConfiguration idleJobs s).play schedule).scripts =
        outs.map .done →
      outs.map (·.status) = [.graded, .graded, .skipped .missingFiles, .skipped .missingFiles] := by
  intro s
  obtain ⟨hprepare, hleaves⟩ := prepare_idleStore
  have hnamed : idleStore.Named := by decide +kernel
  have htasks : ∀ t ∈ twiceConfiguration.tasks, '/' ∉ t.toList := by decide +kernel
  have hapart : twiceConfiguration.ResultsApart idleStore := by decide +kernel
  have hshown : ∀ j ∈ idleJobs, ∀ k ∈ idleJobs, j.student = k.student → j.folder = k.folder := by
    decide +kernel
  refine ⟨hnamed, htasks, hapart, hprepare, hshown, fun schedule outs hdone => ?_⟩
  obtain ⟨horder, -⟩ := evaluate_any_order (fun _ => idleTree) hnamed htasks hapart hprepare hshown
  rw [(horder schedule outs hdone).1, hleaves]
  decide +kernel

/-! ### Students with one report -/

section pair

variable (parse : Parser) (c : Configuration) (j k : Job) (s : Store)

theorem store_evaluateAll_pair :
    ((evaluateAll parse c [j, k]).run s).store =
      ((k.evaluate parse c).run ((j.evaluate parse c).run s).store).store := by
  rw [evaluateAll_eq_inTurn, List.map_cons, List.map_cons, List.map_nil,
    (Script.run_inTurn_cons _ _ _).2, (Script.run_inTurn_cons _ _ _).2, Script.run_inTurn_nil]

theorem exists_play_pair :
    ∃ (schedule : List Nat) (outs : List TaskOutcome),
      ((pool parse c [j, k] s).play schedule).scripts = outs.map .done ∧
      ((pool parse c [j, k] s).play schedule).store =
        ((j.evaluate parse c).run ((k.evaluate parse c).run s).store).store := by
  have hpool : pool parse c [j, k] s = ⟨[j.evaluate parse c, k.evaluate parse c], s⟩ := rfl
  rw [hpool]
  exact Pool.exists_play_swapped (j.evaluate parse c) (k.evaluate parse c) s

end pair

/-- A report ends as its feedback does, or after the line that stands above it. -/
theorem getLast?_report (g : TaskGrade) :
    g.report.toList.getLast? = g.feedback.toList.getLast?.or (some '\n') := by
  have hline : "\nFeedback:\n".toList.getLast? = some '\n' := rfl
  rw [TaskGrade.report, String.toList_append, List.getLast?_append, String.toList_append,
    List.getLast?_append, hline, Option.some_or]

/-- A program that does nothing again and again. -/
def idlingSource : String := "while x:\n    pass\n"

/-- Its tree. -/
def idlingTree : Tree :=
  .node ⟨"module", none, true, false, false, false, 0, 0, 0, 18⟩
    [.node ⟨"while_statement", none, true, false, false, false, 0, 0, 0, 17⟩
      [.node ⟨"identifier", some "condition", true, false, false, false, 0, 6, 6, 7⟩ [],
        .node ⟨"block", some "body", true, false, false, false, 1, 4, 13, 17⟩
          [.node ⟨"pass_statement", none, true, false, false, false, 1, 4, 13, 17⟩ []]]]

/-- That configuration with its task named once. -/
def sharedConfiguration : Configuration := { twiceConfiguration with tasks := ["idle"] }

/-- Two students whose folders are named by a byte each that no text has. -/
def sharedStore : Store :=
  withStudent (withStudent courseStore [0xFE] "pass\n") [0xFF] idlingSource

/-- The trees of the programs of the two students. -/
def sharedParser : Parser := fun text => if text = idlingSource then idlingTree else idleTree

/-- The job of a student who is shown by a replacement. -/
def sharedJob (b : UInt8) : Job := ⟨"\uFFFD", sharedConfiguration.submissions.join [b], "idle"⟩

theorem prepare_sharedStore :
    yields (prepare sharedConfiguration) sharedStore = .ok [sharedJob 0xFE, sharedJob 0xFF] ∧
      leaves (prepare sharedConfiguration) sharedStore =
        leaves (Script.makeFolders sharedConfiguration.results) sharedStore := by
  have hlist : sharedStore.list sharedConfiguration.submissions = .ok [[0xFE], [0xFF]] := by
    decide +kernel
  have hlisted := yields_subfolders_of_perm hlist
    (show List.Perm _ [[0xFE], [0xFF]] by decide +kernel) (by decide +kernel) (by decide +kernel)
  obtain ⟨hyields, hleaves⟩ := prepare_of_listed (c := sharedConfiguration) rfl hlisted
  refine ⟨?_, hleaves⟩
  rw [hyields]
  decide +kernel

theorem exists_read_sharedJob {b : UInt8} {last? : Option Char}
    (hstatus : (((sharedJob b).evaluate sharedParser sharedConfiguration).run s).result.status =
      .graded)
    (hfeedback : ((sharedJob b).ofStore sharedParser sharedConfiguration s).map
      (·.feedback.toList.getLast?) = .ok last?) :
    ∃ report : String,
      (((sharedJob b).evaluate sharedParser sharedConfiguration).run s).store.read
        ((sharedJob 0).reportFile sharedConfiguration) = .ok report.toByteArray ∧
      report.toList.getLast? = last?.or (some '\n') := by
  obtain ⟨g, hgrade, -, hread⟩ := Job.exists_of_status_evaluate _ _ _ hstatus
  rw [hgrade] at hfeedback
  refine ⟨g.report, hread, ?_⟩
  rw [getLast?_report, ← Except.ok.inj hfeedback]

/-- Both students are shown by one name, so they have one report, and the order of their jobs tells
whose it is in the end. -/
theorem evaluate_any_order_shared :
    let js := [sharedJob 0xFE, sharedJob 0xFF]
    let s := leaves (prepare sharedConfiguration) sharedStore
    let start := pool sharedParser sharedConfiguration js s
    let one := (evaluateAll sharedParser sharedConfiguration js).run s
    sharedStore.Named ∧ (∀ t ∈ sharedConfiguration.tasks, '/' ∉ t.toList) ∧
    sharedConfiguration.ResultsApart sharedStore ∧
    yields (prepare sharedConfiguration) sharedStore = .ok js ∧
    one.result.map (·.status) = [.graded, .graded] ∧
    ∃ (schedule : List Nat) (outs : List TaskOutcome),
      (start.play schedule).scripts = outs.map .done ∧ (start.play schedule).store ≠ one.store := by
  obtain ⟨hprepare, hleaves⟩ := prepare_sharedStore
  rw [hleaves]
  intro js s start one
  refine ⟨by decide +kernel, by decide +kernel, by decide +kernel, hprepare, by decide +kernel, ?_⟩
  obtain ⟨schedule, outs, hdone, hplayed⟩ :=
    exists_play_pair sharedParser sharedConfiguration (sharedJob 0xFE) (sharedJob 0xFF) s
  refine ⟨schedule, outs, hdone, fun hsame => ?_⟩
  -- The feedback for the first student is empty, and that for the second one ends with a label.
  obtain ⟨first, hfirst, hend⟩ := exists_read_sharedJob (b := 0xFE)
    (s := (((sharedJob 0xFF).evaluate sharedParser sharedConfiguration).run s).store)
    (by decide +kernel) (show _ = Except.ok none by decide +kernel)
  obtain ⟨second, hsecond, hend'⟩ := exists_read_sharedJob (b := 0xFF)
    (s := (((sharedJob 0xFE).evaluate sharedParser sharedConfiguration).run s).store)
    (by decide +kernel) (show _ = Except.ok (some 'p') by decide +kernel)
  have hone : one.store = _ := store_evaluateAll_pair _ _ _ _ s
  rw [← hplayed, hsame, hone, hsecond] at hfirst
  have hreports := String.toByteArray_inj.mp (Except.ok.inj hfirst)
  rw [hreports, hend] at hend'
  cases hend'

end Batch

end StructuralGrading
