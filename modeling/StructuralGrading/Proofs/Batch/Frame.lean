import StructuralGrading.Proofs.Batch.Rows
import StructuralGrading.Proofs.Script.Making

/-! # What a batch changes

When all jobs of a batch are at their ends, the files that are new or changed are the reports of the
tasks that were graded, and no others; all that is read is as it was.

* `Batch.Onward.keeps_files`: files stay files;
* `Batch.Onward.exists_reports_of_file`: every file was there, or is a report;
* `Batch.report_of_reports`: what is in a report;
* `Batch.Ready.get?_of_not_reports`: where there is no report, everything is as it was;
* `Batch.leaves_of_error`: a batch that cannot be listed changes nothing. -/

namespace StructuralGrading

open Script (yields leaves)
open Store (KeepsFolders Opens)

/-! ### Grades and outcomes -/

namespace Job

variable (parse : Parser) (c : Configuration) (j : Job) {s t : Store} {g : TaskGrade}

theorem ofStore_of_yields_grade (h : yields (j.grade parse c) s = .ok g) :
    j.ofStore parse c s = .ok g := by
  rw [yields_grade] at h
  split at h
  · exact mapError_eq_ok_iff.mp h
  · cases h

theorem ofStore_congr (h : ∀ p ∈ j.inputs c, s.find p = t.find p) :
    j.ofStore parse c s = j.ofStore parse c t := by
  have hlook : Script.OnlyLooks (· ∈ j.inputs c) (j.gradeFiles parse c) :=
    TaskGrade.onlyLooks_gradeFiles parse c j.task (by simp [inputs]) (by simp [inputs])
      (by simp [inputs])
  have hsame := hlook.yields_congr h
  rwa [gradeFiles, TaskGrade.yields_gradeFiles, TaskGrade.yields_gradeFiles] at hsame

end Job

namespace Batch

variable {parse : Parser} {c : Configuration} {s t : Store} {js : List Job} {results : Location}

/-! ### Batches that cannot be listed -/

theorem leaves_prepare_of_error {fault : BatchFault} (h : yields (prepare c) s = .error fault) :
    (∃ p f, fault = .results p f) ∨ leaves (prepare c) s = s := by
  cases hresolve : yields (resolveTasks c) s with
  | error fault' =>
      have hfail : yields ((resolveTasks c).adapt BatchFault.search) s =
          .error (.search fault') := by
        rw [Script.yields_adapt, hresolve]
        rfl
      refine .inr ((Script.bind_of_error _ _ s hfail).2.trans ?_)
      rw [Script.leaves_adapt, leaves_resolveTasks]
  | ok tasks =>
      cases hfolders : yields (subfolders c.submissions) s with
      | error fault' =>
          have hresolved : yields ((resolveTasks c).adapt BatchFault.search) s = .ok tasks :=
            (Script.yields_adapt_eq_ok _ s).mpr hresolve
          have hfail : yields ((subfolders c.submissions).adapt
              (BatchFault.submissions c.submissions)) s =
                .error (.submissions c.submissions fault') := by
            rw [Script.yields_adapt, hfolders]
            rfl
          refine .inr ((Script.bind_of_ok _ _ s hresolved).2.trans ?_)
          rw [Script.leaves_adapt, leaves_resolveTasks, (Script.bind_of_error _ _ s hfail).2,
            Script.leaves_adapt, leaves_subfolders]
      | ok folders =>
          rw [(prepare_of_listed hresolve hfolders).1] at h
          cases hmake : yields (Script.makeFolders c.results) s with
          | error fault' =>
              rw [hmake] at h
              cases h
              exact .inl ⟨_, fault', rfl⟩
          | ok _ =>
              rw [hmake] at h
              cases h

theorem leaves_of_error {fault : BatchFault} (h : yields (evaluate parse c) s = .error fault) :
    (∃ p f, fault = .results p f) ∨ leaves (evaluate parse c) s = s := by
  have hlift : evaluate parse c = prepare c >>= fun js => liftM (evaluateAll parse c js) := rfl
  rw [hlift] at h ⊢
  cases hprepare : yields (prepare c) s with
  | ok js =>
      rw [(Script.bind_of_ok _ _ s hprepare).1, Script.yields_lift] at h
      cases h
  | error fault' =>
      obtain ⟨hyields, hleaves⟩ := Script.bind_of_error _
        (fun js => liftM (evaluateAll parse c js)) s hprepare
      obtain rfl := Except.error.inj (hyields.symm.trans h)
      rw [hleaves]
      exact leaves_prepare_of_error hprepare

/-! ### Files -/

theorem Onward.keeps_files (h : Onward parse c s js results s t) {loc : Location}
    {content : ByteArray} (hfile : s.get? loc = some (.file content)) :
    ∃ later, t.get? loc = some (.file later) := by
  rcases h.get? loc with hsame | ⟨j, -, e, hmark, he⟩
  · exact ⟨content, hsame.trans hfile⟩
  · rcases marks_place hmark with ⟨rfl, -, hnot⟩ | ⟨-, g, -, rfl⟩
    · exact absurd hfile (hnot content)
    · exact ⟨_, he⟩

/-- A file that is not as it was is the report of a job that leaves one. -/
theorem Onward.exists_reports_of_file (h : Onward parse c s js results s t) {loc : Location}
    {content : ByteArray} (hfile : t.get? loc = some (.file content)) :
    s.get? loc = some (.file content) ∨
      ∃ j ∈ js, j.Reports parse c s results ∧ loc = j.reportPlace results := by
  rcases h.get? loc with hsame | ⟨j, hj, e, hmark, he⟩
  · exact .inl (hsame.symm.trans hfile)
  · rcases marks_place hmark with ⟨-, rfl, -⟩ | ⟨rfl, -⟩
    · rw [hfile] at he
      cases he
    · exact .inr ⟨j, hj, ⟨e, hmark⟩, rfl⟩

theorem report_of_reports {j : Job} (hst : KeepsFolders s t)
    (hleft : j.HasLeft parse c s results t) (h : j.Reports parse c s results) :
    ∃ g, j.ofStore parse c s = .ok g ∧ t.locate (j.reportFile c) = .ok (j.reportPlace results) ∧
      t.read (j.reportFile c) = .ok g.report.toByteArray := by
  obtain ⟨e, hmark⟩ := h
  obtain ⟨g, hgrade, rfl, hloc, hfile, hreach, -⟩ := exists_of_marks_report hmark rfl
  have hfolder := hleft _ _ (.folder hgrade hloc hfile)
  have hplace := hreach t hst hfolder
  exact ⟨g, j.ofStore_of_yields_grade parse c hgrade, hplace,
    Store.read_eq_ok hplace (hleft _ _ hmark)⟩

namespace Ready

variable (hready : Ready c s js results)

include hready

/-- The path of a report leads to its place, if anywhere. -/
theorem eq_reportPlace {j : Job} (hj : j ∈ js) (hst : KeepsFolders s t) {loc : Location}
    (h : t.locate (j.reportFile c) = .ok loc) : loc = j.reportPlace results := by
  have hname : Path.IsName (.ofText (j.task ++ "_results.txt")) :=
    Path.isName_ofText_append (hready.separator_notMem j hj) (by decide) (by decide)
  rw [← Store.place_of_locate h, Job.reportFile, t.place_join _ hname, Job.reportFolder,
    t.place_join _ (hready.isName j hj), (hready.opens_results.keep hst).place_eq]
  exact j.folderPlace_append results

theorem get?_of_not_reports {j : Job} (hj : j ∈ js) (h : Onward parse c s js results s t)
    (hnot : ¬j.Reports parse c s results) :
    t.get? (j.reportPlace results) = s.get? (j.reportPlace results) := by
  rcases h.get? (j.reportPlace results) with hsame | ⟨k, hk, e, hmark, -⟩
  · exact hsame
  · rcases marks_place hmark with ⟨hplace, -⟩ | ⟨hplace, -⟩
    · exact absurd hplace.symm (Job.folderPlace_ne_reportPlace results k j)
    · obtain ⟨hstudent, htask⟩ := Job.eq_of_reportPlace hplace
      obtain rfl := hready.eq_of_student hj hk hstudent htask
      exact absurd ⟨e, hmark⟩ hnot

end Ready

end Batch

end StructuralGrading
