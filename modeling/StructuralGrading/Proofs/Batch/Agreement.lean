import StructuralGrading.Batch.Basic
import StructuralGrading.Proofs.Grading.Files
import StructuralGrading.Proofs.Store.Access

/-! # A batch and single grades

A job of a batch tests for its files and then reads them on its own.  It comes to the grade of the
files, or stops where grading the files does.

* `Job.onlyLooks_grade`, `Job.yields_grade`: a job looks at its files and comes to their grade;
* `Job.read_of_writeReport`: a report that is written can be read;
* `Job.run_evaluate`: what becomes of a job;
* `Job.evaluate_agrees`: all of this together. -/

namespace StructuralGrading

open Script (yields leaves OnlyLooks Looks)

/-! ### Reasons -/

section errors

variable {α β ε ε' ε'' : Type}

/-- Renaming errors goes into every step. -/
theorem mapError_bind (x : Except ε α) (f : α → Except ε β) (g : ε → ε') :
    (x >>= f).mapError g = x.mapError g >>= fun a => (f a).mapError g := by
  cases x <;> rfl

theorem ok_bind (a : α) (f : α → Except ε β) : (Except.ok a >>= f) = f a := rfl

theorem mapError_mapError (x : Except ε α) (f : ε → ε') (g : ε' → ε'') :
    (x.mapError f).mapError g = x.mapError fun e => g (f e) := by
  cases x <;> rfl

end errors

namespace SkipReason

/-- The reason for skipping a task that has all of its files, if they cannot be graded. -/
def ofFault : GradingFault → SkipReason
  | .submission _ fault => unreadable fault
  | .reference _ fault => unreadable fault
  | .rubric fault => rubric fault
  | .programs _ fault => programs fault

theorem message_ofFault (f : GradingFault) : (ofFault f).message = f.found.message := by
  cases f <;> rfl

end SkipReason

namespace Job

variable {P : Path → Prop} (parse : Parser) (c : Configuration) (j : Job)

/-! ### Grading -/

theorem looks_allPresent : ∀ {ps : List Path}, (∀ p ∈ ps, P p) → (allPresent ps).Looks P
  | [], _ => trivial
  | p :: ps, h => by
      have hp : (Script.hasEntry p).Looks P := ⟨⟨p, rfl, h p List.mem_cons_self⟩, fun _ => trivial⟩
      refine Looks.bind hp fun there => ?_
      split
      · exact looks_allPresent fun q hq => h q (List.mem_cons_of_mem p hq)
      · trivial

theorem result_allPresent (s : Store) : ∀ ps : List Path,
    ((allPresent ps).run s).result = ps.all s.hasEntry
  | [] => rfl
  | p :: ps => by
      have hrun : (allPresent (p :: ps)).run s =
          (if s.hasEntry p then allPresent ps else pure false).run s := rfl
      rw [hrun, List.all_cons]
      cases s.hasEntry p with
      | true => exact result_allPresent s ps
      | false => rfl

theorem onlyLooks_grade : OnlyLooks (· ∈ j.inputs c) (j.grade parse c) := by
  refine OnlyLooks.bind (.lift (looks_allPresent fun p hp => hp)) fun there => ?_
  split
  · exact OnlyLooks.bind ((Script.onlyLooks_readText (by simp [inputs])).adapt _) fun _ =>
      OnlyLooks.bind ((Script.onlyLooks_readText (by simp [inputs])).adapt _) fun _ =>
        OnlyLooks.bind ((Rubric.onlyLooks_load (by simp [inputs])).adapt _) fun _ =>
          (TaskGrade.onlyLooks_grade ..).adapt _
  · trivial

/-- The grade of the files of a job. -/
def ofStore (s : Store) : Except GradingFault TaskGrade :=
  TaskGrade.ofStore parse c j.task s j.source (c.referenceOf j.task) (c.rubricOf j.task)

/-- If all files are there, a job comes to their grade, or to the first thing wrong with them. -/
theorem yields_grade (s : Store) :
    yields (j.grade parse c) s =
      if (j.inputs c).all s.hasEntry then (j.ofStore parse c s).mapError .ofFault
      else .error .missingFiles := by
  have hlook : OnlyLooks (· ∈ j.inputs c) (liftM (allPresent (j.inputs c)) :
      ExceptT SkipReason Script Bool) := .lift (looks_allPresent fun p hp => hp)
  rw [grade, hlook.yields_bind, Script.yields_lift, result_allPresent]
  cases (j.inputs c).all s.hasEntry with
  | false => rfl
  | true =>
      have hs : OnlyLooks (fun _ => True) (Script.readText j.source) :=
        Script.onlyLooks_readText trivial
      have hr : OnlyLooks (fun _ => True) (Script.readText (c.referenceOf j.task)) :=
        Script.onlyLooks_readText trivial
      have hq : OnlyLooks (fun _ => True) (Rubric.load (c.rubricOf j.task)) :=
        Rubric.onlyLooks_load trivial
      simp only [ofStore, TaskGrade.ofStore, mapError_bind, mapError_mapError]
      rw [ok_bind, if_pos rfl]
      simp only [(hs.adapt _).yields_bind, (hr.adapt _).yields_bind, (hq.adapt _).yields_bind,
        Script.yields_adapt, Script.yields_readText, Rubric.yields_load, TaskGrade.yields_grade]
      rfl

theorem all_hasEntry_of_yields_grade {s : Store} {g : TaskGrade}
    (h : yields (j.grade parse c) s = .ok g) : (j.inputs c).all s.hasEntry = true := by
  rw [yields_grade] at h
  split at h
  · assumption
  · cases h

/-! ### Reports -/

theorem read_of_yields_write {p : Path} {text : String} {s : Store}
    (h : yields (Script.write p text) s = .ok ()) :
    (leaves (Script.write p text) s).read p = .ok text.toByteArray := by
  have hyields : yields (Script.write p text) s =
      (FileOp.settle s (s.write p text.toByteArray)).1 := rfl
  have hleaves : leaves (Script.write p text) s =
      (FileOp.settle s (s.write p text.toByteArray)).2 := rfl
  rw [hyields] at h
  rw [hleaves]
  cases hwrite : s.write p text.toByteArray with
  | error fault =>
      rw [hwrite] at h
      cases h
  | ok t => exact Store.read_of_write hwrite

/-- A report that is written lies in its place, where it can be read. -/
theorem read_of_writeReport {g : TaskGrade} {s : Store} {p : Path}
    (h : yields (j.writeReport c g) s = .ok p) :
    p = j.reportFile c ∧
      (leaves (j.writeReport c g) s).read (j.reportFile c) = .ok g.report.toByteArray := by
  rw [writeReport] at h ⊢
  obtain ⟨_, -, h, hleaves⟩ := Script.exists_of_yields_bind _ _ s h
  obtain ⟨_, hwrite, h, hleaves'⟩ := Script.exists_of_yields_bind _ _ _ h
  cases h
  rw [Script.yields_adapt_eq_ok] at hwrite
  rw [hleaves, hleaves', Script.leaves_pure, Script.leaves_adapt (Script.write _ _)]
  exact ⟨rfl, read_of_yields_write hwrite⟩

/-! ### Outcomes -/

/-- What becomes of a task, from what was attempted. -/
def outcomeOf (j : Job) : Except SkipReason (TaskGrade × Path) → TaskOutcome
  | .ok (g, report) => .graded j.student g report
  | .error reason => .skipped j.student j.task reason

/-- Tells what becomes of a task. -/
def announce (j : Job) : Except SkipReason (TaskGrade × Path) → Script TaskOutcome
  | .ok (g, report) =>
    .log (.reported j.task j.student report) (.done (j.outcomeOf (.ok (g, report))))
  | .error reason =>
    .log (.skipped j.task j.student reason.message) (.done (j.outcomeOf (.error reason)))

theorem evaluate_eq_bind : j.evaluate parse c = (j.attempt parse c).run.bind j.announce := by
  refine congrArg ((j.attempt parse c).run.bind ·) (funext fun r => ?_)
  cases r <;> rfl

theorem run_announce (r : Except SkipReason (TaskGrade × Path)) (s : Store) :
    ((j.announce r).run s).result = j.outcomeOf r ∧ ((j.announce r).run s).store = s := by
  cases r <;> exact ⟨rfl, rfl⟩

theorem run_evaluate (s : Store) :
    ((j.evaluate parse c).run s).result = j.outcomeOf (yields (j.attempt parse c) s) ∧
      ((j.evaluate parse c).run s).store = leaves (j.attempt parse c) s := by
  rw [evaluate_eq_bind, Script.result_bind, Script.store_bind, yields, leaves]
  exact j.run_announce _ _

theorem attempt_of_error {s : Store} {reason : SkipReason}
    (h : yields (j.grade parse c) s = .error reason) :
    yields (j.attempt parse c) s = .error reason ∧ leaves (j.attempt parse c) s = s := by
  obtain ⟨hyields, hleaves⟩ := Script.bind_of_error _ (fun g => do
    let report ← (j.writeReport c g).adapt .notReported
    return (g, report)) s h
  rw [attempt]
  exact ⟨hyields, hleaves.trans ((onlyLooks_grade parse c j).leaves_eq s)⟩

/-- A job that is graded comes down to writing its report. -/
theorem attempt_of_ok {s : Store} {g : TaskGrade} (h : yields (j.grade parse c) s = .ok g) :
    yields (j.attempt parse c) s =
        ((yields (j.writeReport c g) s).mapError .notReported).map (g, ·) ∧
      leaves (j.attempt parse c) s = leaves (j.writeReport c g) s := by
  obtain ⟨hyields, hleaves⟩ := Script.bind_of_ok _ (fun g => do
    let report ← (j.writeReport c g).adapt .notReported
    return (g, report)) s h
  rw [(onlyLooks_grade parse c j).leaves_eq s] at hyields hleaves
  rw [attempt, hyields, hleaves, Script.yields_bind_pure, Script.leaves_bind_pure,
    Script.yields_adapt, Script.leaves_adapt]
  exact ⟨rfl, rfl⟩

/-! ### Agreement -/

theorem exists_file_of_readText {s : Store} {p : Path} {text : String}
    (h : s.readText p = .ok text) :
    ∃ loc content, s.locate p = .ok loc ∧ s.get? loc = some (.file content) := by
  rw [Store.readText] at h
  obtain ⟨content, hread, -⟩ := exists_of_bind_eq_ok h
  obtain ⟨loc, hloc, hfile⟩ := Store.exists_file_of_read hread
  exact ⟨loc, content, hloc, hfile⟩

theorem exists_file_of_ofStore {s : Store} {g : TaskGrade} (h : j.ofStore parse c s = .ok g) :
    ∀ p ∈ j.inputs c, ∃ loc content, s.locate p = .ok loc ∧
      s.get? loc = some (.file content) := by
  rw [ofStore, TaskGrade.ofStore] at h
  obtain ⟨student, hs, h⟩ := exists_of_bind_eq_ok h
  obtain ⟨reference, hr, h⟩ := exists_of_bind_eq_ok h
  obtain ⟨rubric, hrubric, -⟩ := exists_of_bind_eq_ok h
  rw [mapError_eq_ok_iff] at hs hr hrubric
  rw [Store.readRubric] at hrubric
  obtain ⟨text, hq, -⟩ := exists_of_bind_eq_ok hrubric
  rw [mapError_eq_ok_iff] at hq
  simp only [inputs, List.forall_mem_cons, List.not_mem_nil, false_implies, implies_true, and_true]
  exact ⟨exists_file_of_readText hs, exists_file_of_readText hr, exists_file_of_readText hq⟩

theorem task_of_ofStore {s : Store} {g : TaskGrade} (h : j.ofStore parse c s = .ok g) :
    g.task = j.task := by
  rw [ofStore, TaskGrade.ofStore] at h
  obtain ⟨student, -, h⟩ := exists_of_bind_eq_ok h
  obtain ⟨reference, -, h⟩ := exists_of_bind_eq_ok h
  obtain ⟨rubric, -, h⟩ := exists_of_bind_eq_ok h
  rw [mapError_eq_ok_iff, TaskGrade.ofSources] at h
  obtain ⟨graphs, -, h⟩ := exists_of_bind_eq_ok h
  cases h
  rfl

theorem all_hasEntry_of_ofStore {s : Store} {g : TaskGrade} (h : j.ofStore parse c s = .ok g) :
    (j.inputs c).all s.hasEntry = true := by
  refine List.all_eq_true.mpr fun p hp => ?_
  obtain ⟨loc, content, hloc, hfile⟩ := exists_file_of_ofStore parse c j h p hp
  rw [Store.hasEntry, Store.find_eq_ok_iff.mpr ⟨loc, hloc, hfile⟩]
  rfl

section cases

variable {s : Store} {g : TaskGrade}

theorem yields_grade_of_ok (h : j.ofStore parse c s = .ok g) :
    yields (j.grade parse c) s = .ok g := by
  rw [yields_grade, all_hasEntry_of_ofStore parse c j h, if_pos rfl, h]
  rfl

theorem evaluate_of_reported {p : Path} (h : j.ofStore parse c s = .ok g)
    (hp : yields (j.writeReport c g) s = .ok p) :
    ((j.evaluate parse c).run s).result = .graded j.student g (j.reportFile c) ∧
      ((j.evaluate parse c).run s).store.read (j.reportFile c) = .ok g.report.toByteArray := by
  obtain ⟨hresult, hstore⟩ := j.run_evaluate parse c s
  obtain ⟨hyields, hleaves⟩ := attempt_of_ok parse c j (yields_grade_of_ok parse c j h)
  obtain ⟨rfl, hread⟩ := read_of_writeReport c j hp
  rw [hresult, hstore, hyields, hleaves, hp]
  exact ⟨rfl, hread⟩

theorem evaluate_of_unreported {fault : ReportFault} (h : j.ofStore parse c s = .ok g)
    (hp : yields (j.writeReport c g) s = .error fault) :
    ((j.evaluate parse c).run s).result = .skipped j.student j.task (.notReported fault) := by
  obtain ⟨hresult, -⟩ := j.run_evaluate parse c s
  obtain ⟨hyields, -⟩ := attempt_of_ok parse c j (yields_grade_of_ok parse c j h)
  rw [hresult, hyields, hp]
  rfl

theorem evaluate_of_fault {f : GradingFault} (h : j.ofStore parse c s = .error f) :
    ((j.evaluate parse c).run s).result = .skipped j.student j.task
        (if (j.inputs c).all s.hasEntry then .ofFault f else .missingFiles) ∧
      ((j.evaluate parse c).run s).store = s := by
  obtain ⟨hresult, hstore⟩ := j.run_evaluate parse c s
  have hgrade : yields (j.grade parse c) s =
      .error (if (j.inputs c).all s.hasEntry then .ofFault f else .missingFiles) := by
    rw [yields_grade, h]
    split <;> rfl
  obtain ⟨hyields, hleaves⟩ := attempt_of_error parse c j hgrade
  rw [hresult, hstore, hyields, hleaves]
  exact ⟨rfl, rfl⟩

/-- What is graded has a grade, which it shows, and its report can be read in its place. -/
theorem exists_of_status_evaluate
    (h : ((j.evaluate parse c).run s).result.status = .graded) :
    ∃ g, j.ofStore parse c s = .ok g ∧
      ((j.evaluate parse c).run s).result = .graded j.student g (j.reportFile c) ∧
      ((j.evaluate parse c).run s).store.read (j.reportFile c) = .ok g.report.toByteArray := by
  cases hgrade : j.ofStore parse c s with
  | error f =>
      rw [(evaluate_of_fault parse c j hgrade).1] at h
      cases h
  | ok g =>
      cases hreport : yields (j.writeReport c g) s with
      | error fault =>
          rw [evaluate_of_unreported parse c j hgrade hreport] at h
          cases h
      | ok p => exact ⟨g, rfl, evaluate_of_reported parse c j hgrade hreport⟩

end cases

/-- The grade of the files of a job, as it is computed apart from a batch. -/
def gradeFiles : ExceptT GradingFault Script TaskGrade :=
  TaskGrade.gradeFiles parse c j.task j.source (c.referenceOf j.task) (some (c.rubricOf j.task))

/-- **A batch agrees with single grades.** Grading the files of a job changes nothing and comes to
the grade of the files, or to the first thing wrong with them.  If there is a grade and its report
can be written, then the job is graded with the scores of that grade, and its report can be read in
its place; and only then is it graded.  If there is no grade then the job leaves everything as it
was and is skipped without scores and report: for missing files if not all are there, and otherwise
for what was found wrong, without what is said on top of it. -/
theorem evaluate_agrees (s : Store) :
    let files := j.gradeFiles parse c
    let out := (j.evaluate parse c).run s
    leaves files s = s ∧ yields files s = j.ofStore parse c s ∧
    out.result.student = j.student ∧ out.result.task = j.task ∧
    (out.result.status = .graded ↔
      ∃ g p, yields files s = .ok g ∧ yields (j.writeReport c g) s = .ok p) ∧
    (∀ g p, yields files s = .ok g → yields (j.writeReport c g) s = .ok p →
      out.result.finalScore = some g.finalScore ∧
      out.result.similarity = some g.similarityPercent ∧
      out.result.report = some (j.reportFile c) ∧
      out.store.read (j.reportFile c) = .ok g.report.toByteArray) ∧
    ∀ f, yields files s = .error f →
      out.store = s ∧
      out.result.finalScore = none ∧ out.result.similarity = none ∧ out.result.report = none ∧
      (f.explanation = f.found ∨ ∃ m, f.explanation = .because m f.found) ∧
      ∃ reason, out.result.status = .skipped reason ∧
        reason.message =
          if (j.inputs c).all s.hasEntry then f.found.message else "missing files" := by
  have hlook : OnlyLooks (fun _ => True) (j.gradeFiles parse c) :=
    TaskGrade.onlyLooks_gradeFiles parse c j.task trivial trivial trivial
  have hfiles : yields (j.gradeFiles parse c) s = j.ofStore parse c s :=
    TaskGrade.yields_gradeFiles parse c j.task s
  intro files out
  refine ⟨hlook.leaves_eq s, hfiles, ?_⟩
  rw [hfiles]
  cases hgrade : j.ofStore parse c s with
  | error f =>
      obtain ⟨hresult, hstore⟩ := evaluate_of_fault parse c j hgrade
      have hout : out.result = _ := hresult
      rw [hout]
      refine ⟨rfl, rfl, ⟨nofun, nofun⟩, nofun, ?_⟩
      rintro _ ⟨⟩
      refine ⟨hstore, rfl, rfl, rfl, f.explanation_eq_found, _, rfl, ?_⟩
      split
      · exact SkipReason.message_ofFault f
      · rfl
  | ok g =>
      cases hreport : yields (j.writeReport c g) s with
      | error fault =>
          have hout : out.result = _ := evaluate_of_unreported parse c j hgrade hreport
          have hnone : ∀ p, yields (j.writeReport c g) s ≠ .ok p := by
            intro p hp
            rw [hreport] at hp
            cases hp
          rw [hout]
          refine ⟨rfl, rfl, ⟨nofun, ?_⟩, ?_, nofun⟩
          · rintro ⟨_, p, ⟨⟩, hp⟩
            exact absurd hp (hnone p)
          · rintro _ p ⟨⟩ hp
            exact absurd hp (hnone p)
      | ok p =>
          obtain ⟨hresult, hread⟩ := evaluate_of_reported parse c j hgrade hreport
          have hout : out.result = _ := hresult
          rw [hout]
          refine ⟨rfl, task_of_ofStore parse c j hgrade,
            ⟨fun _ => ⟨g, p, rfl, hreport⟩, fun _ => rfl⟩, ?_, nofun⟩
          rintro _ _ ⟨⟩ -
          exact ⟨rfl, rfl, rfl, hread⟩

end Job

end StructuralGrading
