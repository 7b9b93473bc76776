import StructuralGrading.Proofs.Batch.Order
import StructuralGrading.Proofs.Store.Names

/-! # Rows of a batch

Whatever becomes of the tasks of a batch, and in whatever order its jobs take their steps, there is
one outcome for every task of every student, student by student.

* `Script.EndsIn`: how a script can end, whatever it is answered;
* `TaskOutcome.Coherent`, `Job.endsIn_evaluate`: every job ends with a row of its own, which has
  scores and a report exactly if it is graded;
* `Batch.Completes`: a batch from its preparation to the end of all jobs, in any order;
* `Batch.completes_evaluate`: to do one job after the other is one such order;
* `Batch.Completes.rows`: outcomes are those of the jobs, in their places;
* `Batch.rows_complete`: the main result. -/

namespace StructuralGrading

open Script (yields leaves Settles settles_done settles_file settles_log)

/-! ### How scripts can end -/

namespace Script

variable {α β ε ε' : Type} {P : α → Prop} {Q : β → Prop}

/-- Whether a script can end only as `P` says, whatever it is answered. -/
def EndsIn (P : α → Prop) : Script α → Prop
  | done a => P a
  | file _ next => ∀ answer, (next answer).EndsIn P
  | log _ next => next.EndsIn P

theorem endsIn_true (m : Script α) : m.EndsIn fun _ => True := by
  induction m with
  | done a => trivial
  | file op next ih => exact fun answer => ih answer
  | log e next ih => exact ih

theorem EndsIn.mono {R : α → Prop} {m : Script α} (h : ∀ a, P a → R a) (hm : m.EndsIn P) :
    m.EndsIn R := by
  induction m with
  | done a => exact h a hm
  | file op next ih => exact fun answer => ih answer (hm answer)
  | log e next ih => exact ih hm

theorem EndsIn.bind {m : Script α} {f : α → Script β} (hm : m.EndsIn P)
    (hf : ∀ a, P a → (f a).EndsIn Q) : (m.bind f).EndsIn Q := by
  induction m with
  | done a => exact hf a hm
  | file op next ih => exact fun answer => ih answer (hm answer)
  | log e next ih => exact ih hm

/-- Whether a script that can fail can come only to what `P` says, if it comes to anything. -/
structure ComesTo (P : α → Prop) (x : ExceptT ε Script α) : Prop where
  endsIn : x.run.EndsIn fun r => ∀ a, r = .ok a → P a

theorem comesTo_true (x : ExceptT ε Script α) : ComesTo (fun _ => True) x :=
  ⟨(endsIn_true x.run).mono fun _ _ _ _ => trivial⟩

theorem comesTo_pure {a : α} (h : P a) : ComesTo P (pure a : ExceptT ε Script α) := by
  refine ⟨?_⟩
  rintro _ ⟨⟩
  exact h

theorem comesTo_throw (fault : ε) : ComesTo P (throw fault : ExceptT ε Script α) := by
  refine ⟨?_⟩
  rintro _ ⟨⟩

theorem ComesTo.bind {x : ExceptT ε Script α} {f : α → ExceptT ε Script β} (hx : ComesTo P x)
    (hf : ∀ a, P a → ComesTo Q (f a)) : ComesTo Q (x >>= f) := by
  refine ⟨EndsIn.bind hx.endsIn fun r hr => ?_⟩
  cases r with
  | ok a => exact (hf a (hr a rfl)).endsIn
  | error fault => exact (comesTo_throw fault).endsIn

theorem ComesTo.adapt {x : ExceptT ε Script α} (hx : ComesTo P x) (g : ε → ε') :
    ComesTo P (x.adapt g) := by
  refine ⟨EndsIn.bind hx.endsIn fun r hr => ?_⟩
  cases r with
  | ok a => exact (comesTo_pure (hr a rfl)).endsIn
  | error fault => exact (comesTo_throw (g fault)).endsIn

end Script

/-! ### Rows of jobs -/

/-- Whether the parts of a row belong together: scores and a report are there if it is graded, and
are not there if it is skipped. -/
structure TaskOutcome.Coherent (o : TaskOutcome) : Prop where
  of_graded : o.status = .graded →
    o.finalScore.isSome = true ∧ o.similarity.isSome = true ∧ o.report.isSome = true
  of_skipped : ∀ reason, o.status = .skipped reason →
    o.finalScore = none ∧ o.similarity = none ∧ o.report = none

theorem TaskOutcome.coherent_graded (student : String) (g : TaskGrade) (report : Path) :
    (graded student g report).Coherent :=
  ⟨fun _ => ⟨rfl, rfl, rfl⟩, nofun⟩

theorem TaskOutcome.coherent_skipped (student task : String) (reason : SkipReason) :
    (skipped student task reason).Coherent :=
  ⟨nofun, fun _ _ => ⟨rfl, rfl, rfl⟩⟩

theorem TaskGrade.comesTo_grade (parse : Parser) (c : Configuration) (r : Rubric)
    (task student reference : String) :
    Script.ComesTo (·.task = task) (grade parse c r task student reference) := by
  rw [grade]
  split
  · exact Script.comesTo_throw _
  · exact Script.ComesTo.bind (Script.comesTo_true _) fun _ _ => Script.comesTo_pure rfl

namespace Job

variable (parse : Parser) (c : Configuration) (j : Job)

/-- Whether a row is one of a job. -/
structure HasRow (o : TaskOutcome) : Prop where
  student : o.student = j.student
  task : o.task = j.task
  coherent : o.Coherent

theorem comesTo_grade : Script.ComesTo (·.task = j.task) (j.grade parse c) := by
  rw [grade]
  refine Script.ComesTo.bind (Script.comesTo_true _) fun there _ => ?_
  split
  · exact Script.ComesTo.bind (Script.comesTo_true _) fun _ _ =>
      Script.ComesTo.bind (Script.comesTo_true _) fun _ _ =>
        Script.ComesTo.bind (Script.comesTo_true _) fun _ _ =>
          (TaskGrade.comesTo_grade ..).adapt _
  · exact Script.comesTo_throw _

theorem comesTo_attempt : Script.ComesTo (·.1.task = j.task) (j.attempt parse c) := by
  refine Script.ComesTo.bind (j.comesTo_grade parse c) fun g hg => ?_
  exact Script.ComesTo.bind (Script.comesTo_true _) fun report _ => Script.comesTo_pure hg

theorem endsIn_evaluate : (j.evaluate parse c).EndsIn j.HasRow := by
  rw [evaluate_eq_bind]
  refine Script.EndsIn.bind (j.comesTo_attempt parse c).endsIn fun r hr => ?_
  cases r with
  | ok attempted => exact ⟨rfl, hr _ rfl, TaskOutcome.coherent_graded ..⟩
  | error reason => exact ⟨rfl, rfl, TaskOutcome.coherent_skipped ..⟩

end Job

/-! ### Side by side -/

/-- The relation of a store to whatever can become of it. -/
def Store.Whatever : Store → Store → Prop := fun _ _ => True

theorem overTime_whatever : OverTime Store.Whatever := ⟨fun _ => trivial, fun _ _ => trivial⟩

theorem Script.EndsIn.settles {α : Type} {P : α → Prop} {m : Script α} (h : m.EndsIn P)
    (s : Store) : m.Settles Store.Whatever (fun a _ => P a) s := by
  induction m generalizing s with
  | done a => exact settles_done.mpr fun _ _ => h
  | file op next ih => exact settles_file.mpr fun t _ => ⟨trivial, ih _ (h _) _⟩
  | log e next ih => exact settles_log.mpr (ih h s)

namespace Batch

variable {parse : Parser} {c : Configuration} {s t : Store} {outs : List TaskOutcome}

/-! ### Runs of a batch -/

/-- Whether a batch on a store can end with outcomes and leave another store: it is prepared, and
then its jobs take their steps in some order until all are at their ends. -/
def Completes (parse : Parser) (c : Configuration) (s : Store) (outs : List TaskOutcome)
    (t : Store) : Prop :=
  ∃ js schedule, yields (prepare c) s = .ok js ∧
    (pool parse c js (leaves (prepare c) s)).play schedule = ⟨outs.map .done, t⟩

theorem completes_evaluate (h : yields (evaluate parse c) s = .ok outs) :
    Completes parse c s outs (leaves (evaluate parse c) s) := by
  obtain ⟨js, hprepare, -⟩ := Script.exists_of_yields_bind _ _ s h
  obtain ⟨hyields, hleaves⟩ := evaluate_of_prepare parse hprepare
  obtain ⟨schedule, hplay⟩ := (pool parse c js (leaves (prepare c) s)).exists_play_inTurn
  have hinTurn : Script.inTurn (pool parse c js (leaves (prepare c) s)).scripts =
      evaluateAll parse c js := (evaluateAll_eq_inTurn parse c js).symm
  rw [hinTurn] at hplay
  obtain rfl := Except.ok.inj (hyields.symm.trans h)
  exact ⟨js, schedule, hprepare, hleaves ▸ hplay⟩

/-! ### Jobs by their numbers -/

section pairs

variable {α β γ : Type} (f : α → β → γ) (as : List α) (bs : List β)

theorem length_flatMap_map : (as.flatMap fun a => bs.map (f a)).length = as.length * bs.length := by
  simp [List.length_flatMap]

/-- Pairs are listed in turns, one turn through the second list for each of the first. -/
theorem getElem?_flatMap_map (k : Nat) :
    (as.flatMap fun a => bs.map (f a))[k]? =
      as[k / bs.length]?.bind fun a => bs[k % bs.length]?.map (f a) := by
  induction as generalizing k with
  | nil => simp
  | cons a as ih =>
      rw [List.flatMap_cons]
      by_cases hk : k < bs.length
      · rw [List.getElem?_append_left (by simpa using hk), Nat.div_eq_of_lt hk, Nat.mod_eq_of_lt hk]
        simp
      · have hle : bs.length ≤ k := Nat.le_of_not_lt hk
        rw [List.getElem?_append_right (by simpa using hle), List.length_map, ih]
        rcases Nat.eq_zero_or_pos bs.length with hnone | hsome
        · simp [List.length_eq_zero_iff.mp hnone]
        · rw [Nat.div_eq_sub_div hsome hle, Nat.mod_eq_sub_mod hle, List.getElem?_cons_succ]

end pairs

/-! ### Outcomes in their places -/

/-- The outcomes of a batch that completes are rows of its jobs, in their places. -/
theorem Completes.rows (h : Completes parse c s outs t) :
    ∃ js, yields (prepare c) s = .ok js ∧ outs.length = js.length ∧
      ∀ (k : Nat) (o : TaskOutcome), outs[k]? = some o → ∃ j, js[k]? = some j ∧ j.HasRow o := by
  obtain ⟨js, schedule, hprepare, hplay⟩ := h
  have hsettles : ∀ j ∈ js, (j.evaluate parse c).Settles Store.Whatever (fun o _ => j.HasRow o)
      (leaves (prepare c) s) := fun j _ => (j.endsIn_evaluate parse c).settles _
  obtain ⟨-, hlength, hends⟩ :=
    ends_of_play overTime_whatever hsettles (congrArg Pool.scripts hplay)
  exact ⟨js, hprepare, hlength, hends⟩

/-- **Rows are complete, in order and coherent.** A batch that is evaluated completes, with one job
after the other.  However a batch completes, there is one outcome for every task of every student,
student by student, where the tasks are those that are resolved and the students are the folders
among the submissions, in whatever order these are listed, in the increasing order of their names.
The final score, the similarity and the path of the report are there if the task was graded, and are
not there if it was skipped. -/
theorem rows_complete (parse : Parser) (c : Configuration) {s : Store} (hs : s.Named) :
    (∀ outs, yields (evaluate parse c) s = .ok outs →
      Completes parse c s outs (leaves (evaluate parse c) s)) ∧
    ∀ outs t, Completes parse c s outs t →
      ∃ (tasks : List String) (listed students : List OsText),
        yields (resolveTasks c) s = .ok tasks ∧ s.list c.submissions = .ok listed ∧
        (∀ n, n ∈ students ↔ n ∈ listed ∧ s.hasFolder (c.submissions.join n) = true) ∧
        students.Pairwise (compare · · = .lt) ∧
        outs.length = students.length * tasks.length ∧
        (∀ (k : Nat) (o : TaskOutcome), outs[k]? = some o →
          students[k / tasks.length]?.map OsText.shown = some o.student ∧
          tasks[k % tasks.length]? = some o.task) ∧
        ∀ o ∈ outs, o.Coherent := by
  refine ⟨fun outs => completes_evaluate, fun outs t h => ?_⟩
  obtain ⟨js, hprepare, hlength, hrows⟩ := h.rows
  obtain ⟨tasks, folders, hresolve, hfolders, -, rfl, -⟩ := exists_of_yields_prepare hprepare
  obtain ⟨d, listed, students, -, hne, hlist, hmem, hsorted, hnames, rfl⟩ :=
    exists_names_of_yields_subfolders hs hfolders
  rw [jobs_map_join hne hnames] at hlength hrows
  refine ⟨tasks, listed, students, hresolve, hlist, hmem, hsorted,
    hlength.trans (length_flatMap_map _ _ _), fun k o ho => ?_, fun o ho => ?_⟩
  · obtain ⟨j, hj, hrow⟩ := hrows k o ho
    rw [getElem?_flatMap_map] at hj
    obtain ⟨student, hstudent, hj⟩ := Option.bind_eq_some_iff.mp hj
    obtain ⟨task, htask, rfl⟩ := Option.map_eq_some_iff.mp hj
    rw [hstudent, htask, hrow.student, hrow.task]
    exact ⟨rfl, rfl⟩
  · obtain ⟨k, hk, rfl⟩ := List.getElem_of_mem ho
    obtain ⟨j, -, hrow⟩ := hrows k _ (List.getElem?_eq_getElem hk)
    exact hrow.coherent

/-- Two students with a task that is named twice: four rows, two of them with a report. -/
theorem rows_complete_twice :
    idleStore.Named ∧ ∃ outs t, Completes (fun _ => idleTree) twiceConfiguration idleStore outs t ∧
      outs.length = 4 ∧ outs.map (·.report.isSome) = [true, true, false, false] ∧
      ∀ o ∈ outs, o.Coherent := by
  have hnamed : idleStore.Named := by decide +kernel
  obtain ⟨hprepare, hleaves⟩ := prepare_idleStore
  obtain ⟨hyields, -⟩ := evaluate_of_prepare (fun _ => idleTree) hprepare
  obtain ⟨hall, hrows⟩ := rows_complete (fun _ => idleTree) twiceConfiguration hnamed
  have hdone := hall _ hyields
  obtain ⟨-, -, -, -, -, -, -, -, -, hcoherent⟩ := hrows _ _ hdone
  generalize houts : ((Batch.evaluateAll _ _ idleJobs).run _).result = outs at hdone hcoherent
  have hreports : outs.map (·.report.isSome) = [true, true, false, false] := by
    rw [← houts, hleaves]
    decide +kernel
  have hlength := congrArg List.length hreports
  rw [List.length_map] at hlength
  exact ⟨hnamed, outs, _, hdone, hlength, hreports, hcoherent⟩

end Batch

end StructuralGrading
