import StructuralGrading.Proofs.Batch.Reports

/-! # How jobs end

Whatever the other jobs of a batch do meanwhile, a job comes to what it comes to when it runs alone
on the store from the start, and it leaves the same marks there.

* `Script.settles_makeFolders`, `Script.settles_write`: when making folders and writing settle;
* `Batch.Ready.exists_settles_writeReport`: a report is written always, or never for one reason;
* `Batch.Ready.settles_evaluate`, `Batch.Ready.settles_evaluateAll`: one job, and one after the
  other. -/

namespace StructuralGrading

open Script (yields leaves Settles settles_done settles_log)
open Store (KeepsFolders)

/-! ### Changes that settle -/

namespace Script

variable {R : Store → Store → Prop} {s : Store} {p : Path}

/-- Making a folder in a folder that is there settles if it succeeds, or fails for good, or finds a
folder there. -/
theorem settles_makeFolders {Q : Except AccessFault Unit → Store → Prop} (hR : OverTime R)
    (hp : ∃ further, p.ancestors = p :: further)
    (h : ∀ t, R s t →
      (∃ u, t.makeFolder p = .ok u ∧ R t u ∧ ∀ v, R u v → Q (.ok ()) v) ∨
      (∃ fault, t.makeFolder p = .error fault ∧ fault ≠ .notFound ∧ fault ≠ .taken ∧
        ∀ v, R t v → Q (.error fault) v) ∨
      (t.makeFolder p = .error .taken ∧ ∀ u, R t u → ∀ v, R u v →
        Q (if u.hasFolder p then .ok () else .error .taken) v)) :
    (makeFolders p).run.Settles R Q s := by
  obtain ⟨further, hp⟩ := hp
  have hrun : (makeFolders p).run = makeFoldersFrom (p :: further) := congrArg makeFoldersFrom hp
  rw [hrun, makeFoldersFrom, settles_file]
  intro t hst
  have hperform : (FileOp.makeFolder p).perform t = FileOp.settle t (t.makeFolder p) := rfl
  rw [hperform]
  rcases h t hst with ⟨u, hmake, htu, hQ⟩ | ⟨fault, hmake, hnot, htaken, hQ⟩ | ⟨hmake, hQ⟩
  · rw [hmake]
    exact ⟨htu, settles_done.mpr hQ⟩
  · rw [hmake]
    refine ⟨hR.refl t, ?_⟩
    cases fault with
    | notFound => exact absurd rfl hnot
    | taken => exact absurd rfl htaken
    | notFolder | isFolder | notText | nameTooLong | nameWithNull => exact settles_done.mpr hQ
  · rw [hmake]
    exact ⟨hR.refl t, settles_file.mpr fun u htu => ⟨hR.refl u, settles_done.mpr (hQ u htu)⟩⟩

theorem settles_write {Q : Except AccessFault Unit → Store → Prop} (hR : OverTime R) {text : String}
    (h : ∀ t, R s t →
      (∃ u, t.write p text.toByteArray = .ok u ∧ R t u ∧ ∀ v, R u v → Q (.ok ()) v) ∨
      (∃ fault, t.write p text.toByteArray = .error fault ∧ ∀ v, R t v → Q (.error fault) v)) :
    (write p text).run.Settles R Q s := by
  refine settles_file.mpr fun t hst => ?_
  have hperform : (FileOp.write p text).perform t =
      FileOp.settle t (t.write p text.toByteArray) := rfl
  rw [hperform]
  rcases h t hst with ⟨u, hwrite, htu, hQ⟩ | ⟨fault, hwrite, hQ⟩
  · rw [hwrite]
    exact ⟨htu, settles_done.mpr hQ⟩
  · rw [hwrite]
    exact ⟨hR.refl t, settles_done.mpr hQ⟩

end Script

/-- Whether everything that a job leaves is there. -/
def Job.HasLeft (parse : Parser) (c : Configuration) (s : Store) (results : Location) (j : Job)
    (t : Store) : Prop :=
  ∀ loc e, j.Marks parse c s results loc e → t.get? loc = some e

/-- Whether a job leaves a report. -/
def Job.Reports (parse : Parser) (c : Configuration) (s : Store) (results : Location)
    (j : Job) : Prop :=
  ∃ e, j.Marks parse c s results (j.reportPlace results) e

namespace Batch

variable {parse : Parser} {c : Configuration} {s t u : Store} {js : List Job} {results : Location}

theorem exists_of_marks_report {j : Job} {loc : Location} {e : Entry}
    (h : j.Marks parse c s results loc e) (hplace : loc = j.reportPlace results) :
    ∃ g, yields (j.grade parse c) s = .ok g ∧ e = .file g.report.toByteArray ∧
      s.locate (j.reportFolder c) = .ok (j.folderPlace results) ∧
      (∀ content, s.get? (j.folderPlace results) ≠ some (.file content)) ∧
      (∀ t, KeepsFolders s t → t.get? (j.folderPlace results) = some .folder →
        t.locate (j.reportFile c) = .ok (j.reportPlace results)) ∧
      s.get? (j.reportPlace results) ≠ some .folder := by
  cases h with
  | folder => exact absurd hplace (Job.folderPlace_ne_reportPlace results j j)
  | report hgrade hloc hfile hreach hfree => exact ⟨_, hgrade, rfl, hloc, hfile, hreach, hfree⟩

/-! ### Places of a job over time -/

theorem onward_set {j : Job} (hj : j ∈ js) {loc : Location} {e : Entry}
    (hmark : j.Marks parse c s results loc e) (hparent : t.get? loc.dropLast = some .folder)
    (hfree : t.get? loc ≠ some .folder) : Onward parse c s js results t (t.set loc e) := by
  refine ⟨Store.keepsFolders_set hparent hfree e, fun l => ?_⟩
  rw [Store.entries_get?_set hparent hfree]
  split
  · rename_i hl
    exact .inr ⟨j, hj, e, hl ▸ hmark, rfl⟩
  · exact .inl rfl

theorem get?_folderPlace (h : Onward parse c s js results s t) (j : Job) :
    t.get? (j.folderPlace results) = s.get? (j.folderPlace results) ∨
      (t.get? (j.folderPlace results) = some .folder ∧
        ∀ content, s.get? (j.folderPlace results) ≠ some (.file content)) := by
  rcases h.get? (j.folderPlace results) with hsame | ⟨k, -, e, hmark, he⟩
  · exact .inl hsame
  · rcases marks_place hmark with ⟨-, rfl, hfile⟩ | ⟨hloc, -⟩
    · exact .inr ⟨he, hfile⟩
    · exact absurd hloc (Job.folderPlace_ne_reportPlace results j k)

theorem get?_reportPlace (h : Onward parse c s js results s t) {j : Job}
    (hfree : s.get? (j.reportPlace results) ≠ some .folder) :
    t.get? (j.reportPlace results) ≠ some .folder := by
  rcases h.get? (j.reportPlace results) with hsame | ⟨k, -, e, hmark, he⟩
  · rwa [hsame]
  · rcases marks_place hmark with ⟨hloc, -, -⟩ | ⟨-, g, -, rfl⟩
    · exact absurd hloc.symm (Job.folderPlace_ne_reportPlace results k j)
    · rw [he]
      nofun

theorem settles_announce {R : Store → Store → Prop} {Q : TaskOutcome → Store → Prop} {j : Job}
    {r : Except SkipReason (TaskGrade × Path)} (h : ∀ t, R s t → Q (j.outcomeOf r) t) :
    (j.announce r).Settles R Q s := by
  cases r <;> exact settles_log.mpr (settles_done.mpr h)

theorem settles_write_of_error {j : Job} {text : String} {fault : AccessFault}
    (hst : Onward parse c s js results s t)
    (hfolder : t.get? (j.folderPlace results) = some .folder)
    (hfail : ∀ u, Onward parse c s js results s u → u.get? (j.folderPlace results) = some .folder →
      u.write (j.reportFile c) text.toByteArray = .error fault)
    (honly : ∀ loc e, j.Marks parse c s results loc e → loc = j.folderPlace results ∧ e = .folder) :
    (Script.write (j.reportFile c) text).run.Settles (Onward parse c s js results)
      (fun r u => r = .error fault ∧ j.HasLeft parse c s results u) t := by
  refine Script.settles_write overTime_onward fun u htu => .inr ⟨fault, ?_, fun v huv => ⟨rfl, ?_⟩⟩
  · exact hfail u (overTime_onward.trans hst htu) (htu.1.folder _ hfolder)
  · intro loc e hmark
    obtain ⟨rfl, rfl⟩ := honly loc e hmark
    exact huv.1.folder _ (htu.1.folder _ hfolder)

/-- A report that has no folder to be in is not written, and nothing is left. -/
theorem settles_writeReport_of_error {j : Job} {g : TaskGrade} {fault : AccessFault}
    (hfail : (Script.makeFolders (j.reportFolder c)).run.Settles (Onward parse c s js results)
      (fun r _ => r = .error fault) s)
    (hnone : ∀ loc e, ¬j.Marks parse c s results loc e) :
    (j.writeReport c g).run.Settles (Onward parse c s js results)
      (fun r t => r = .error (.folder (j.reportFolder c) fault) ∧
        j.HasLeft parse c s results t) s := by
  rw [Job.writeReport]
  refine Settles.bindCont overTime_onward (Settles.adapt overTime_onward (hfail.mono ?_))
  rintro _ t rfl
  exact settles_done.mpr fun u _ => ⟨rfl, fun loc e hmark => absurd hmark (hnone loc e)⟩

namespace Ready

variable (hready : Ready c s js results)

include hready

theorem trimmed_reportFolder {j : Job} (hj : j ∈ js) :
    Store.trimmed (j.reportFolder c) = j.reportFolder c := by
  rw [Job.reportFolder]
  exact Path.trimmed_join _ (hready.isName j hj)

theorem ancestors_reportFolder {j : Job} (hj : j ∈ js) :
    ∃ further, (j.reportFolder c).ancestors = j.reportFolder c :: further := by
  rw [Job.reportFolder]
  exact Path.ancestors_join _ (hready.isName j hj)

theorem locate_reportFolder {j : Job} (hj : j ∈ js) :
    s.locate (j.reportFolder c) = .ok (j.folderPlace results) ∨
      s.locate (j.reportFolder c) = .error .nameTooLong ∨
      s.locate (j.reportFolder c) = .error .nameWithNull := by
  rw [Job.reportFolder]
  exact hready.opens_results.locate_join (hready.isName j hj)

theorem locate_reportFolder_congr {j : Job} (hj : j ∈ js) (h : KeepsFolders s t) :
    t.locate (j.reportFolder c) = s.locate (j.reportFolder c) := by
  rw [Job.reportFolder]
  exact (hready.opens_results.keep h).locate_join_congr hready.opens_results (hready.isName j hj)

theorem hasLeft_of_onward {j : Job} (hj : j ∈ js) (h : Onward parse c s js results t u)
    (hleft : j.HasLeft parse c s results t) : j.HasLeft parse c s results u :=
  fun loc e hmark => hready.marks_stay hj hmark h (hleft loc e hmark)

/-! ### Folders for reports -/

theorem settles_makeFolders_of_error (parse : Parser) {j : Job} (hj : j ∈ js) {fault : AccessFault}
    (hloc : s.locate (j.reportFolder c) = .error fault) :
    ∃ fault, (Script.makeFolders (j.reportFolder c)).run.Settles (Onward parse c s js results)
      (fun r _ => r = .error fault) s := by
  have hkind : fault = .nameTooLong ∨ fault = .nameWithNull := by
    rcases hready.locate_reportFolder hj with h | h | h
    · cases hloc.symm.trans h
    · cases hloc.symm.trans h
      exact .inl rfl
    · cases hloc.symm.trans h
      exact .inr rfl
  refine ⟨if Store.pathLimit < (j.reportFolder c).length then .nameTooLong else fault,
    Script.settles_makeFolders overTime_onward (hready.ancestors_reportFolder hj)
      fun t hst => .inr (.inl ⟨_, ?_, ?_, ?_, fun _ _ => rfl⟩)⟩
  · exact Store.makeFolder_of_error (hready.trimmed_reportFolder hj)
      ((hready.locate_reportFolder_congr hj hst.1).trans hloc)
  · rcases hkind with rfl | rfl <;> split <;> nofun
  · rcases hkind with rfl | rfl <;> split <;> nofun

theorem settles_makeFolders_of_file (parse : Parser) {j : Job} (hj : j ∈ js) {content : ByteArray}
    (hloc : s.locate (j.reportFolder c) = .ok (j.folderPlace results))
    (hfile : s.get? (j.folderPlace results) = some (.file content)) :
    (Script.makeFolders (j.reportFolder c)).run.Settles (Onward parse c s js results)
      (fun r _ => r = .error .taken) s := by
  have hstay : ∀ t, Onward parse c s js results s t →
      t.locate (j.reportFolder c) = .ok (j.folderPlace results) ∧
        t.get? (j.folderPlace results) = some (.file content) := by
    intro t hst
    refine ⟨(hready.locate_reportFolder_congr hj hst.1).trans hloc, ?_⟩
    rcases get?_folderPlace hst j with hsame | ⟨-, hnot⟩
    · exact hsame.trans hfile
    · exact absurd hfile (hnot content)
  refine Script.settles_makeFolders overTime_onward (hready.ancestors_reportFolder hj)
    fun t hst => .inr (.inr ⟨?_, fun u htu _ _ => ?_⟩)
  · obtain ⟨hloc, hfile⟩ := hstay t hst
    rw [Store.makeFolder_of_locate (hready.trimmed_reportFolder hj) hloc, hfile]
  · obtain ⟨hloc, hfile⟩ := hstay u (overTime_onward.trans hst htu)
    rw [if_neg]
    rw [Store.hasFolder_iff_of_locate hloc, hfile]
    nofun

/-- If the path leads somewhere, and not to a file, then making the folder succeeds, at the latest
by finding that another job has made it. -/
theorem settles_makeFolders_of_ok {j : Job} (hj : j ∈ js) {g : TaskGrade}
    (hgrade : yields (j.grade parse c) s = .ok g)
    (hloc : s.locate (j.reportFolder c) = .ok (j.folderPlace results))
    (hfile : ∀ content, s.get? (j.folderPlace results) ≠ some (.file content)) :
    (Script.makeFolders (j.reportFolder c)).run.Settles (Onward parse c s js results)
      (fun r t => r = .ok () ∧ t.get? (j.folderPlace results) = some .folder) s := by
  refine Script.settles_makeFolders overTime_onward (hready.ancestors_reportFolder hj)
    fun t hst => ?_
  have hlater : ∀ u, KeepsFolders s u → u.locate (j.reportFolder c) = .ok (j.folderPlace results) :=
    fun u hsu => (hready.locate_reportFolder_congr hj hsu).trans hloc
  have hmake := Store.makeFolder_of_locate (hready.trimmed_reportFolder hj) (hlater t hst.1)
  cases hthere : t.get? (j.folderPlace results) with
  | none =>
      have hparent := Store.dropLast_of_locate (hlater t hst.1)
      have hfree : t.get? (j.folderPlace results) ≠ some .folder := by simp [hthere]
      rw [hthere] at hmake
      refine .inl ⟨_, hmake, onward_set hj (.folder hgrade hloc hfile) hparent hfree, ?_⟩
      refine fun v huv => ⟨rfl, huv.1.folder _ ?_⟩
      rw [Store.get?_set hparent hfree, if_pos rfl]
  | some e =>
      have hfolder : t.get? (j.folderPlace results) = some .folder := by
        rcases get?_folderPlace hst j with hsame | ⟨hfolder, -⟩
        · cases e with
          | folder => exact hthere
          | file content => exact absurd (hsame.symm.trans hthere) (hfile content)
        · exact hfolder
      rw [hthere] at hmake
      refine .inr (.inr ⟨hmake, fun u htu v huv => ?_⟩)
      have hu := htu.1.folder _ hfolder
      rw [if_pos ((Store.hasFolder_iff_of_locate (hlater u (hst.1.trans htu.1))).mpr hu)]
      exact ⟨rfl, huv.1.folder _ hu⟩

/-! ### Reports -/

theorem opens_reportFolder {j : Job} (hj : j ∈ js)
    (hloc : s.locate (j.reportFolder c) = .ok (j.folderPlace results)) (hst : KeepsFolders s t)
    (hfolder : t.get? (j.folderPlace results) = some .folder) :
    t.Opens (j.reportFolder c) (j.folderPlace results) :=
  Store.opens_of_locate ((hready.locate_reportFolder_congr hj hst).trans hloc) hfolder

/-- In all stores with the folder for a student's reports, the path of the report leads to its
place, or in none. -/
theorem locate_reportFile {j : Job} (hj : j ∈ js)
    (hloc : s.locate (j.reportFolder c) = .ok (j.folderPlace results)) :
    (∀ t, KeepsFolders s t → t.get? (j.folderPlace results) = some .folder →
      t.locate (j.reportFile c) = .ok (j.reportPlace results)) ∨
    ∃ fault, (∃ w, KeepsFolders s w ∧ w.get? (j.folderPlace results) = some .folder) ∧
      ∀ t, KeepsFolders s t → t.get? (j.folderPlace results) = some .folder →
        t.locate (j.reportFile c) = .error fault := by
  have hname : Path.IsName (.ofText (j.task ++ "_results.txt")) :=
    Path.isName_ofText_append (hready.separator_notMem j hj) (by decide) (by decide)
  refine or_iff_not_imp_left.mpr fun hlost => ?_
  push Not at hlost
  obtain ⟨w, hsw, hw, hnot⟩ := hlost
  have hopens := hready.opens_reportFolder hj hloc hsw hw
  have hsame : ∀ t, KeepsFolders s t → t.get? (j.folderPlace results) = some .folder →
      t.locate (j.reportFile c) = w.locate (j.reportFile c) := fun t hst hfolder =>
    (hready.opens_reportFolder hj hloc hst hfolder).locate_join_congr hopens hname
  rcases hopens.locate_join hname with hplace | hfault | hfault
  · exact absurd (hplace.trans (congrArg _ (j.folderPlace_append results))) hnot
  · exact ⟨_, ⟨w, hsw, hw⟩, fun t hst hfolder => (hsame t hst hfolder).trans hfault⟩
  · exact ⟨_, ⟨w, hsw, hw⟩, fun t hst hfolder => (hsame t hst hfolder).trans hfault⟩

/-- In the folder of the student, a report is written, or for one reason it is not. -/
theorem exists_settles_write {j : Job} (hj : j ∈ js) {g : TaskGrade}
    (hgrade : yields (j.grade parse c) s = .ok g)
    (hloc : s.locate (j.reportFolder c) = .ok (j.folderPlace results))
    (hfile : ∀ content, s.get? (j.folderPlace results) ≠ some (.file content)) :
    ∃ r : Except AccessFault Unit, (r.isOk = true ↔ j.Reports parse c s results) ∧
      ∀ t, Onward parse c s js results s t → t.get? (j.folderPlace results) = some .folder →
        (Script.write (j.reportFile c) g.report).run.Settles (Onward parse c s js results)
          (fun r' u => r' = r ∧ j.HasLeft parse c s results u) t := by
  rcases hready.locate_reportFile hj hloc with
      hreach | ⟨fault, ⟨w, hsw, hw⟩, hlost⟩
  · by_cases hfree : s.get? (j.reportPlace results) = some .folder
    · -- There is a folder in the place of the report, and it stays there.
      refine ⟨.error .isFolder, iff_of_false Bool.false_ne_true ?_,
        fun t hst hfolder => settles_write_of_error hst hfolder ?_ ?_⟩
      · rintro ⟨e, hmark⟩
        obtain ⟨-, -, -, -, -, -, hfree'⟩ := exists_of_marks_report hmark rfl
        exact absurd hfree hfree'
      · exact fun u hsu hu => Store.write_of_folder (hreach u hsu.1 hu) (hsu.1.folder _ hfree)
      · rintro loc e (⟨-⟩ | ⟨-, -, -, -, hfree'⟩)
        · exact ⟨rfl, rfl⟩
        · exact absurd hfree hfree'
    · -- Nothing is in the way of the report.
      have hmark : j.Marks parse c s results (j.reportPlace results) (.file g.report.toByteArray) :=
        .report hgrade hloc hfile hreach hfree
      refine ⟨.ok (), ⟨fun _ => ⟨_, hmark⟩, fun _ => rfl⟩, fun t hst hfolder =>
        Script.settles_write overTime_onward fun u htu => .inl ?_⟩
      have hsu := overTime_onward.trans hst htu
      have hplace := hreach u hsu.1 (htu.1.folder _ hfolder)
      have hparent := Store.dropLast_of_locate hplace
      have hfree' := get?_reportPlace hsu hfree
      have honward := onward_set hj hmark hparent hfree'
      refine ⟨_, Store.write_of_locate hplace hfree', honward, fun v huv => ⟨rfl, ?_⟩⟩
      refine hready.hasLeft_of_onward hj huv fun loc e hmark => ?_
      cases hmark with
      | folder => exact honward.1.folder _ (htu.1.folder _ hfolder)
      | report hgrade' =>
          rw [hgrade] at hgrade'
          cases hgrade'
          rw [Store.get?_set hparent hfree', if_pos rfl]
  · -- The path of the report is of no use.
    refine ⟨.error fault, iff_of_false Bool.false_ne_true ?_,
      fun t hst hfolder => settles_write_of_error hst hfolder ?_ ?_⟩
    · rintro ⟨e, hmark⟩
      obtain ⟨-, -, -, -, -, hreach, -⟩ := exists_of_marks_report hmark rfl
      cases (hlost w hsw hw).symm.trans (hreach w hsw hw)
    · exact fun u hsu hu => Store.write_of_error (hlost u hsu.1 hu)
    · rintro loc e (⟨-⟩ | ⟨-, -, -, hreach, -⟩)
      · exact ⟨rfl, rfl⟩
      · cases (hlost t hst.1 hfolder).symm.trans (hreach t hst.1 hfolder)

/-- A report is written always, or never for one reason. -/
theorem exists_settles_writeReport {j : Job} (hj : j ∈ js) {g : TaskGrade}
    (hgrade : yields (j.grade parse c) s = .ok g) :
    ∃ r : Except ReportFault Path, (r.isOk = true ↔ j.Reports parse c s results) ∧
      (j.writeReport c g).run.Settles (Onward parse c s js results)
        (fun r' t => r' = r ∧ j.HasLeft parse c s results t) s := by
  cases hloc : s.locate (j.reportFolder c) with
  | error fault =>
      obtain ⟨fault', hfail⟩ := hready.settles_makeFolders_of_error parse hj hloc
      have hnone : ∀ loc e, ¬j.Marks parse c s results loc e := by
        intro loc e hmark
        cases hmark with
        | folder _ hloc' => cases hloc.symm.trans hloc'
        | report _ hloc' => cases hloc.symm.trans hloc'
      refine ⟨_, iff_of_false ?_ ?_, settles_writeReport_of_error hfail hnone⟩
      · exact Bool.false_ne_true
      · exact fun ⟨e, hmark⟩ => absurd hmark (hnone _ e)
  | ok l =>
      obtain rfl : l = j.folderPlace results := by
        rcases hready.locate_reportFolder hj with h | h | h
        · exact Except.ok.inj (hloc.symm.trans h)
        · cases hloc.symm.trans h
        · cases hloc.symm.trans h
      by_cases hfile : ∃ content, s.get? (j.folderPlace results) = some (.file content)
      · obtain ⟨content, hfile⟩ := hfile
        have hfail := hready.settles_makeFolders_of_file parse hj hloc hfile
        have hnone : ∀ loc e, ¬j.Marks parse c s results loc e := by
          intro loc e hmark
          cases hmark with
          | folder _ _ hnot => exact hnot content hfile
          | report _ _ hnot => exact hnot content hfile
        refine ⟨_, iff_of_false ?_ ?_, settles_writeReport_of_error hfail hnone⟩
        · exact Bool.false_ne_true
        · exact fun ⟨e, hmark⟩ => absurd hmark (hnone _ e)
      · have hnot : ∀ content, s.get? (j.folderPlace results) ≠ some (.file content) :=
          fun content h => hfile ⟨content, h⟩
        obtain ⟨r, hreports, hwrite⟩ := hready.exists_settles_write hj hgrade hloc hnot
        have hmake := hready.settles_makeFolders_of_ok hj hgrade hloc hnot
        rw [Job.writeReport]
        refine ⟨(r.mapError (.file (j.reportFile c))).map fun _ => j.reportFile c,
          by cases r <;> exact hreports,
          Settles.bindCont overTime_onward (Settles.adapt overTime_onward
            ((hmake.since overTime_onward).mono ?_))⟩
        rintro _ t ⟨hst, rfl, hfolder⟩
        refine Settles.bindPure overTime_onward (Settles.adapt overTime_onward
          ((hwrite t hst hfolder).mono ?_))
        rintro _ u ⟨rfl, hleft⟩
        exact ⟨rfl, hleft⟩

/-! ### Jobs -/

/-- A job comes to one end: without a grade it leaves nothing, and with one it writes the report. -/
theorem exists_settles_attempt (parse : Parser) {j : Job} (hj : j ∈ js) :
    ∃ r : Except SkipReason (TaskGrade × Path), (r.isOk = true ↔ j.Reports parse c s results) ∧
      (j.attempt parse c).run.Settles (Onward parse c s js results)
        (fun r' t => r' = r ∧ j.HasLeft parse c s results t) s := by
  have hfind : ∀ t, Onward parse c s js results s t → ∀ p ∈ j.inputs c, t.find p = s.find p :=
    fun t hst p hp => hready.find_input hj hp hst
  have hlook := Settles.of_looks overTime_onward (j.onlyLooks_grade parse c) hfind
  rw [Job.attempt]
  cases hgrade : yields (j.grade parse c) s with
  | error reason =>
      refine ⟨.error reason, iff_of_false Bool.false_ne_true ?_,
        Settles.bindCont overTime_onward (hlook.mono ?_)⟩
      · rintro ⟨e, hmark⟩
        obtain ⟨g, hgrade', -⟩ := exists_of_marks_report hmark rfl
        cases hgrade.symm.trans hgrade'
      rintro r t ⟨hr, -⟩
      obtain rfl : r = .error reason := hr.trans hgrade
      refine settles_done.mpr fun u _ => ⟨rfl, fun loc e hmark => ?_⟩
      cases hmark with
      | folder hgrade' => cases hgrade.symm.trans hgrade'
      | report hgrade' => cases hgrade.symm.trans hgrade'
  | ok g =>
      obtain ⟨r, hreports, hreport⟩ := hready.exists_settles_writeReport hj hgrade
      refine ⟨(r.mapError .notReported).map (g, ·), by cases r <;> exact hreports,
        Settles.bindCont overTime_onward (hlook.mono ?_)⟩
      rintro r' t ⟨hr', hst⟩
      obtain rfl : r' = .ok g := hr'.trans hgrade
      refine Settles.bindPure overTime_onward (Settles.adapt overTime_onward
        ((hreport.later overTime_onward hst).mono ?_))
      rintro _ u ⟨rfl, hleft⟩
      exact ⟨rfl, hleft⟩

theorem exists_settles_evaluate (parse : Parser) {j : Job} (hj : j ∈ js) :
    ∃ r : Except SkipReason (TaskGrade × Path), (r.isOk = true ↔ j.Reports parse c s results) ∧
      (j.evaluate parse c).Settles (Onward parse c s js results)
        (fun a t => a = j.outcomeOf r ∧ j.HasLeft parse c s results t) s := by
  obtain ⟨r, hreports, hattempt⟩ := hready.exists_settles_attempt parse hj
  refine ⟨r, hreports, ?_⟩
  rw [Job.evaluate_eq_bind]
  refine Settles.bind overTime_onward ((hattempt.stable overTime_onward).mono fun r' t ht => ?_)
  exact settles_announce fun u htu => ⟨congrArg j.outcomeOf (ht u htu).1, (ht u htu).2⟩

theorem status_evaluate_iff (parse : Parser) {j : Job} (hj : j ∈ js) :
    ((j.evaluate parse c).run s).result.status = .graded ↔ j.Reports parse c s results := by
  obtain ⟨r, hreports, hsettles⟩ := hready.exists_settles_evaluate parse hj
  obtain ⟨-, halone⟩ := hsettles.run overTime_onward
  rw [(halone _ (overTime_onward.refl _)).1, ← hreports]
  cases r with
  | ok r => exact iff_of_true rfl rfl
  | error reason => exact iff_of_false nofun Bool.false_ne_true

/-- A job comes to what it comes to alone, and leaves the same. -/
theorem settles_evaluate (parse : Parser) {j : Job} (hj : j ∈ js) :
    (j.evaluate parse c).Settles (Onward parse c s js results)
      (fun a t => a = ((j.evaluate parse c).run s).result ∧ j.HasLeft parse c s results t) s := by
  obtain ⟨r, -, hsettles⟩ := hready.exists_settles_evaluate parse hj
  obtain ⟨-, halone⟩ := hsettles.run overTime_onward
  rw [(halone _ (overTime_onward.refl _)).1]
  exact hsettles

theorem settles_evaluateAll (parse : Parser) : ∀ ks : List Job, (∀ k ∈ ks, k ∈ js) →
    (evaluateAll parse c ks).Settles (Onward parse c s js results)
      (fun as t => as = ks.map (fun k => ((k.evaluate parse c).run s).result) ∧
        ∀ k ∈ ks, k.HasLeft parse c s results t) s := by
  intro ks
  induction ks with
  | nil => exact fun _ => settles_done.mpr fun t _ => ⟨rfl, nofun⟩
  | cons k ks ih =>
      intro hks
      have hk := hks k List.mem_cons_self
      have hrest := ih fun l hl => hks l (List.mem_cons_of_mem k hl)
      refine Settles.bind overTime_onward
        (((hready.settles_evaluate parse hk).since overTime_onward).mono ?_)
      rintro a t ⟨hst, ha, hleft⟩
      refine Settles.bind overTime_onward
        (((hrest.later overTime_onward hst).since overTime_onward).mono ?_)
      rintro as u ⟨htu, has, hall⟩
      refine settles_done.mpr fun v huv => ⟨?_, fun l hl => ?_⟩
      · rw [ha, has, List.map_cons]
      rcases List.mem_cons.mp hl with rfl | hl
      · exact hready.hasLeft_of_onward hk (overTime_onward.trans htu huv) hleft
      · exact hready.hasLeft_of_onward (hks l (List.mem_cons_of_mem k hl)) huv (hall l hl)

end Ready

end Batch

end StructuralGrading
