import StructuralGrading.Proofs.Batch.Agreement
import StructuralGrading.Proofs.Batch.Preparation
import StructuralGrading.Proofs.Order.Extensional
import StructuralGrading.Proofs.Script.Pool

/-! # Reports and what is read

The jobs of a batch write below the folder for the reports and read elsewhere.  What a job leaves
can therefore be told from the store on which the batch starts, and no job gets in the way of
another.

* `Batch.Ready`: a batch whose reports lie apart from all that is read;
* `Job.Marks`: what a job leaves where;
* `Batch.Onward`: how a store may change while jobs are at work;
* `Batch.Ready.marks_unique`, `Batch.Ready.marks_stay`: what is left by one job is not changed by
  another;
* `Batch.Ready.find_input`: what a job reads is not changed by any. -/

namespace StructuralGrading

open Script (yields leaves OnlyLooks Looks Settles)
open Store (KeepsFolders Opens)

/-! ### Locations apart -/

/-- Whether neither of two locations lies within the other. -/
def Location.Apart (a b : Location) : Prop := ¬a <+: b ∧ ¬b <+: a

namespace Location.Apart

variable {a b : Location}

theorem append_ne (h : Apart a b) (v w : Location) : a ++ v ≠ b ++ w := by
  intro heq
  have ha : a <+: b ++ w := heq ▸ List.prefix_append a v
  rcases List.prefix_or_prefix_of_prefix ha (List.prefix_append b w) with hab | hba
  · exact h.1 hab
  · exact h.2 hba

theorem append (h : Apart a b) (v : Location) : Apart (a ++ v) b := by
  refine ⟨fun hpre => h.1 ((List.prefix_append a v).trans hpre), fun hpre => ?_⟩
  rcases List.prefix_or_prefix_of_prefix hpre (List.prefix_append a v) with hba | hab
  · exact h.2 hba
  · exact h.1 hab

end Location.Apart

/-! ### Entries of stores -/

namespace Store

variable {s t : Store} {loc : Location} {p : Path}

theorem find_congr (hloc : t.locate p = s.locate p)
    (hget : ∀ loc, s.locate p = .ok loc → t.get? loc = s.get? loc) : t.find p = s.find p := by
  rw [find, find, hloc]
  cases hs : s.locate p with
  | error fault => rfl
  | ok loc =>
      simp only [bind, Except.bind]
      rw [hget loc hs]

/-- Whether the same is in a folder of two stores. -/
def SameIn (d : Location) (s t : Store) : Prop :=
  ∀ name : OsText, t.get? (d ++ [name]) = s.get? (d ++ [name])

theorem SameIn.find_join {d : Location} {name : OsText} (h : SameIn d s t) (hopens : s.Opens p d)
    (hkeeps : KeepsFolders s t) (hname : Path.IsName name) :
    t.find (p.join name) = s.find (p.join name) := by
  refine find_congr ((hopens.keep hkeeps).locate_join_congr hopens hname) fun loc hloc => ?_
  obtain ⟨d', hopens', rfl⟩ := opens_of_locate_join hname hloc
  obtain rfl := hopens'.unique hopens
  exact h name

theorem locate_of_hasEntry (h : s.hasEntry p = true) : ∃ loc, s.locate p = .ok loc := by
  rw [hasEntry] at h
  cases hfind : s.find p with
  | error fault =>
      rw [hfind] at h
      cases h
  | ok e =>
      obtain ⟨loc, hloc, -⟩ := find_eq_ok_iff.mp hfind
      exact ⟨loc, hloc⟩

end Store

/-! ### Places of reports -/

namespace Job

/-- The location of the folder for a student's reports, below that for all reports. -/
def folderPlace (results : Location) (j : Job) : Location := results ++ [.ofText j.student]

/-- The location of the report. -/
def reportPlace (results : Location) (j : Job) : Location :=
  results ++ [.ofText j.student, .ofText (j.task ++ "_results.txt")]

theorem folderPlace_append (results : Location) (j : Job) :
    j.folderPlace results ++ [.ofText (j.task ++ "_results.txt")] = j.reportPlace results :=
  List.append_assoc _ _ _

theorem folderPlace_ne_reportPlace (results : Location) (j k : Job) :
    j.folderPlace results ≠ k.reportPlace results := by
  intro h
  have hlength := congrArg List.length h
  simp [folderPlace, reportPlace] at hlength

theorem eq_of_reportPlace {results : Location} {j k : Job}
    (h : j.reportPlace results = k.reportPlace results) :
    j.student = k.student ∧ j.task = k.task := by
  simp only [reportPlace, List.append_cancel_left_eq, List.cons.injEq, and_true] at h
  exact ⟨OsText.ofText_injective h.1,
    (String.append_left_inj _).mp (OsText.ofText_injective h.2)⟩

end Job

/-! ### What a job leaves -/

/-- What a job leaves in the folder for reports if it starts on the given store: the folder of the
student, and in it the report, as far as they can be there. -/
inductive Job.Marks (parse : Parser) (c : Configuration) (s : Store) (results : Location)
    (j : Job) : Location → Entry → Prop
  | folder {g : TaskGrade} (hgrade : yields (j.grade parse c) s = .ok g)
    (hloc : s.locate (j.reportFolder c) = .ok (j.folderPlace results))
    (hfile : ∀ content, s.get? (j.folderPlace results) ≠ some (.file content)) :
    Marks parse c s results j (j.folderPlace results) .folder
  | report {g : TaskGrade} (hgrade : yields (j.grade parse c) s = .ok g)
    (hloc : s.locate (j.reportFolder c) = .ok (j.folderPlace results))
    (hfile : ∀ content, s.get? (j.folderPlace results) ≠ some (.file content))
    (hreach : ∀ t, KeepsFolders s t → t.get? (j.folderPlace results) = some .folder →
      t.locate (j.reportFile c) = .ok (j.reportPlace results))
    (hfree : s.get? (j.reportPlace results) ≠ some .folder) :
    Marks parse c s results j (j.reportPlace results) (.file g.report.toByteArray)

namespace Batch

/-- A batch on a store from which its jobs can start, with reports that lie apart from all that jobs
read, and a folder for each name of a student. -/
structure Ready (c : Configuration) (s : Store) (js : List Job) (results : Location) : Prop where
  opens_results : s.Opens c.results results
  opens_folder : ∀ j ∈ js, ∃ d, s.Opens j.folder d ∧ d.Apart results
  apart_references : ∀ d, s.Opens c.references d → d.Apart results
  apart_rubrics : ∀ d, s.Opens c.rubrics d → d.Apart results
  folder_eq : ∀ j ∈ js, ∀ k ∈ js, j.student = k.student → j.folder = k.folder
  isName : ∀ j ∈ js, Path.IsName (.ofText j.student)
  separator_notMem : ∀ j ∈ js, '/' ∉ j.task.toList

/-- How a store may change while jobs are at work: folders are kept, and every entry stays as it is
or becomes what some job leaves there. -/
def Onward (parse : Parser) (c : Configuration) (s : Store) (js : List Job) (results : Location)
    (t u : Store) : Prop :=
  KeepsFolders t u ∧ ∀ loc, u.entries.get? loc = t.entries.get? loc ∨
    ∃ j ∈ js, ∃ e, j.Marks parse c s results loc e ∧ u.entries.get? loc = some e

section marks

variable {parse : Parser} {c : Configuration} {s t u : Store} {js : List Job} {results : Location}

theorem overTime_onward : OverTime (Onward parse c s js results) where
  refl t := ⟨KeepsFolders.refl t, fun _ => .inl rfl⟩
  trans := by
    rintro t u v ⟨hkeeps, htu⟩ ⟨hkeeps', huv⟩
    refine ⟨hkeeps.trans hkeeps', fun loc => ?_⟩
    rcases huv loc with h | h
    · rcases htu loc with h' | ⟨j, hj, e, hmark, he⟩
      · exact .inl (h.trans h')
      · exact .inr ⟨j, hj, e, hmark, h.trans he⟩
    · exact .inr h

theorem marks_place {j : Job} {loc : Location} {e : Entry} (h : j.Marks parse c s results loc e) :
    (loc = j.folderPlace results ∧ e = .folder ∧ ∀ content, s.get? loc ≠ some (.file content)) ∨
      (loc = j.reportPlace results ∧ ∃ g, yields (j.grade parse c) s = .ok g ∧
        e = .file g.report.toByteArray) := by
  cases h with
  | folder hgrade hloc hfile => exact .inl ⟨rfl, rfl, hfile⟩
  | report hgrade hloc hfile hreach hfree => exact .inr ⟨rfl, _, hgrade, rfl⟩

theorem exists_append_of_marks {j : Job} {loc : Location} {e : Entry}
    (h : j.Marks parse c s results loc e) : ∃ w, w ≠ [] ∧ loc = results ++ w := by
  rcases marks_place h with ⟨rfl, -⟩ | ⟨rfl, -⟩
  · exact ⟨_, List.cons_ne_nil _ _, rfl⟩
  · exact ⟨_, List.cons_ne_nil _ _, rfl⟩

theorem Onward.get? (h : Onward parse c s js results t u) (loc : Location) :
    u.get? loc = t.get? loc ∨
      ∃ j ∈ js, ∃ e, j.Marks parse c s results loc e ∧ u.get? loc = some e := by
  by_cases hloc : loc = []
  · rw [hloc, Store.get?_nil, Store.get?_nil]
    exact .inl rfl
  · rw [Store.get?_of_ne hloc, Store.get?_of_ne hloc]
    exact h.2 loc

/-- What is in a folder apart from the reports stays as it is. -/
theorem Onward.sameIn {d : Location} (h : Onward parse c s js results s t)
    (hapart : d.Apart results) : Store.SameIn d s t := by
  intro name
  rcases h.get? (d ++ [name]) with hsame | ⟨k, -, e, hmark, -⟩
  · exact hsame
  · obtain ⟨w, -, hw⟩ := exists_append_of_marks hmark
    exact absurd hw (hapart.append_ne _ _)

/-- Jobs leave the store as it was, or one of them leaves something. -/
theorem Onward.eq_or_marks (h : Onward parse c s js results s t) :
    t = s ∨ ∃ k ∈ js, ∃ loc e, k.Marks parse c s results loc e := by
  by_cases hnone : ∀ k ∈ js, ∀ loc e, ¬k.Marks parse c s results loc e
  · refine .inl (Store.ext_entries (fun loc => ?_) h.1.working h.1.listing)
    rcases h.2 loc with hsame | ⟨k, hk, e, hmark, -⟩
    · exact hsame
    · exact absurd hmark (hnone k hk loc e)
  · push Not at hnone
    exact .inr hnone

theorem all_hasEntry_of_marks {k : Job} {loc : Location} {e : Entry}
    (h : k.Marks parse c s results loc e) : ∀ p ∈ k.inputs c, s.hasEntry p = true := by
  obtain ⟨g, hg⟩ : ∃ g, yields (k.grade parse c) s = .ok g := by
    cases h with
    | folder hgrade hloc hfile => exact ⟨_, hgrade⟩
    | report hgrade hloc hfile hreach hfree => exact ⟨_, hgrade⟩
  exact List.all_eq_true.mp (k.all_hasEntry_of_yields_grade parse c hg)

variable (hready : Ready c s js results)

include hready

/-- A job is determined by its student and its task. -/
theorem Ready.eq_of_student {j k : Job} (hj : j ∈ js) (hk : k ∈ js)
    (hstudent : j.student = k.student) (htask : j.task = k.task) : j = k := by
  have hfolder : j.folder = k.folder := hready.folder_eq j hj k hk hstudent
  cases j
  cases k
  cases hstudent
  cases htask
  cases hfolder
  rfl

theorem Ready.marks_unique {j k : Job} (hj : j ∈ js) (hk : k ∈ js) {loc : Location} {e f : Entry}
    (he : j.Marks parse c s results loc e) (hf : k.Marks parse c s results loc f) : e = f := by
  rcases marks_place he with ⟨hloc, rfl, -⟩ | ⟨hloc, g, hg, rfl⟩ <;>
    rcases marks_place hf with ⟨hloc', rfl, -⟩ | ⟨hloc', g', hg', rfl⟩
  · rfl
  · exact absurd (hloc.symm.trans hloc') (Job.folderPlace_ne_reportPlace results j k)
  · exact absurd (hloc'.symm.trans hloc) (Job.folderPlace_ne_reportPlace results k j)
  · obtain ⟨hstudent, htask⟩ := Job.eq_of_reportPlace (hloc.symm.trans hloc')
    obtain rfl := hready.eq_of_student hj hk hstudent htask
    rw [hg] at hg'
    cases hg'
    rfl

/-- What a job has left stays. -/
theorem Ready.marks_stay {j : Job} (hj : j ∈ js) {loc : Location} {e : Entry}
    (hmark : j.Marks parse c s results loc e) (h : Onward parse c s js results t u)
    (ht : t.get? loc = some e) : u.get? loc = some e := by
  rcases h.get? loc with hsame | ⟨k, hk, f, hmark', hf⟩
  · rw [hsame, ht]
  · rw [hf, hready.marks_unique hj hk hmark hmark']

/-! ### What jobs read -/

theorem Ready.opens_of_marks {k : Job} (hk : k ∈ js) {loc : Location} {e : Entry}
    (hmark : k.Marks parse c s results loc e) :
    (∃ d, s.Opens c.references d) ∧ ∃ d, s.Opens c.rubrics d := by
  have htask := hready.separator_notMem k hk
  have hthere := all_hasEntry_of_marks hmark
  obtain ⟨l, hl⟩ := Store.locate_of_hasEntry (hthere (c.referenceOf k.task) (by simp [Job.inputs]))
  obtain ⟨m, hm⟩ := Store.locate_of_hasEntry (hthere (c.rubricOf k.task) (by simp [Job.inputs]))
  obtain ⟨d, hd, -⟩ := Store.opens_of_locate_join
    (Path.isName_ofText_append htask (by decide) (by decide)) hl
  obtain ⟨q, hq, -⟩ := Store.opens_of_locate_join
    (Path.isName_ofText_append htask (by decide) (by decide)) hm
  exact ⟨⟨d, hd⟩, q, hq⟩

/-- A job finds its files as they were at the start, whatever the others have done meanwhile. -/
theorem Ready.find_input {j : Job} (hj : j ∈ js) {p : Path} (hp : p ∈ j.inputs c)
    (h : Onward parse c s js results s t) : t.find p = s.find p := by
  have htask := hready.separator_notMem j hj
  have hpy : Path.IsName (.ofText (j.task ++ ".py")) :=
    Path.isName_ofText_append htask (by decide) (by decide)
  have hjson : Path.IsName (.ofText (j.task ++ ".json")) :=
    Path.isName_ofText_append htask (by decide) (by decide)
  rcases h.eq_or_marks with rfl | ⟨k, hk, loc, e, hmark⟩
  · rfl
  · -- Somebody can leave something, so references and rubrics are where they are looked for.
    obtain ⟨hreference, hrubric⟩ := hready.opens_of_marks hk hmark
    obtain ⟨d, hd, hapart⟩ := hready.opens_folder j hj
    obtain ⟨r, hr⟩ := hreference
    obtain ⟨q, hq⟩ := hrubric
    simp only [Job.inputs, List.mem_cons, List.not_mem_nil, or_false] at hp
    rcases hp with rfl | rfl | rfl
    · exact (h.sameIn hapart).find_join hd h.1 hpy
    · exact (h.sameIn (hready.apart_references r hr)).find_join hr h.1 hpy
    · exact (h.sameIn (hready.apart_rubrics q hq)).find_join hq h.1 hjson

end marks

end Batch

end StructuralGrading
