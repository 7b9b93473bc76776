import StructuralGrading.Configuration
import StructuralGrading.Proofs.Text.Parts

/-! # Lists of tasks

A list of tasks is written field by field with a comma between two of them.  A field gives a task,
and the white space around it does not count; or it is blank, and then it gives none.

* `IsTask`: what can be a task;
* `ListsTasks`: the fields that a list of tasks can be written with;
* `taskList_append`: a comma between two texts puts their lists one after the other;
* `taskList_eq_iff`: a text is read as a list of tasks if it is written with such fields, and only
  then;
* `taskList_rejoined`: so what is read and written again is read the same. -/

namespace StructuralGrading

/-! ### Tasks and fields -/

/-- A text that can be listed as a task. -/
@[mk_iff]
structure IsTask (task : String) : Prop where
  ne_empty : task ≠ ""
  no_comma : ',' ∉ task.toList
  isTrimmed : Text.IsTrimmed task

instance (task : String) : Decidable (IsTask task) := decidable_of_iff _ (isTask_iff task).symm

/-- The fields list the tasks: each of them has one task with any white space around it, or is
blank. -/
inductive ListsTasks : List String → List String → Prop
  | nil : ListsTasks [] []
  | blank {field : String} {fields tasks : List String} : Text.AllBlank field →
      ListsTasks fields tasks → ListsTasks (field :: fields) tasks
  | task {field task : String} {fields tasks : List String} : IsTask task →
      Text.Pads task field → ListsTasks fields tasks → ListsTasks (field :: fields) (task :: tasks)

theorem Text.AllBlank.no_comma {s : String} (h : Text.AllBlank s) : ',' ∉ s.toList := by
  intro hcomma
  have hblank := h ',' hcomma
  revert hblank
  decide

theorem IsTask.no_comma_of_pads {task field : String} (h : IsTask task)
    (hpads : Text.Pads task field) : ',' ∉ field.toList := by
  obtain ⟨before, after, hbefore, hafter, rfl⟩ := hpads
  simp [hbefore.no_comma, hafter.no_comma, h.no_comma]

theorem ListsTasks.isTask {fields tasks : List String} (h : ListsTasks fields tasks) :
    ∀ task ∈ tasks, IsTask task := by
  induction h with
  | nil => exact nofun
  | blank _ _ ih => exact ih
  | task htask _ _ ih => exact List.forall_mem_cons.mpr ⟨htask, ih⟩

theorem listsTasks_self : ∀ {tasks : List String}, (∀ task ∈ tasks, IsTask task) →
    ListsTasks tasks tasks
  | [], _ => .nil
  | task :: _, h =>
      .task (h task List.mem_cons_self) (.refl task)
        (listsTasks_self fun t ht => h t (List.mem_cons_of_mem _ ht))

/-! ### One field -/

theorem taskList_append (a b : String) : taskList (a ++ "," ++ b) = taskList a ++ taskList b := by
  have htext : (a ++ "," ++ b).toList = a.toList ++ ',' :: b.toList := by simp
  unfold taskList
  rw [htext, List.splitOn_append_cons_self, List.map_append, List.filter_append]

theorem taskList_of_no_comma {field : String} (h : ',' ∉ field.toList) :
    taskList field = [Text.trim field].filter (· ≠ "") := by
  unfold taskList
  rw [List.splitOn_eq_singleton h]
  rfl

theorem taskList_of_allBlank {field : String} (h : Text.AllBlank field) : taskList field = [] := by
  rw [taskList_of_no_comma h.no_comma, h.trim_eq]
  rfl

theorem taskList_of_pads {task field : String} (h : IsTask task) (hpads : Text.Pads task field) :
    taskList field = [task] := by
  rw [taskList_of_no_comma (h.no_comma_of_pads hpads), hpads.trim_eq, h.isTrimmed.trim_eq]
  simp [h.ne_empty]

/-- The first field is read on its own, whether others follow or not. -/
theorem taskList_cons (field : String) (fields : List String) :
    taskList (",".intercalate (field :: fields)) =
      taskList field ++ taskList (",".intercalate fields) := by
  cases fields with
  | nil =>
      rw [String.intercalate_nil]
      exact (List.append_nil _).symm
  | cons next fields => rw [String.intercalate_cons_cons, taskList_append]

/-! ### All fields -/

theorem ListsTasks.taskList_eq {fields tasks : List String} (h : ListsTasks fields tasks) :
    taskList (",".intercalate fields) = tasks := by
  induction h with
  | nil => rfl
  | blank hblank _ ih => rw [taskList_cons, taskList_of_allBlank hblank, ih, List.nil_append]
  | task htask hpads _ ih =>
      rw [taskList_cons, taskList_of_pads htask hpads, ih, List.singleton_append]

theorem allBlank_or_isTask_trim {field : String} (h : ',' ∉ field.toList) :
    Text.AllBlank field ∨ IsTask (Text.trim field) := by
  by_cases hblank : Text.AllBlank field
  · exact .inl hblank
  · exact .inr ⟨fun hempty => hblank (Text.trim_eq_empty_iff.mp hempty),
      fun hcomma => h (Text.mem_of_mem_trim hcomma), Text.isTrimmed_trim field⟩

theorem listsTasks_of_no_comma : ∀ {fields : List String}, (∀ field ∈ fields, ',' ∉ field.toList) →
    ListsTasks fields (taskList (",".intercalate fields))
  | [], _ => .nil
  | field :: fields, h => by
      have hcomma := h field List.mem_cons_self
      have hrest := listsTasks_of_no_comma fun f hf => h f (List.mem_cons_of_mem field hf)
      rw [taskList_cons]
      rcases allBlank_or_isTask_trim hcomma with hblank | htask
      · rw [taskList_of_allBlank hblank]
        exact .blank hblank hrest
      · rw [taskList_of_pads htask (Text.pads_trim field)]
        exact .task htask (Text.pads_trim field) hrest

theorem exists_fields (text : String) :
    ∃ fields : List String, (∀ field ∈ fields, ',' ∉ field.toList) ∧
      ",".intercalate fields = text := by
  refine ⟨(text.toList.splitOn ',').map String.ofList, ?_, ?_⟩
  · rw [List.forall_mem_map]
    intro cs hcs
    rw [String.toList_ofList]
    exact Text.not_mem_of_mem_splitOn hcs
  · apply String.toList_injective
    simp [Function.comp_def]

/-- A text is read as a list of tasks if and only if it consists of fields that list them. -/
theorem taskList_eq_iff {text : String} {tasks : List String} :
    taskList text = tasks ↔
      ∃ fields, ListsTasks fields tasks ∧ ",".intercalate fields = text := by
  constructor
  · rintro rfl
    obtain ⟨fields, hcomma, rfl⟩ := exists_fields text
    exact ⟨fields, listsTasks_of_no_comma hcomma, rfl⟩
  · rintro ⟨fields, hlists, rfl⟩
    exact hlists.taskList_eq

theorem isTask_of_mem_taskList {text task : String} (h : task ∈ taskList text) : IsTask task := by
  obtain ⟨fields, hlists, -⟩ := taskList_eq_iff.mp (rfl : taskList text = taskList text)
  exact hlists.isTask task h

/-- **Reading lists of tasks.**  A comma between two texts puts their lists one after the other.
What is listed is not empty, has no comma in it and no white space at its ends.  A text is read as
the tasks that its fields list: one for each field with a task, whatever white space stands around
it, and none for a blank field, wherever it stands.  So the tasks that are read, with commas between
them, are read as the same tasks again. -/
theorem taskList_rejoined :
    (∀ a b : String, taskList (a ++ "," ++ b) = taskList a ++ taskList b) ∧
    (∀ text, ∀ task ∈ taskList text,
      task ≠ "" ∧ ',' ∉ task.toList ∧ Text.IsTrimmed task) ∧
    (∀ fields tasks, ListsTasks fields tasks → taskList (",".intercalate fields) = tasks) ∧
    (∀ text, ∃ fields, ListsTasks fields (taskList text) ∧ ",".intercalate fields = text) ∧
    ∀ text, taskList (",".intercalate (taskList text)) = taskList text := by
  refine ⟨taskList_append, ?_, fun _ _ h => h.taskList_eq, ?_, ?_⟩
  · intro text task htask
    exact (isTask_iff task).mp (isTask_of_mem_taskList htask)
  · intro text
    exact taskList_eq_iff.mp rfl
  · intro text
    have hself : ListsTasks (taskList text) (taskList text) :=
      listsTasks_self fun _ => isTask_of_mem_taskList
    exact hself.taskList_eq

/-- Two tasks with white space of several kinds around them, and blank fields between them and at
both ends. -/
theorem taskList_rejoined_padded :
    ListsTasks ["", " task 1\t", "\u00a0\u3000", "", "\ntask3", " "] ["task 1", "task3"] ∧
    taskList ", task 1\t,\u00a0\u3000,,\ntask3, " = ["task 1", "task3"] := by
  have hlists : ListsTasks ["", " task 1\t", "\u00a0\u3000", "", "\ntask3", " "]
      ["task 1", "task3"] := by
    have hfirst : Text.Pads "task 1" " task 1\t" :=
      ⟨" ", "\t", by decide +kernel, by decide +kernel, by decide +kernel⟩
    have hlast : Text.Pads "task3" "\ntask3" :=
      ⟨"\n", "", by decide +kernel, by decide +kernel, by decide +kernel⟩
    refine .blank (by decide +kernel) (.task (by decide +kernel) hfirst ?_)
    refine .blank (by decide +kernel) (.blank (by decide +kernel) ?_)
    exact .task (by decide +kernel) hlast (.blank (by decide +kernel) .nil)
  exact ⟨hlists, taskList_rejoined.2.2.1 _ _ hlists⟩

end StructuralGrading
