import StructuralGrading.Script

/-! # Scripts that only look

A script that tests for entries and reads files changes nothing.  What it yields is a matter of the
store alone, and only of the paths at which it looks.

* `Script.yields`, `Script.leaves`: the two sides of running a script that can fail;
* `Script.Looks`: whether all that a script does is to look at some paths;
* `Script.Looks.leaves_eq`, `Script.Looks.yields_congr`: what follows from that. -/

namespace StructuralGrading

theorem mapError_eq_ok_iff {α ε ε' : Type} {x : Except ε α} {g : ε → ε'} {a : α} :
    x.mapError g = .ok a ↔ x = .ok a := by
  cases x with
  | error fault => exact ⟨nofun, nofun⟩
  | ok b =>
      exact ⟨fun h => congrArg Except.ok (Except.ok.inj h),
        fun h => congrArg Except.ok (Except.ok.inj h)⟩

/-! ### Looking at a path -/

namespace FileOp

/-- The path at which an operation looks, if it does nothing else. -/
def lookedAt? : FileOp → Option Path
  | hasEntry p => some p
  | read p => some p
  | _ => none

variable {op : FileOp} {p : Path}

theorem perform_of_lookedAt (h : op.lookedAt? = some p) (s : Store) : (op.perform s).2 = s := by
  cases op <;> first | rfl | cases h

theorem perform_congr (h : op.lookedAt? = some p) {s t : Store} (hst : s.find p = t.find p) :
    (op.perform s).1 = (op.perform t).1 := by
  cases op with
  | hasEntry q =>
      cases h
      show s.hasEntry p = t.hasEntry p
      rw [Store.hasEntry, Store.hasEntry, hst]
  | read q =>
      cases h
      show s.read p = t.read p
      rw [Store.read, Store.read, hst]
  | hasFolder | list | search | makeFolder | write => cases h

end FileOp

namespace Script

variable {α β ε ε' : Type} {P : Path → Prop}

/-- Whether all that a script does with files is to look at certain paths. -/
def Looks (P : Path → Prop) : Script α → Prop
  | done _ => True
  | file op next => (∃ p, op.lookedAt? = some p ∧ P p) ∧ ∀ answer, (next answer).Looks P
  | log _ next => next.Looks P

namespace Looks

theorem bind {m : Script α} {f : α → Script β} (hm : m.Looks P) (hf : ∀ a, (f a).Looks P) :
    (m.bind f).Looks P := by
  induction m with
  | done a => exact hf a
  | file op next ih => exact ⟨hm.1, fun answer => ih answer (hm.2 answer)⟩
  | log e next ih => exact ih hm

theorem store_run {m : Script α} (hm : m.Looks P) (s : Store) : (m.run s).store = s := by
  induction m generalizing s with
  | done a => rfl
  | file op next ih =>
      obtain ⟨⟨p, hop, -⟩, hnext⟩ := hm
      rw [run, ih _ (hnext _), FileOp.perform_of_lookedAt hop]
  | log e next ih => exact ih hm s

theorem result_congr {m : Script α} (hm : m.Looks P) {s t : Store}
    (hst : ∀ p, P p → s.find p = t.find p) : (m.run s).result = (m.run t).result := by
  induction m with
  | done a => rfl
  | file op next ih =>
      obtain ⟨⟨p, hop, hp⟩, hnext⟩ := hm
      rw [run, run, FileOp.perform_of_lookedAt hop, FileOp.perform_of_lookedAt hop,
        FileOp.perform_congr hop (hst p hp)]
      exact ih _ (hnext _)
  | log e next ih => exact ih hm

end Looks

/-! ### One script after another -/

theorem result_bind (m : Script α) (f : α → Script β) (s : Store) :
    ((m.bind f).run s).result = ((f (m.run s).result).run (m.run s).store).result := by
  rw [run_bind]

theorem store_bind (m : Script α) (f : α → Script β) (s : Store) :
    ((m.bind f).run s).store = ((f (m.run s).result).run (m.run s).store).store := by
  rw [run_bind]

/-! ### Scripts that can fail -/

/-- What a script yields on a store. -/
def yields (x : ExceptT ε Script α) (s : Store) : Except ε α := (x.run.run s).result

/-- The store that a script leaves. -/
def leaves (x : ExceptT ε Script α) (s : Store) : Store := (x.run.run s).store

section equations

variable (x : ExceptT ε Script α) (f : α → ExceptT ε Script β) (s : Store)

@[simp] theorem yields_pure (a : α) : yields (pure a : ExceptT ε Script α) s = .ok a := rfl

@[simp] theorem leaves_pure (a : α) : leaves (pure a : ExceptT ε Script α) s = s := rfl

@[simp] theorem yields_throw (e : ε) : yields (throw e : ExceptT ε Script α) s = .error e := rfl

@[simp] theorem leaves_throw (e : ε) : leaves (throw e : ExceptT ε Script α) s = s := rfl

@[simp] theorem yields_lift (m : Script α) :
    yields (liftM m : ExceptT ε Script α) s = .ok (m.run s).result :=
  result_bind m (fun a => done (Except.ok a)) s

@[simp] theorem leaves_lift (m : Script α) :
    leaves (liftM m : ExceptT ε Script α) s = (m.run s).store :=
  store_bind m (fun a => done (Except.ok a)) s

/-- One script after another yields what the second yields on what the first leaves. -/
theorem yields_bind :
    yields (x >>= f) s = yields x s >>= fun a => yields (f a) (leaves x s) := by
  have hbind : yields (x >>= f) s = ((ExceptT.bindCont f (yields x s)).run (leaves x s)).result :=
    result_bind x.run (ExceptT.bindCont f) s
  rw [hbind]
  cases yields x s <;> rfl

theorem leaves_bind :
    leaves (x >>= f) s =
      match yields x s with
      | .ok a => leaves (f a) (leaves x s)
      | .error _ => leaves x s := by
  have hbind : leaves (x >>= f) s = ((ExceptT.bindCont f (yields x s)).run (leaves x s)).store :=
    store_bind x.run (ExceptT.bindCont f) s
  rw [hbind]
  cases yields x s <;> rfl

theorem yields_bind_pure (k : α → β) :
    yields (x >>= fun a => pure (k a)) s = (yields x s).map k := by
  rw [yields_bind]
  cases yields x s <;> rfl

theorem leaves_bind_pure (k : α → β) : leaves (x >>= fun a => pure (k a)) s = leaves x s := by
  rw [leaves_bind]
  cases yields x s <;> rfl

theorem bind_of_ok {a : α} (h : yields x s = .ok a) :
    yields (x >>= f) s = yields (f a) (leaves x s) ∧
      leaves (x >>= f) s = leaves (f a) (leaves x s) := by
  rw [yields_bind, leaves_bind, h]
  exact ⟨rfl, rfl⟩

theorem bind_of_error {e : ε} (h : yields x s = .error e) :
    yields (x >>= f) s = .error e ∧ leaves (x >>= f) s = leaves x s := by
  rw [yields_bind, leaves_bind, h]
  exact ⟨rfl, rfl⟩

theorem leaves_bind_eq (hx : leaves x s = s) (hf : ∀ a, leaves (f a) s = s) :
    leaves (x >>= f) s = s := by
  rw [leaves_bind, hx]
  cases yields x s with
  | error fault => rfl
  | ok a => exact hf a

theorem exists_of_yields_bind {b : β} (h : yields (x >>= f) s = .ok b) :
    ∃ a, yields x s = .ok a ∧ yields (f a) (leaves x s) = .ok b ∧
      leaves (x >>= f) s = leaves (f a) (leaves x s) := by
  cases hx : yields x s with
  | error fault =>
      rw [(bind_of_error x f s hx).1] at h
      cases h
  | ok a =>
      obtain ⟨hyields, hleaves⟩ := bind_of_ok x f s hx
      exact ⟨a, rfl, hyields ▸ h, hleaves⟩

@[simp] theorem yields_adapt (g : ε → ε') : yields (x.adapt g) s = (yields x s).mapError g :=
  result_bind x.run (fun r => done (r.mapError g)) s

theorem yields_adapt_eq_ok {g : ε → ε'} {a : α} :
    yields (x.adapt g) s = .ok a ↔ yields x s = .ok a := by
  rw [yields_adapt, mapError_eq_ok_iff]

@[simp] theorem leaves_adapt (g : ε → ε') : leaves (x.adapt g) s = leaves x s :=
  store_bind x.run (fun r => done (r.mapError g)) s

end equations

/-- Whether all that a script that can fail does with files is to look at certain paths. -/
def OnlyLooks (P : Path → Prop) (x : ExceptT ε Script α) : Prop := x.run.Looks P

namespace OnlyLooks

variable {x : ExceptT ε Script α} {f : α → ExceptT ε Script β}

theorem bind (hx : OnlyLooks P x) (hf : ∀ a, OnlyLooks P (f a)) : OnlyLooks P (x >>= f) :=
  Looks.bind hx fun r =>
    match r with
    | .ok a => hf a
    | .error _ => trivial

theorem lift {m : Script α} (hm : m.Looks P) : OnlyLooks P (liftM m : ExceptT ε Script α) :=
  Looks.bind hm fun _ => trivial

theorem adapt (hx : OnlyLooks P x) (g : ε → ε') : OnlyLooks P (x.adapt g) :=
  Looks.bind hx fun _ => trivial

theorem leaves_eq (hx : OnlyLooks P x) (s : Store) : leaves x s = s := Looks.store_run hx s

theorem yields_congr (hx : OnlyLooks P x) {s t : Store}
    (hst : ∀ p, P p → s.find p = t.find p) : yields x s = yields x t :=
  Looks.result_congr hx hst

/-- After a script that only looks, the next one finds the store as it was. -/
theorem yields_bind (hx : OnlyLooks P x) (f : α → ExceptT ε Script β) (s : Store) :
    yields (x >>= f) s = yields x s >>= fun a => yields (f a) s := by
  rw [Script.yields_bind, hx.leaves_eq]

end OnlyLooks

/-! ### Events -/

theorem looks_tellAll : ∀ es : List Event, (tellAll es).Looks P
  | [] => trivial
  | _ :: es => looks_tellAll es

theorem onlyLooks_tellAll (es : List Event) {x : ExceptT ε Script α} (hx : OnlyLooks P x) :
    OnlyLooks P (do (tellAll es : Script Unit); x) :=
  OnlyLooks.bind (.lift (looks_tellAll es)) fun _ => hx

theorem yields_tellAll (es : List Event) (x : ExceptT ε Script α) (s : Store) :
    yields (do (tellAll es : Script Unit); x) s = yields x s := by
  have hlook : OnlyLooks (fun _ => False) (liftM (tellAll es) : ExceptT ε Script Unit) :=
    .lift (looks_tellAll es)
  rw [hlook.yields_bind, yields_lift]
  rfl

end Script

end StructuralGrading
