import StructuralGrading.Proofs.Script.Looking

/-! # Scripts side by side

Several scripts work on one store, each taking one step at a time.  Nothing is said about the order
of the steps.

* `Pool.step`, `Pool.play`: a pool of scripts, one step or several of them;
* `Script.Settles`: a script comes to an end that can be told beforehand, whatever the others do to
  the store meanwhile, as long as they and the script itself keep to a relation between stores;
* `Settles.run`, `Pool.settles_play`: scripts that settle do so when run alone, and in every pool;
* `Script.inTurn`, `Pool.exists_play_inTurn`: to run scripts one after the other is one way to play
  them, so every pool can be played to its end (`Pool.exists_play_done`). -/

namespace StructuralGrading

variable {α β : Type}

/-! ### Pools -/

/-- Scripts that work on one store. -/
structure Pool (α : Type) where
  scripts : List (Script α)
  store : Store

namespace Pool

/-- The script with the given number takes its next step; if there is none, nothing happens. -/
def step (p : Pool α) (i : Nat) : Pool α :=
  match p.scripts[i]? with
  | some m => ⟨p.scripts.set i (m.step p.store).1, (m.step p.store).2⟩
  | none => p

/-- Scripts take steps in the order in which their numbers are given. -/
def play (p : Pool α) (schedule : List Nat) : Pool α := schedule.foldl step p

theorem play_append (p : Pool α) (first rest : List Nat) :
    p.play (first ++ rest) = (p.play first).play rest := List.foldl_append

theorem step_of_getElem? {p : Pool α} {i : Nat} {m : Script α} (h : p.scripts[i]? = some m) :
    p.step i = ⟨p.scripts.set i (m.step p.store).1, (m.step p.store).2⟩ := by
  rw [step, h]

end Pool

/-! ### Settling -/

/-- Whether a relation can be that of a store to what it is later on. -/
structure OverTime (R : Store → Store → Prop) : Prop where
  refl : ∀ s, R s s
  trans : ∀ {s t u}, R s t → R t u → R s u

namespace Script

variable {R : Store → Store → Prop} {Q Q' : α → Store → Prop}

/-- Whether a script ends as `Q` says, while others may change the store along `R` before each of
its operations and after the last; and whether it changes the store along `R` itself. -/
def Settles (R : Store → Store → Prop) (Q : α → Store → Prop) : Script α → Store → Prop
  | done a, s => ∀ t, R s t → Q a t
  | file op next, s => ∀ t, R s t →
      R t (op.perform t).2 ∧ (next (op.perform t).1).Settles R Q (op.perform t).2
  | log _ next, s => next.Settles R Q s

namespace Settles

/-- What others do first makes no difference. -/
theorem later (hR : OverTime R) {m : Script α} {s t : Store} (hst : R s t) (h : m.Settles R Q s) :
    m.Settles R Q t := by
  induction m with
  | done a => exact fun u htu => h u (hR.trans hst htu)
  | file op next ih => exact fun u htu => h u (hR.trans hst htu)
  | log e next ih => exact ih h

theorem mono {m : Script α} (hQ : ∀ a t, Q a t → Q' a t) {s : Store} (h : m.Settles R Q s) :
    m.Settles R Q' s := by
  induction m generalizing s with
  | done a => exact fun t hst => hQ a t (h t hst)
  | file op next ih => exact fun t hst => ⟨(h t hst).1, ih _ (h t hst).2⟩
  | log e next ih => exact ih h

/-- Whatever the others do in the end makes no difference either. -/
theorem stable (hR : OverTime R) {m : Script α} {s : Store} (h : m.Settles R Q s) :
    m.Settles R (fun a t => ∀ u, R t u → Q a u) s := by
  induction m generalizing s with
  | done a => exact fun t hst u htu => h u (hR.trans hst htu)
  | file op next ih => exact fun t hst => ⟨(h t hst).1, ih _ (h t hst).2⟩
  | log e next ih => exact ih h

/-- At its end, a script finds what has become of the store on which it started. -/
theorem since (hR : OverTime R) {m : Script α} {s : Store} (h : m.Settles R Q s) :
    m.Settles R (fun a t => R s t ∧ Q a t) s := by
  suffices hlater : ∀ t, R s t → m.Settles R Q t → m.Settles R (fun a t => R s t ∧ Q a t) t from
    hlater s (hR.refl s) h
  clear h
  intro t hst h
  induction m generalizing t with
  | done a => exact fun u htu => ⟨hR.trans hst htu, h u htu⟩
  | file op next ih =>
      intro u htu
      obtain ⟨hop, hnext⟩ := h u htu
      exact ⟨hop, ih _ _ (hR.trans hst (hR.trans htu hop)) hnext⟩
  | log e next ih => exact ih t hst h

theorem step (hR : OverTime R) {m : Script α} {s : Store} (h : m.Settles R Q s) :
    R s (m.step s).2 ∧ (m.step s).1.Settles R Q (m.step s).2 := by
  cases m with
  | done a => exact ⟨hR.refl s, h⟩
  | file op next => exact h s (hR.refl s)
  | log e next => exact ⟨hR.refl s, h⟩

theorem run (hR : OverTime R) {m : Script α} {s : Store} (h : m.Settles R Q s) :
    R s (m.run s).store ∧ ∀ t, R (m.run s).store t → Q (m.run s).result t := by
  induction m generalizing s with
  | done a => exact ⟨hR.refl s, h⟩
  | file op next ih =>
      obtain ⟨hop, hnext⟩ := h s (hR.refl s)
      obtain ⟨hrest, hQ⟩ := ih _ hnext
      exact ⟨hR.trans hop hrest, hQ⟩
  | log e next ih => exact ih h

theorem bind (hR : OverTime R) {m : Script α} {f : α → Script β} {Q : β → Store → Prop} {s : Store}
    (h : m.Settles R (fun a t => (f a).Settles R Q t) s) : (m.bind f).Settles R Q s := by
  induction m generalizing s with
  | done a => exact h s (hR.refl s)
  | file op next ih => exact fun t hst => ⟨(h t hst).1, ih _ (h t hst).2⟩
  | log e next ih => exact ih h

theorem bindCont (hR : OverTime R) {ε : Type} {x : ExceptT ε Script α} {f : α → ExceptT ε Script β}
    {Q : Except ε β → Store → Prop} {s : Store}
    (h : x.run.Settles R (fun r t => (ExceptT.bindCont f r).Settles R Q t) s) :
    (x >>= f).run.Settles R Q s :=
  Settles.bind hR h

theorem adapt (hR : OverTime R) {ε ε' : Type} {x : ExceptT ε Script α} {g : ε → ε'}
    {Q : Except ε' α → Store → Prop} {s : Store}
    (h : x.run.Settles R (fun r t => Q (r.mapError g) t) s) : (x.adapt g).run.Settles R Q s :=
  Settles.bind hR (h.stable hR)

theorem bindPure (hR : OverTime R) {ε : Type} {x : ExceptT ε Script α} {k : α → β}
    {Q : Except ε β → Store → Prop} {s : Store}
    (h : x.run.Settles R (fun r t => Q (r.map k) t) s) :
    (x >>= fun a => pure (k a)).run.Settles R Q s :=
  Settles.bindCont hR ((h.stable hR).mono fun r _ ht => by cases r <;> exact ht)

theorem of_looks (hR : OverTime R) {P : Path → Prop} {m : Script α} (hm : m.Looks P) {s : Store}
    (hfind : ∀ t, R s t → ∀ p, P p → t.find p = s.find p) :
    m.Settles R (fun a t => a = (m.run s).result ∧ R s t) s := by
  suffices hlater : ∀ t, R s t → m.Settles R (fun a t => a = (m.run s).result ∧ R s t) t from
    hlater s (hR.refl s)
  induction m with
  | done a => exact fun t hst u htu => ⟨rfl, hR.trans hst htu⟩
  | file op next ih =>
      obtain ⟨⟨p, hop, hp⟩, hnext⟩ := hm
      intro t hst u htu
      have hsu := hR.trans hst htu
      have hsame : (op.perform u).1 = (op.perform s).1 :=
        FileOp.perform_congr hop (hfind u hsu p hp)
      have hrun : (file op next).run s = (next (op.perform s).1).run s := by
        rw [Script.run, FileOp.perform_of_lookedAt hop]
      rw [FileOp.perform_of_lookedAt hop, hsame, hrun]
      exact ⟨hR.refl u, ih _ (hnext _) u hsu⟩
  | log e next ih => exact ih hm

end Settles

section equations

variable {s : Store}

theorem settles_done {a : α} : (done a).Settles R Q s ↔ ∀ t, R s t → Q a t := Iff.rfl

theorem settles_file {op : FileOp} {next : op.Answer → Script α} :
    (file op next).Settles R Q s ↔ ∀ t, R s t →
      R t (op.perform t).2 ∧ (next (op.perform t).1).Settles R Q (op.perform t).2 := Iff.rfl

theorem settles_log {e : Event} {next : Script α} :
    (log e next).Settles R Q s ↔ next.Settles R Q s := Iff.rfl

end equations

-- Whether a script settles is told by these equations, and not by running it.
attribute [irreducible] Settles

end Script

/-! ### Scripts in turn -/

namespace Script

/-- One script after the other, to the end of the last. -/
def inTurn : List (Script α) → Script (List α)
  | [] => done []
  | m :: ms => m.bind fun a => (inTurn ms).bind fun as => done (a :: as)

theorem run_inTurn_nil (s : Store) : (inTurn ([] : List (Script α))).run s = ⟨[], s, []⟩ := rfl

theorem run_inTurn_cons (m : Script α) (ms : List (Script α)) (s : Store) :
    ((inTurn (m :: ms)).run s).result =
        (m.run s).result :: ((inTurn ms).run (m.run s).store).result ∧
      ((inTurn (m :: ms)).run s).store = ((inTurn ms).run (m.run s).store).store := by
  rw [inTurn, result_bind, store_bind, result_bind, store_bind]
  exact ⟨rfl, rfl⟩

end Script

/-! ### Settling side by side -/

namespace Pool

variable {R : Store → Store → Prop} {Q : Nat → α → Store → Prop}

/-- Whether every script of a pool settles, each in its own way. -/
def Settles (R : Store → Store → Prop) (Q : Nat → α → Store → Prop) (p : Pool α) : Prop :=
  ∀ (i : Nat) (m : Script α), p.scripts[i]? = some m → m.Settles R (Q i) p.store

/-- A step of one script leaves the others as settled as they were. -/
theorem settles_step (hR : OverTime R) {p : Pool α} (h : p.Settles R Q) (i : Nat) :
    R p.store (p.step i).store ∧ (p.step i).Settles R Q := by
  cases hm : p.scripts[i]? with
  | none =>
      rw [step, hm]
      exact ⟨hR.refl _, h⟩
  | some m =>
      obtain ⟨hstore, hrest⟩ := (h i m hm).step hR
      rw [step_of_getElem? hm]
      refine ⟨hstore, fun k n hn => ?_⟩
      simp only [List.getElem?_set] at hn
      split at hn
      · rename_i hik
        split at hn
        · cases hn
          exact hik ▸ hrest
        · cases hn
      · exact (h k n hn).later hR hstore

theorem settles_play (hR : OverTime R) {p : Pool α} (h : p.Settles R Q) (schedule : List Nat) :
    R p.store (p.play schedule).store ∧ (p.play schedule).Settles R Q := by
  induction schedule generalizing p with
  | nil => exact ⟨hR.refl _, h⟩
  | cons i schedule ih =>
      obtain ⟨hstep, hsettles⟩ := settles_step hR h i
      obtain ⟨hplay, hrest⟩ := ih hsettles
      exact ⟨hR.trans hstep hplay, hrest⟩

/-- At their ends, scripts that settle have ended in their ways. -/
theorem of_settles_done (hR : OverTime R) {p : Pool α} (h : p.Settles R Q) {as : List α}
    (hdone : p.scripts = as.map .done) {i : Nat} {a : α} (ha : as[i]? = some a) :
    Q i a p.store := by
  have hscript : p.scripts[i]? = some (.done a) := by rw [hdone, List.getElem?_map, ha]; rfl
  exact Script.settles_done.mp (h i _ hscript) p.store (hR.refl _)

/-! ### Ends -/

theorem length_scripts_step (p : Pool α) (i : Nat) :
    (p.step i).scripts.length = p.scripts.length := by
  rw [step]
  split
  · exact List.length_set
  · rfl

theorem length_scripts_play (p : Pool α) (schedule : List Nat) :
    (p.play schedule).scripts.length = p.scripts.length := by
  induction schedule generalizing p with
  | nil => rfl
  | cons i schedule ih => exact (ih (p.step i)).trans (p.length_scripts_step i)

/-- A script that takes all the steps is run to its end, and the others stay as they are. -/
theorem exists_play_replicate {i : Nat} (m : Script α) : ∀ p : Pool α, p.scripts[i]? = some m →
    ∃ n, p.play (List.replicate n i) =
      ⟨p.scripts.set i (.done (m.run p.store).result), (m.run p.store).store⟩ := by
  induction m with
  | done a =>
      intro p hp
      refine ⟨0, ?_⟩
      obtain ⟨hi, hget⟩ := List.getElem?_eq_some_iff.mp hp
      show p = ⟨p.scripts.set i (.done a), p.store⟩
      rw [← hget, List.set_getElem_self]
  | file op next ih =>
      intro p hp
      obtain ⟨hi, -⟩ := List.getElem?_eq_some_iff.mp hp
      have hstep := step_of_getElem? hp
      obtain ⟨n, hn⟩ := ih (op.perform p.store).1 (p.step i) (by
        rw [hstep, List.getElem?_set_self hi]
        rfl)
      refine ⟨n + 1, hn.trans ?_⟩
      rw [hstep, List.set_set]
      rfl
  | log e next ih =>
      intro p hp
      obtain ⟨hi, -⟩ := List.getElem?_eq_some_iff.mp hp
      have hstep := step_of_getElem? hp
      obtain ⟨n, hn⟩ := ih (p.step i) (by
        rw [hstep, List.getElem?_set_self hi]
        rfl)
      refine ⟨n + 1, hn.trans ?_⟩
      rw [hstep, List.set_set]
      rfl

/-- If the first scripts are at their ends then the others can be run one after the other. -/
theorem exists_play_from (ms : List (Script α)) : ∀ (ends : List α) (s : Store),
    ∃ schedule, (⟨ends.map .done ++ ms, s⟩ : Pool α).play schedule =
      ⟨(ends ++ ((Script.inTurn ms).run s).result).map .done,
        ((Script.inTurn ms).run s).store⟩ := by
  induction ms with
  | nil => exact fun ends s => ⟨[], by simp [Script.inTurn, Script.run, play]⟩
  | cons m ms ih =>
      intro ends s
      have hlength : (ends.map Script.done).length = ends.length := List.length_map _
      have hget : (ends.map Script.done ++ m :: ms)[ends.length]? = some m := by
        rw [List.getElem?_append_right (Nat.le_of_eq hlength), hlength, Nat.sub_self]
        rfl
      obtain ⟨n, hn⟩ := exists_play_replicate m ⟨ends.map .done ++ m :: ms, s⟩ hget
      obtain ⟨schedule, hrest⟩ := ih (ends ++ [(m.run s).result]) (m.run s).store
      obtain ⟨hresult, hstore⟩ := Script.run_inTurn_cons m ms s
      refine ⟨List.replicate n ends.length ++ schedule, ?_⟩
      rw [play_append, hn, List.set_append_right _ _ (Nat.le_of_eq hlength), hlength, Nat.sub_self,
        List.set_cons_zero, hresult, hstore]
      simpa using hrest

theorem exists_play_inTurn (p : Pool α) :
    ∃ schedule, p.play schedule =
      ⟨((Script.inTurn p.scripts).run p.store).result.map .done,
        ((Script.inTurn p.scripts).run p.store).store⟩ :=
  exists_play_from p.scripts [] p.store

/-- Of two scripts, the second can also be run before the first. -/
theorem exists_play_swapped (m n : Script α) (s : Store) :
    ∃ (schedule : List Nat) (as : List α),
      ((⟨[m, n], s⟩ : Pool α).play schedule).scripts = as.map .done ∧
      ((⟨[m, n], s⟩ : Pool α).play schedule).store = (m.run (n.run s).store).store := by
  obtain ⟨k, hk⟩ := exists_play_replicate (i := 1) n ⟨[m, n], s⟩ rfl
  obtain ⟨l, hl⟩ := exists_play_replicate (i := 0) m
    ⟨[m, .done (n.run s).result], (n.run s).store⟩ rfl
  refine ⟨List.replicate k 1 ++ List.replicate l 0,
    [(m.run (n.run s).store).result, (n.run s).result], ?_⟩
  rw [play_append, hk]
  exact ⟨congrArg scripts hl, congrArg store hl⟩

theorem exists_play_done (p : Pool α) :
    ∃ (schedule : List Nat) (as : List α), (p.play schedule).scripts = as.map .done := by
  obtain ⟨schedule, hplay⟩ := p.exists_play_inTurn
  exact ⟨schedule, _, congrArg scripts hplay⟩

end Pool

end StructuralGrading
