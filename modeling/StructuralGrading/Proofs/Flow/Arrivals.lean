import StructuralGrading.Proofs.Flow.Laid

/-! # Three views of the edges of a layout

* `arrivals es`: where the edges between different blocks lead, in order;
* `returns es`: the blocks with an edge to themselves, in order;
* `arms L u es`: the branches that an edge leads to from `u`, in order.

Each is a list that grows edge by edge, so the rules of `Laid` say what it is: `arrivals_eq`,
`returns_perm` and `fork_arms`. -/

namespace StructuralGrading

/-! ### Edges between different blocks -/

/-- The targets of the edges between different blocks. -/
def arrivals (es : List (Nat × Nat)) : List Nat := (es.filter fun e => e.1 ≠ e.2).map (·.2)

theorem arrivals_append (es fs : List (Nat × Nat)) :
    arrivals (es ++ fs) = arrivals es ++ arrivals fs := by
  simp [arrivals]

theorem arrivals_cons_of_lt {u v : Nat} (h : u < v) (es : List (Nat × Nat)) :
    arrivals ((u, v) :: es) = v :: arrivals es := by
  have hne : u ≠ v := Nat.ne_of_lt h
  simp [arrivals, hne]

theorem arrivals_loop (n : Nat) : arrivals [(n, n)] = [] := by
  simp [arrivals]

theorem arrivals_entry (n : Nat) : arrivals (entry n) = [n].filter (0 < ·) := by
  cases n with
  | zero => rfl
  | succ n => simp [arrivals, entry]

theorem mem_arrivals {es : List (Nat × Nat)} {v : Nat} :
    v ∈ arrivals es ↔ ∃ u, u ≠ v ∧ (u, v) ∈ es := by
  simp only [arrivals, List.mem_map, List.mem_filter, decide_eq_true_eq]
  constructor
  · rintro ⟨⟨u, w⟩, ⟨he, hne⟩, rfl⟩
    exact ⟨u, hne, he⟩
  · rintro ⟨u, hne, he⟩
    exact ⟨(u, v), ⟨he, hne⟩, rfl⟩

/-! ### Edges from a block to itself -/

/-- The blocks with an edge to themselves. -/
def returns (es : List (Nat × Nat)) : List Nat := (es.filter fun e => e.1 = e.2).map (·.2)

theorem returns_append (es fs : List (Nat × Nat)) :
    returns (es ++ fs) = returns es ++ returns fs := by
  simp [returns]

theorem returns_cons_of_lt {u v : Nat} (h : u < v) (es : List (Nat × Nat)) :
    returns ((u, v) :: es) = returns es := by
  have hne : u ≠ v := Nat.ne_of_lt h
  simp [returns, hne]

theorem returns_loop (n : Nat) : returns [(n, n)] = [n] := by
  simp [returns]

theorem returns_entry (n : Nat) : returns (entry n) = [] := by
  cases n with
  | zero => rfl
  | succ n => simp [returns, entry]

theorem mem_returns {es : List (Nat × Nat)} {v : Nat} : v ∈ returns es ↔ (v, v) ∈ es := by
  simp only [returns, List.mem_map, List.mem_filter, decide_eq_true_eq]
  constructor
  · rintro ⟨⟨u, w⟩, ⟨he, heq⟩, rfl⟩
    obtain rfl : u = w := heq
    exact he
  · intro he
    exact ⟨(v, v), ⟨he, rfl⟩, rfl⟩

theorem length_arrivals_add_returns (es : List (Nat × Nat)) :
    (arrivals es).length + (returns es).length = es.length := by
  induction es with
  | nil => rfl
  | cons e es ih =>
      simp only [arrivals, returns, List.length_map, ne_eq, decide_not] at ih ⊢
      by_cases he : e.1 = e.2
      · simp [he]
        omega
      · simp [he]
        omega

/-- No edge is stored twice if none is stored twice in either view. -/
theorem nodup_of_views {es : List (Nat × Nat)} (harr : (arrivals es).Nodup)
    (hret : (returns es).Nodup) : es.Nodup := by
  induction es with
  | nil => exact List.nodup_nil
  | cons e es ih =>
      obtain ⟨u, v⟩ := e
      by_cases huv : u = v
      · subst huv
        have hcons : returns ((u, u) :: es) = u :: returns es := by simp [returns]
        have hskip : arrivals ((u, u) :: es) = arrivals es := by simp [arrivals]
        rw [hcons, List.nodup_cons, mem_returns] at hret
        rw [hskip] at harr
        exact List.nodup_cons.mpr ⟨hret.1, ih harr hret.2⟩
      · have hcons : arrivals ((u, v) :: es) = v :: arrivals es := by simp [arrivals, huv]
        have hskip : returns ((u, v) :: es) = returns es := by simp [returns, huv]
        rw [hcons, List.nodup_cons, mem_arrivals] at harr
        rw [hskip] at hret
        refine List.nodup_cons.mpr ⟨?_, ih harr.2 hret⟩
        intro hmem
        exact harr.1 ⟨u, huv, hmem⟩

/-! ### Branches -/

/-- The branches that edges lead to from `u`. -/
def arms (L : List BlockLabel) (u : Nat) (es : List (Nat × Nat)) : List Nat :=
  (es.filter fun e => e.1 = u && L[e.2]?.any BlockLabel.isBranch).map (·.2)

variable {L : List BlockLabel}

theorem arms_append (u : Nat) (es fs : List (Nat × Nat)) :
    arms L u (es ++ fs) = arms L u es ++ arms L u fs := by
  simp [arms]

theorem arms_cons_of_ne {u w : Nat} (h : w ≠ u) (v : Nat) (es : List (Nat × Nat)) :
    arms L u ((w, v) :: es) = arms L u es := by
  simp [arms, h]

theorem arms_cons_of_branch {v : Nat} {label : BlockLabel} (hv : L[v]? = some label)
    (hl : label.isBranch = true) (u : Nat) (es : List (Nat × Nat)) :
    arms L u ((u, v) :: es) = v :: arms L u es := by
  simp [arms, hv, hl]

theorem arms_entry {n : Nat} {label : BlockLabel} (hn : L[n]? = some label)
    (hl : label.isBranch = false) (u : Nat) : arms L u (entry n) = [] := by
  cases n with
  | zero => rfl
  | succ n => simp [arms, entry, hn, hl]

theorem mem_arms {u v : Nat} {es : List (Nat × Nat)} :
    v ∈ arms L u es ↔ (u, v) ∈ es ∧ L[v]?.any BlockLabel.isBranch = true := by
  simp only [arms, List.mem_map, List.mem_filter, Bool.and_eq_true, decide_eq_true_eq]
  constructor
  · rintro ⟨⟨w, x⟩, ⟨he, rfl, hl⟩, rfl⟩
    exact ⟨he, hl⟩
  · rintro ⟨he, hl⟩
    exact ⟨(u, v), ⟨he, rfl, hl⟩, rfl⟩

/-- The arms of a condition: a true branch, and perhaps a false one further on. -/
inductive Fork (L : List BlockLabel) : List Nat → Prop
  | one {v : Nat} : L[v]? = some .trueBranch → Fork L [v]
  | two {v w : Nat} : L[v]? = some .trueBranch → L[w]? = some .falseBranch → v < w →
      Fork L [v, w]

namespace Laid

variable {n m : Nat} {es : List (Nat × Nat)}

theorem Ico_cons (h : n + 1 ≤ m) : List.Ico n m = [n] ++ List.Ico (n + 1) m :=
  List.Ico.eq_cons h

theorem cons_filter_Ico (hpos : 0 < n) (h : n + 1 ≤ m) :
    n :: (List.Ico (n + 1) m).filter (0 < ·) = (List.Ico n m).filter (0 < ·) := by
  rw [Ico_cons h, List.singleton_append, List.filter_cons_of_pos]
  simpa using hpos

/-- The edges between different blocks arrive at every block but the first of the graph, once
and in order. -/
theorem arrivals_eq (h : Laid L n m es) : arrivals es = (List.Ico n m).filter (0 < ·) := by
  induction h with
  | nil n => simp [arrivals]
  | append h₁ h₂ ih₁ ih₂ =>
      rw [arrivals_append, ih₁, ih₂, ← List.filter_append,
        List.Ico.append_consecutive h₁.le h₂.le]
  | function _ h ih =>
      rw [arrivals_append, arrivals_entry, ih, ← List.filter_append, ← Ico_cons h.le]
  | loop _ h ih =>
      rw [arrivals_append, arrivals_append, arrivals_entry, arrivals_loop, List.append_nil, ih,
        ← List.filter_append, ← Ico_cons h.le]
  | ifThen _ h₁ _ h₂ ih₁ ih₂ =>
      have hm := h₁.le
      have hk := h₂.le
      rw [arrivals_append, arrivals_append, arrivals_entry, arrivals_cons_of_lt hm, ih₁, ih₂,
        cons_filter_Ico (by omega) hk, ← List.filter_append,
        List.Ico.append_consecutive hm (by omega), ← List.filter_append, ← Ico_cons (by omega)]
  | ifElse _ h₁ _ h₂ _ h₃ ih₁ ih₂ ih₃ =>
      have hm := h₁.le
      have hk := h₂.le
      have hl := h₃.le
      rw [arrivals_append, arrivals_append, arrivals_append, arrivals_entry,
        arrivals_cons_of_lt hm, arrivals_cons_of_lt (by omega), ih₁, ih₂, ih₃,
        cons_filter_Ico (by omega) hk, cons_filter_Ico (by omega) hl, ← List.filter_append,
        List.Ico.append_consecutive hm (by omega), ← List.filter_append,
        List.Ico.append_consecutive (by omega) (by omega), ← List.filter_append,
        ← Ico_cons (by omega)]

theorem length_arrivals (h : Laid L 0 m es) : (arrivals es).length = m - 1 := by
  rw [h.arrivals_eq]
  cases m with
  | zero => rfl
  | succ m =>
      have hpos : ∀ v ∈ List.Ico 1 (m + 1), decide (0 < v) = true := by
        intro v hv
        exact decide_eq_true (List.Ico.mem.mp hv).1
      rw [Ico_cons (Nat.le_add_left 1 m), List.filter_append, List.filter_eq_self.mpr hpos]
      simp

theorem nodup_arrivals (h : Laid L n m es) : (arrivals es).Nodup := by
  rw [h.arrivals_eq]
  exact (List.Ico.nodup n m).filter _

/-- The loops from `n` up to `m`. -/
def loops (L : List BlockLabel) (n m : Nat) : List Nat :=
  (List.Ico n m).filter fun v => L[v]?.any BlockLabel.isLoop

theorem loops_append {k : Nat} (hnm : n ≤ m) (hmk : m ≤ k) :
    loops L n m ++ loops L m k = loops L n k := by
  rw [loops, loops, ← List.filter_append, List.Ico.append_consecutive hnm hmk, loops]

theorem loops_cons {label : BlockLabel} (hn : L[n]? = some label) (hl : label.isLoop = true)
    (h : n + 1 ≤ m) : loops L n m = n :: loops L (n + 1) m := by
  rw [loops, Ico_cons h, List.singleton_append, List.filter_cons_of_pos (by simp [hn, hl]), loops]

theorem loops_skip {label : BlockLabel} (hn : L[n]? = some label) (hl : label.isLoop = false)
    (h : n + 1 ≤ m) : loops L n m = loops L (n + 1) m := by
  rw [loops, Ico_cons h, List.singleton_append, List.filter_cons_of_neg (by simp [hn, hl]), loops]

theorem length_loops (L : List BlockLabel) :
    (loops L 0 L.length).length = L.countP BlockLabel.isLoop := by
  have hsome : (List.range L.length).map (L[·]?) = L.map some := by
    apply List.ext_getElem
    · simp
    · intro i h₁ h₂
      simp only [List.length_map, List.length_range] at h₁
      simp [h₁]
  calc (loops L 0 L.length).length
      = ((List.range L.length).map (L[·]?)).countP (·.any BlockLabel.isLoop) := by
        rw [loops, List.Ico.zero_bot, List.countP_map, ← List.countP_eq_length_filter]
        rfl
    _ = L.countP BlockLabel.isLoop := by
        rw [hsome, List.countP_map]
        rfl

/-- The edges from a block to itself are those of the loops, one each.  A loop is closed after
its body, so they do not come in order. -/
theorem returns_perm (h : Laid L n m es) : (returns es).Perm (loops L n m) := by
  induction h with
  | nil n => simp [returns, loops]
  | append h₁ h₂ ih₁ ih₂ =>
      rw [returns_append, ← loops_append h₁.le h₂.le]
      exact ih₁.append ih₂
  | function hn h ih =>
      rw [returns_append, returns_entry, loops_skip hn rfl h.le]
      exact ih
  | @loop n m style es hn h ih =>
      rw [returns_append, returns_append, returns_entry, returns_loop, List.nil_append,
        loops_cons hn style.isLoop_label h.le]
      exact (List.perm_append_singleton n _).trans (ih.cons n)
  | ifThen hn h₁ hm h₂ ih₁ ih₂ =>
      have hm' := h₁.le
      have hk' := h₂.le
      rw [returns_append, returns_append, returns_entry, returns_cons_of_lt hm',
        loops_skip hn rfl (by omega), ← loops_append hm' (by omega), loops_skip hm rfl hk']
      exact ih₁.append ih₂
  | ifElse hn h₁ hm h₂ hk h₃ ih₁ ih₂ ih₃ =>
      have hm' := h₁.le
      have hk' := h₂.le
      have hl' := h₃.le
      rw [returns_append, returns_append, returns_append, returns_entry, returns_cons_of_lt hm',
        returns_cons_of_lt (by omega), loops_skip hn rfl (by omega),
        ← loops_append hm' (by omega), loops_skip hm rfl (by omega),
        ← loops_append hk' (by omega), loops_skip hk rfl hl', List.nil_append, List.append_assoc]
      exact ih₁.append (ih₂.append ih₃)

theorem target_mem (h : Laid L n m es) {u v : Nat} (he : (u, v) ∈ es) : n ≤ v ∧ v < m := by
  by_cases huv : u = v
  · subst huv
    have hret := h.returns_perm.mem_iff.mp (mem_returns.mpr he)
    exact List.Ico.mem.mp (List.mem_of_mem_filter hret)
  · have harr : v ∈ arrivals es := mem_arrivals.mpr ⟨u, huv, he⟩
    rw [h.arrivals_eq] at harr
    exact List.Ico.mem.mp (List.mem_of_mem_filter harr)

theorem arms_eq_nil (h : Laid L n m es) {u : Nat} (hu : u < n ∨ m ≤ u) : arms L u es = [] := by
  rw [List.eq_nil_iff_forall_not_mem]
  intro v hv
  obtain ⟨he, hbranch⟩ := mem_arms.mp hv
  have htarget := (h.target_mem he).2
  cases h.passage _ he with
  | next hl hplain _ => simp [hl, hplain] at hbranch
  | branch _ _ _ hn huv => omega
  | again hl hloop hn => omega

/-- Arms in one of two layouts that follow each other, with nothing but branches between. -/
theorem fork_append {m' k : Nat} {fs : List (Nat × Nat)} {u : Nat} (h₁ : Laid L n m es)
    (h₂ : Laid L m' k fs) (hm : m ≤ m') (ih₁ : n ≤ u → u < m → Fork L (arms L u es))
    (ih₂ : m' ≤ u → u < k → Fork L (arms L u fs)) (hn : n ≤ u) (hk : u < k)
    (hu : u < m ∨ m' ≤ u) : Fork L (arms L u es ++ arms L u fs) := by
  rcases hu with hlt | hge
  · rw [h₂.arms_eq_nil (.inl (by omega)), List.append_nil]
    exact ih₁ hn hlt
  · rw [h₁.arms_eq_nil (.inr (by omega)), List.nil_append]
    exact ih₂ hge hk

/-- A condition has a true branch, and perhaps a false one after it. -/
theorem fork_arms (h : Laid L n m es) {u : Nat} (hcond : L[u]? = some .ifCondition)
    (hn : n ≤ u) (hm : u < m) : Fork L (arms L u es) := by
  -- A block with another label is not `u`.
  have hother : ∀ {v : Nat} {label : BlockLabel}, L[v]? = some label → label ≠ .ifCondition →
      u ≠ v := by
    rintro v label hv hlabel rfl
    exact hlabel (Option.some.inj (hv.symm.trans hcond))
  induction h with
  | nil => omega
  | append h₁ h₂ ih₁ ih₂ =>
      rw [arms_append]
      exact fork_append h₁ h₂ (Nat.le_refl _) ih₁ ih₂ hn hm (by omega)
  | function hl h ih =>
      have hne := hother hl (by simp)
      rw [arms_append, arms_entry hl rfl, List.nil_append]
      exact ih (by omega) hm
  | @loop n m style es hl h ih =>
      have hne := hother hl (by cases style <;> simp [LoopStyle.label])
      rw [arms_append, arms_append, arms_entry hl style.isBranch_label, List.nil_append,
        arms_cons_of_ne hne.symm, show arms L u [] = [] from rfl, List.append_nil]
      exact ih (by omega) hm
  | @ifThen n j m es fs hl h₁ hj h₂ ih₁ ih₂ =>
      have hnj := h₁.le
      have hjm := h₂.le
      have hne := hother hj (by simp)
      rw [arms_append, arms_append, arms_entry hl rfl, List.nil_append]
      by_cases hu : u = n
      · subst hu
        rw [h₁.arms_eq_nil (.inl (by omega)), arms_cons_of_branch hj rfl,
          h₂.arms_eq_nil (.inl (by omega))]
        exact .one hj
      · rw [arms_cons_of_ne (Ne.symm hu)]
        exact fork_append h₁ h₂ (Nat.le_succ _) ih₁ ih₂ (by omega) hm (by omega)
  | @ifElse n j k m es fs gs hl h₁ hj h₂ hk h₃ ih₁ ih₂ ih₃ =>
      have hnj := h₁.le
      have hjk := h₂.le
      have hkm := h₃.le
      have hnej := hother hj (by simp)
      have hnek := hother hk (by simp)
      rw [arms_append, arms_append, arms_append, arms_entry hl rfl, List.nil_append]
      by_cases hu : u = n
      · subst hu
        rw [h₁.arms_eq_nil (.inl (by omega)), arms_cons_of_branch hj rfl,
          h₂.arms_eq_nil (.inl (by omega)), arms_cons_of_branch hk rfl,
          h₃.arms_eq_nil (.inl (by omega))]
        exact .two hj hk (by omega)
      · rw [arms_cons_of_ne (Ne.symm hu), arms_cons_of_ne (Ne.symm hu)]
        rcases Nat.lt_or_ge u k with hlt | hge
        · rw [h₃.arms_eq_nil (.inl (by omega)), List.append_nil]
          exact fork_append h₁ h₂ (Nat.le_succ _) ih₁ ih₂ (by omega) hlt (by omega)
        · rw [h₁.arms_eq_nil (.inr (by omega)), h₂.arms_eq_nil (.inr hge), List.nil_append]
          exact ih₃ (by omega) hm

end Laid

end StructuralGrading
