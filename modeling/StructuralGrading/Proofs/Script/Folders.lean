import StructuralGrading.Proofs.Script.Looking
import StructuralGrading.Proofs.Store.Joining

/-! # Folders under scripts

No script takes a folder away, so a folder that a path opens stays open.  Making folders ends with a
folder at the path, or fails.

* `FileOp.keepsFolders_perform`, `Script.keepsFolders_run`: operations and scripts keep folders;
* `Store.hasFolder_of_makeFolder`: there is a folder at the path at which it was made;
* `Script.hasFolder_of_makeFolders`: the same for folders and those on the way to them;
* `Script.makeFolders_of_there`: no folder is made where there is one. -/

namespace StructuralGrading

/-! ### Keeping folders -/

namespace Store

variable {s t u : Store} {p : Path}

theorem KeepsFolders.refl (s : Store) : KeepsFolders s s := ⟨fun _ h => h, rfl, rfl⟩

theorem KeepsFolders.trans (hst : KeepsFolders s t) (htu : KeepsFolders t u) : KeepsFolders s u :=
  ⟨fun loc h => htu.folder loc (hst.folder loc h), htu.working.trans hst.working,
    htu.listing.trans hst.listing⟩

theorem makeFolder_eq_ok (h : s.makeFolder p = .ok t) :
    ∃ loc, p.length ≤ pathLimit ∧ s.locate (trimmed p) = .ok loc ∧ s.get? loc = none ∧
      t = s.set loc .folder := by
  rw [makeFolder] at h
  split at h
  · cases h
  · rename_i hsize
    obtain ⟨loc, hloc, hset⟩ := exists_of_bind_eq_ok h
    split at hset <;> cases hset
    exact ⟨loc, Nat.le_of_not_lt hsize, hloc, ‹_›, rfl⟩

theorem hasFolder_iff_of_locate {loc : Location} (h : s.locate p = .ok loc) :
    s.hasFolder p = true ↔ s.get? loc = some .folder := by
  rw [hasFolder, find, h]
  simp only [bind, Except.bind]
  rcases s.get? loc with _ | (_ | _) <;>
    simp [pure, Except.pure, throw, throwThe, MonadExceptOf.throw]

theorem makeFolder_of_locate (hkeep : trimmed p = p) {loc : Location} (h : s.locate p = .ok loc) :
    s.makeFolder p =
      match s.get? loc with
      | some _ => .error .taken
      | none => .ok (s.set loc .folder) := by
  have hsize : ¬pathLimit < p.length := Nat.not_lt.mpr (locate_eq_ok_iff.mp h).2.1
  rw [makeFolder, if_neg hsize, hkeep, h]
  simp only [bind, Except.bind, pure, Except.pure]
  cases s.get? loc <;> rfl

theorem makeFolder_of_error (hkeep : trimmed p = p) {fault : AccessFault}
    (h : s.locate p = .error fault) :
    s.makeFolder p = .error (if pathLimit < p.length then .nameTooLong else fault) := by
  rw [makeFolder]
  split
  · rfl
  · rw [hkeep, h]
    rfl

end Store

open Store (KeepsFolders)

namespace FileOp

theorem keepsFolders_settle {s : Store} {r : Except AccessFault Store}
    (h : ∀ t, r = .ok t → KeepsFolders s t) : KeepsFolders s (settle s r).2 := by
  cases r with
  | error fault => exact KeepsFolders.refl s
  | ok t => exact h t rfl

theorem keepsFolders_perform (op : FileOp) (s : Store) : KeepsFolders s (op.perform s).2 := by
  cases op with
  | makeFolder p =>
      refine keepsFolders_settle fun t h => ?_
      obtain ⟨loc, -, hloc, hfree, rfl⟩ := Store.makeFolder_eq_ok h
      exact Store.keepsFolders_set (Store.dropLast_of_locate hloc) (by simp [hfree]) _
  | write p text =>
      refine keepsFolders_settle fun t h => ?_
      obtain ⟨loc, hloc, hfree, rfl⟩ := Store.write_eq_ok h
      exact Store.keepsFolders_set (Store.dropLast_of_locate hloc) hfree _
  | hasEntry | hasFolder | read | list | search => exact KeepsFolders.refl s

end FileOp

theorem Script.keepsFolders_run {α : Type} (m : Script α) (s : Store) :
    KeepsFolders s (m.run s).store := by
  induction m generalizing s with
  | done a => exact KeepsFolders.refl s
  | file op next ih => exact (op.keepsFolders_perform s).trans (ih _ _)
  | log e next ih => exact ih s

/-! ### Making folders -/

namespace Store

variable {s t : Store} {p : Path} {d : Location}

/-- A separator at the end of a path makes no difference to the folder that it opens. -/
theorem opens_append_separator_iff (hne : p ≠ []) :
    s.Opens (p ++ [Path.separator]) d ↔ s.Opens p d := by
  have hstart : s.start (p ++ [Path.separator]) = s.start p := by
    rw [start, start, Path.isAbsolute_append hne]
  rw [Opens, Opens, hstart, Path.pieces_append_separator, List.foldlM_append]
  refine and_congr_left fun hfolder => ?_
  cases p.pieces.foldlM s.follow (s.start p) with
  | error fault => exact iff_of_false (by rintro ⟨⟩) (by rintro ⟨⟩)
  | ok l =>
      show [[]].foldlM s.follow l = .ok d ↔ _
      simp only [List.foldlM_cons, List.foldlM_nil, bind_pure]
      refine follow_empty_iff.trans ⟨fun h => congrArg _ h.1.symm, fun h => ?_⟩
      cases h
      exact ⟨rfl, hfolder⟩

theorem exists_trimmed_append (p : Path) :
    ∃ cs, p = trimmed p ++ cs ∧ ∀ c ∈ cs, c = Path.separator := by
  have hwhole := List.takeWhile_append_dropWhile (p := (· == Path.separator)) (l := p.reverse)
  rw [trimmed]
  cases hkept : p.reverse.dropWhile (· == Path.separator) with
  | nil => exact ⟨[], (List.append_nil p).symm, fun c hc => absurd hc List.not_mem_nil⟩
  | cons c kept =>
    refine ⟨(p.reverse.takeWhile (· == Path.separator)).reverse, ?_, fun c hc => ?_⟩
    · rw [hkept] at hwhole
      show p = (c :: kept).reverse ++ _
      rw [← List.reverse_append, hwhole, List.reverse_reverse]
    · have hall := List.all_takeWhile (p := (· == Path.separator)) (l := p.reverse)
      simpa using List.all_eq_true.mp hall c (List.mem_reverse.mp hc)

theorem trimmed_ne_empty (hne : p ≠ []) : trimmed p ≠ [] := by
  rw [trimmed]
  cases p.reverse.dropWhile (· == Path.separator) with
  | nil => exact hne
  | cons c kept => exact fun h => List.cons_ne_nil c kept (List.reverse_eq_nil_iff.mp h)

/-- What a separator at the end of a path does not change is the same without all of them. -/
theorem trimmed_iff {C : Path → Prop}
    (hC : ∀ q : Path, q ≠ [] → (C (q ++ [Path.separator]) ↔ C q)) (hne : p ≠ []) :
    C (trimmed p) ↔ C p := by
  obtain ⟨cs, hp, hcs⟩ := exists_trimmed_append p
  suffices happend : ∀ cs : OsText, (∀ c ∈ cs, c = Path.separator) →
      ∀ q : Path, q ≠ [] → (C (q ++ cs) ↔ C q) by
    have hwhole := happend cs hcs (trimmed p) (trimmed_ne_empty hne)
    rw [← hp] at hwhole
    exact hwhole.symm
  clear hp hcs
  intro cs
  induction cs with
  | nil =>
      intro _ q _
      rw [List.append_nil]
  | cons c cs ih =>
      intro hcs q hq
      have hlonger : q ++ [Path.separator] ≠ [] := by simp
      rw [hcs c List.mem_cons_self, List.append_cons,
        ih (fun e he => hcs e (List.mem_cons_of_mem c he)) _ hlonger, hC q hq]

theorem opens_trimmed_iff (hne : p ≠ []) : s.Opens (trimmed p) d ↔ s.Opens p d :=
  trimmed_iff (C := fun q => s.Opens q d) (fun _ => opens_append_separator_iff) hne

/-- What can be followed without the separators at the end can be with them, if there is a folder
and the path is not too long. -/
theorem hasFolder_of_trimmed (hsize : p.length ≤ pathLimit)
    (h : s.locate (trimmed p) = .ok d) (hd : s.get? d = some .folder) : s.hasFolder p = true := by
  obtain ⟨hnull, -, hne, -⟩ := locate_eq_ok_iff.mp h
  obtain ⟨cs, hp, hcs⟩ := exists_trimmed_append p
  have hp' : p ≠ [] := by
    rintro rfl
    exact hne rfl
  obtain ⟨hpieces, -⟩ := (opens_trimmed_iff hp').mp (opens_of_locate h hd)
  have hnull' : p.contains 0 = false := by
    rw [hp]
    simp only [List.contains_eq_mem, decide_eq_false_iff_not, List.mem_append, not_or] at hnull ⊢
    exact ⟨hnull, fun hmem => absurd (hcs _ hmem) (by decide)⟩
  exact (hasFolder_iff_of_locate
    (locate_eq_ok_iff.mpr ⟨hnull', hsize, hp', hpieces⟩)).mpr hd

theorem hasFolder_of_makeFolder (h : s.makeFolder p = .ok t) : t.hasFolder p = true := by
  obtain ⟨loc, hsize, hloc, hfree, rfl⟩ := makeFolder_eq_ok h
  have hparent := dropLast_of_locate hloc
  have hnot : s.get? loc ≠ some .folder := by simp [hfree]
  refine hasFolder_of_trimmed hsize ((keepsFolders_set hparent hnot .folder).locate hloc) ?_
  rw [get?_set hparent hnot, if_pos rfl]

theorem makeFolder_of_hasFolder (h : s.hasFolder p = true) : s.makeFolder p = .error .taken := by
  obtain ⟨d, hloc, hopens⟩ := opens_of_hasFolder h
  obtain ⟨hnull, hsize, hne, -⟩ := locate_eq_ok_iff.mp hloc
  obtain ⟨hpieces, hfolder⟩ := (opens_trimmed_iff hne).mpr hopens
  obtain ⟨cs, hp, -⟩ := exists_trimmed_append p
  have hsub : (trimmed p).Sublist p := by
    have hfirst := List.sublist_append_left (trimmed p) cs
    rwa [← hp] at hfirst
  have htrimmed : s.locate (trimmed p) = .ok d := by
    refine locate_eq_ok_iff.mpr
      ⟨?_, Nat.le_trans hsub.length_le hsize, trimmed_ne_empty hne, hpieces⟩
    simp only [List.contains_eq_mem, decide_eq_false_iff_not] at hnull ⊢
    exact fun hmem => hnull (hsub.subset hmem)
  rw [makeFolder, if_neg (Nat.not_lt.mpr hsize), htrimmed]
  simp only [bind, Except.bind, hfolder]
  rfl

end Store

namespace Script

variable {p : Path} {s : Store}

theorem run_unlessFolder (p : Path) (fault : AccessFault) (s : Store) :
    ((makeFoldersFrom.unlessFolder p fault).run s).store = s ∧
      (((makeFoldersFrom.unlessFolder p fault).run s).result = .ok () → s.hasFolder p = true) := by
  rw [makeFoldersFrom.unlessFolder]
  split
  · refine ⟨rfl, fun h => ?_⟩
    have hresult : (if s.hasFolder p then Except.ok () else .error fault) = .ok () := h
    split at hresult
    · assumption
    · cases hresult
  · exact ⟨rfl, nofun⟩

theorem run_unlessFolder_of_hasFolder (h : s.hasFolder p = true) :
    ((makeFoldersFrom.unlessFolder p .taken).run s).result = .ok () ∧
      ((makeFoldersFrom.unlessFolder p .taken).run s).store = s := by
  have hresult : (if s.hasFolder p then Except.ok () else .error AccessFault.taken) = .ok () :=
    if_pos h
  rw [makeFoldersFrom.unlessFolder, if_pos rfl]
  exact ⟨hresult, rfl⟩

theorem hasFolder_of_unlessFolder {fault : AccessFault}
    (h : ((makeFoldersFrom.unlessFolder p fault).run s).result = .ok ()) :
    ((makeFoldersFrom.unlessFolder p fault).run s).store.hasFolder p = true := by
  obtain ⟨hstore, hfolder⟩ := run_unlessFolder p fault s
  rw [hstore]
  exact hfolder h

theorem hasFolder_of_last
    (h : ((file (.makeFolder p) fun
      | .ok () => done (.ok ())
      | .error fault => makeFoldersFrom.unlessFolder p fault).run s).result = .ok ()) :
    ((file (.makeFolder p) fun
      | .ok () => done (.ok ())
      | .error fault => makeFoldersFrom.unlessFolder p fault).run s).store.hasFolder p = true := by
  rw [run] at h ⊢
  have hperform : (FileOp.makeFolder p).perform s = FileOp.settle s (s.makeFolder p) := rfl
  cases hmake : s.makeFolder p with
  | ok t =>
      rw [hperform, hmake]
      exact Store.hasFolder_of_makeFolder hmake
  | error fault =>
      rw [hperform, hmake] at h ⊢
      exact hasFolder_of_unlessFolder h

theorem hasFolder_of_makeFoldersFrom {above : List Path}
    (h : ((makeFoldersFrom (p :: above)).run s).result = .ok ()) :
    ((makeFoldersFrom (p :: above)).run s).store.hasFolder p = true := by
  rw [makeFoldersFrom, run] at h ⊢
  have hperform : (FileOp.makeFolder p).perform s = FileOp.settle s (s.makeFolder p) := rfl
  cases hmake : s.makeFolder p with
  | ok t =>
      rw [hperform, hmake]
      exact Store.hasFolder_of_makeFolder hmake
  | error fault =>
      rw [hperform, hmake] at h ⊢
      cases fault with
      | notFound =>
          simp only [FileOp.settle, result_bind, store_bind] at h ⊢
          cases habove : ((makeFoldersFrom above).run s).result with
          | error fault =>
              rw [habove] at h
              cases h
          | ok _ =>
              rw [habove] at h
              exact hasFolder_of_last h
      | taken | notFolder | isFolder | notText | nameTooLong | nameWithNull =>
          exact hasFolder_of_unlessFolder h

/-- Making the folders of a path ends with a folder at the path, unless it leads nowhere. -/
theorem hasFolder_of_makeFolders (h : yields (makeFolders p) s = .ok ()) :
    p.ancestors = [] ∨ (leaves (makeFolders p) s).hasFolder p = true := by
  have hrun : (makeFolders p).run = makeFoldersFrom p.ancestors := rfl
  rw [yields, hrun] at h
  rw [leaves, hrun]
  rw [Path.ancestors] at h ⊢
  split at h
  · exact .inl rfl
  · exact .inr (hasFolder_of_makeFoldersFrom h)

theorem makeFolders_of_there (h : p.ancestors = [] ∨ s.hasFolder p = true) :
    yields (makeFolders p) s = .ok () ∧ leaves (makeFolders p) s = s := by
  have hrun : (makeFolders p).run = makeFoldersFrom p.ancestors := rfl
  rw [yields, leaves, hrun]
  rcases h with h | h
  · rw [h]
    exact ⟨rfl, rfl⟩
  · have hperform : (FileOp.makeFolder p).perform s = (.error .taken, s) := by
      show FileOp.settle s (s.makeFolder p) = _
      rw [Store.makeFolder_of_hasFolder h]
      rfl
    rw [Path.ancestors]
    split
    · exact ⟨rfl, rfl⟩
    · rw [makeFoldersFrom, run, hperform]
      exact run_unlessFolder_of_hasFolder h

end Script

/-! ### Paths without folders on the way -/

namespace Path

theorem ofPiece?_of_above_eq_nil : ∀ {reversed : List OsText}, above reversed = [] →
    ∀ piece ∈ reversed, Step.ofPiece? piece = none
  | [], _ => nofun
  | piece :: before, h => by
      rw [above] at h
      split at h
      · rename_i hskip
        intro other hother
        rcases List.mem_cons.mp hother with rfl | hother
        · rw [Step.ofPiece?, if_pos (hskip.imp_right And.left)]
        · exact ofPiece?_of_above_eq_nil h other hother
      · cases h

theorem ofPiece?_of_ancestors_eq_nil {p : Path} (h : p.ancestors = []) :
    ∀ piece ∈ p.pieces, Step.ofPiece? piece = none := by
  rw [ancestors] at h
  split at h
  · rename_i habove
    exact fun piece hpiece => ofPiece?_of_above_eq_nil habove piece (List.mem_reverse.mpr hpiece)
  · cases h

end Path

/-- Such a path opens the folder in which it starts. -/
theorem Store.opens_start {s : Store} {p : Path} (h : p.ancestors = []) :
    s.Opens p (s.start p) :=
  ⟨foldlM_of_ofPiece?_eq_none (Path.ofPiece?_of_ancestors_eq_nil h) (s.get?_start p),
    s.get?_start p⟩

end StructuralGrading
