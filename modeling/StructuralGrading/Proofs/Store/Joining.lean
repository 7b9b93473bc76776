import StructuralGrading.Proofs.Store.Access
import StructuralGrading.Proofs.Text.OsText
import StructuralGrading.Proofs.Text.Parts

/-! # Names in folders

A path that opens a folder can be joined with a name, and the new path leads to the place of that
name in the folder.  Whether it does so is a matter of the two as they are written, and no matter of
the store.

* `Path.IsName`: what can be the name of an entry;
* `Path.isName_shown`: what is shown of such a name can be the name of an entry, too;
* `Path.trail`: the pieces on the way into the folder of a path;
* `Store.Opens`: whether a path leads to a folder;
* `Store.Opens.locate_join`: where a joined path leads, if anywhere;
* `Store.Opens.locate_join_congr`: it leads to the same place in all stores. -/

namespace StructuralGrading

/-! ### Names -/

namespace Path

/-- Whether something can be the name of an entry: a single piece that leads to what it names. -/
def IsName (name : OsText) : Prop :=
  separator ∉ name ∧ Step.ofPiece? name = some (.name name)

instance : DecidablePred IsName := fun _ => inferInstanceAs (Decidable (_ ∧ _))

variable {p q : Path} {name : OsText}

/-- Everything without a separator is a name, but for what leads nowhere or up. -/
theorem isName_iff :
    IsName name ↔ separator ∉ name ∧ name ≠ [] ∧ name ≠ [dot] ∧ name ≠ [dot, dot] := by
  unfold IsName Step.ofPiece?
  split
  · rename_i h
    simp only [reduceCtorEq, and_false, false_iff]
    rintro ⟨-, hempty, hdot, -⟩
    rcases h with h | h
    · exact hempty h
    · exact hdot h
  · rename_i h
    obtain ⟨hempty, hdot⟩ := not_or.mp h
    split <;> simp_all

theorem IsName.ne_empty (h : IsName name) : name ≠ [] := (isName_iff.mp h).2.1

theorem separator_notMem_ofText {text : String} (h : '/' ∉ text.toList) :
    separator ∉ OsText.ofText text :=
  fun hmem => h ((OsText.byte_mem_ofText_iff (by decide)).mp hmem)

/-- What is shown of a name can be a name: something is shown, and it is a dot or two only if these
are the name. -/
theorem isName_shown (h : IsName name) : IsName (OsText.ofText name.shown) := by
  cases htext : name.text? with
  | some text =>
      rw [OsText.text?_eq_some_iff.mp htext] at h ⊢
      rwa [OsText.shown_ofText]
  | none =>
      have hmem := OsText.replacement_mem_shown htext
      have hne : ∀ text : String, '\uFFFD' ∉ text.toList →
          OsText.ofText name.shown ≠ OsText.ofText text := by
        intro text hnot heq
        rw [OsText.ofText_injective heq] at hmem
        exact hnot hmem
      refine isName_iff.mpr ⟨separator_notMem_ofText fun hsep => ?_, hne "" (by simp),
        hne "." (by decide), hne ".." (by decide)⟩
      exact h.1 (OsText.byte_mem_of_mem_shown (by decide) hsep)

theorem isName_append {ending : OsText} (hname : separator ∉ name) (hending : separator ∉ ending)
    (hlength : 2 < ending.length) : IsName (name ++ ending) := by
  have hne : ∀ short : OsText, short.length ≤ 2 → name ++ ending ≠ short := by
    rintro short hshort rfl
    rw [List.length_append] at hshort
    omega
  exact isName_iff.mpr ⟨by simp [hname, hending], hne [] (by simp), hne [dot] (by simp),
    hne [dot, dot] (by simp)⟩

theorem isName_ofText_append {text ending : String} (htext : '/' ∉ text.toList)
    (hending : separator ∉ OsText.ofText ending) (hlength : 2 < ending.utf8ByteSize) :
    IsName (OsText.ofText (text ++ ending)) := by
  rw [OsText.ofText_append]
  rw [← OsText.length_ofText] at hlength
  exact isName_append (separator_notMem_ofText htext) hending hlength

/-! ### Joined paths -/

theorem not_mem_of_mem_pieces {piece : OsText} (h : piece ∈ p.pieces) : separator ∉ piece :=
  Text.not_mem_of_mem_splitOn h

theorem pieces_of_not_mem (h : separator ∉ name) : pieces name = [name] :=
  List.splitOn_eq_singleton h

theorem pieces_append (p q : Path) : pieces (p ++ separator :: q) = pieces p ++ pieces q :=
  List.splitOn_append_cons_self p q

theorem pieces_append_separator (p : Path) : pieces (p ++ [separator]) = p.pieces ++ [[]] :=
  pieces_append p []

theorem isAbsolute_of_not_mem (h : separator ∉ name) : isAbsolute name = false := by
  rw [isAbsolute]
  cases name with
  | nil => rfl
  | cons c cs =>
      have hc : c ≠ separator := fun hc => h (by rw [hc]; exact List.mem_cons_self)
      simpa using hc

/-- The three ways in which a path is joined with a name: to nothing, after a separator that is
there, and after one that is put where there is none. -/
theorem join_cases (p : Path) (h : separator ∉ name) :
    (p = [] ∧ p.join name = name) ∨
      (∃ q : Path, p = q ++ [separator] ∧ p.join name = q ++ separator :: name) ∨
      (p ≠ [] ∧ p.getLast? ≠ some separator ∧ p.join name = p ++ separator :: name) := by
  have hstart := isAbsolute_of_not_mem h
  rw [join, hstart, Bool.false_or]
  by_cases hempty : p = []
  · subst hempty
    exact .inl ⟨rfl, rfl⟩
  · have hne : ¬(p.isEmpty = true) := by simpa using hempty
    rw [if_neg hne]
    by_cases hlast : p.getLast? = some separator
    · rw [if_pos hlast]
      obtain ⟨q, rfl⟩ := List.getLast?_eq_some_iff.mp hlast
      exact .inr (.inl ⟨q, rfl, by simp⟩)
    · rw [if_neg hlast]
      exact .inr (.inr ⟨hempty, hlast, rfl⟩)

theorem isAbsolute_append (hne : p ≠ []) (q : Path) : isAbsolute (p ++ q) = p.isAbsolute := by
  cases p with
  | nil => exact absurd rfl hne
  | cons c cs => rfl

theorem isAbsolute_join (p : Path) (h : separator ∉ name) :
    (p.join name).isAbsolute = p.isAbsolute := by
  rcases join_cases p h with ⟨rfl, hjoin⟩ | ⟨q, rfl, hjoin⟩ | ⟨hne, -, hjoin⟩
  · rw [hjoin, isAbsolute_of_not_mem h]
    rfl
  · rw [hjoin, isAbsolute, isAbsolute]
    cases q <;> rfl
  · rw [hjoin, isAbsolute_append hne]

theorem exists_join_eq (p : Path) (h : separator ∉ name) :
    ∃ before, p.join name = before ++ name ∧ ∀ c ∈ before, c ∈ p ∨ c = separator := by
  rcases join_cases p h with ⟨rfl, hjoin⟩ | ⟨q, rfl, hjoin⟩ | ⟨-, -, hjoin⟩
  · exact ⟨[], hjoin, nofun⟩
  · exact ⟨q ++ [separator], by simp [hjoin], fun c hc => .inl hc⟩
  · refine ⟨p ++ [separator], by simp [hjoin], fun c hc => ?_⟩
    rw [List.mem_append] at hc
    exact hc.imp_right List.mem_singleton.mp

theorem sublist_join (p : Path) (h : separator ∉ name) : p.Sublist (p.join name) := by
  rcases join_cases p h with ⟨rfl, hjoin⟩ | ⟨q, rfl, hjoin⟩ | ⟨-, -, hjoin⟩
  · exact List.nil_sublist _
  · rw [hjoin, List.append_cons q separator name]
    exact List.sublist_append_left _ _
  · rw [hjoin]
    exact List.sublist_append_left _ _

theorem join_ne_empty (p : Path) (h : IsName name) : p.join name ≠ [] := by
  obtain ⟨before, hbefore, -⟩ := exists_join_eq p h.1
  intro hempty
  rw [hempty] at hbefore
  exact h.ne_empty (List.append_eq_nil_iff.mp hbefore.symm).2

/-- What pieces look like, each after a separator. -/
def spell (ps : List OsText) : OsText := ps.flatMap (separator :: ·)

theorem spell_cons (piece : OsText) (ps : List OsText) :
    spell (piece :: ps) = separator :: (piece ++ spell ps) := rfl

/-- A path looks like its pieces, but has no separator in front. -/
theorem spell_pieces (p : Path) : spell p.pieces = separator :: p := by
  have hparts : ∀ parts : List OsText, parts ≠ [] →
      spell parts = separator :: [separator].intercalate parts := by
    intro parts
    induction parts with
    | nil => exact fun h => absurd rfl h
    | cons first parts ih =>
        intro _
        rw [spell_cons]
        cases parts with
        | nil => simp [spell]
        | cons second parts =>
            rw [ih (List.cons_ne_nil _ _), List.intercalate_cons_cons]
            simp
  rw [pieces, hparts _ (List.splitOn_ne_nil _ _), List.intercalate_splitOn]

/-- The pieces of a path without the empty one that stands after a separator at its end. -/
def trail (p : Path) : List OsText :=
  if p.pieces.getLast? = some [] then p.pieces.dropLast else p.pieces

theorem pieces_eq_trail (p : Path) : p.pieces = p.trail ∨ p.pieces = p.trail ++ [[]] := by
  rw [trail]
  split
  · rename_i hlast
    exact .inr (List.dropLast_append_getLast? [] hlast).symm
  · exact .inl rfl

theorem mem_of_mem_trail {piece : OsText} (h : piece ∈ p.trail) : piece ∈ p.pieces := by
  rcases p.pieces_eq_trail with heq | heq <;> simp [heq, h]

/-- The last part of a list is empty only if the list is, or if it ends with the separator. -/
theorem of_getLast?_splitOn {c : UInt8} : ∀ {cs : OsText},
    (cs.splitOn c).getLast? = some [] → cs = [] ∨ cs.getLast? = some c
  | [], _ => .inl rfl
  | a :: cs, h => by
      have hrest : (cs.splitOn c).getLast? = some [] → a = c ∨ cs ≠ [] →
          (a :: cs).getLast? = some c := by
        intro hlast hac
        rcases of_getLast?_splitOn hlast with rfl | hcs
        · simpa using hac
        · rw [List.getLast?_cons, hcs]
          rfl
      have hne := List.splitOn_ne_nil c cs
      rw [List.splitOn_cons_eq_if_modifyHead] at h
      split at h
      · rename_i hac
        rw [List.getLast?_cons_of_ne_nil hne] at h
        exact .inr (hrest h (.inl (by simpa using hac)))
      · cases hsplit : cs.splitOn c with
        | nil => exact absurd hsplit hne
        | cons first parts =>
            rw [hsplit, List.modifyHead_cons] at h
            cases parts with
            | nil => simp at h
            | cons second parts =>
                refine .inr (hrest (hsplit ▸ h) (.inr ?_))
                rintro rfl
                simp at hsplit

theorem pieces_join (p : Path) (h : separator ∉ name) :
    (p.join name).pieces = p.trail ++ [name] := by
  rw [trail]
  rcases join_cases p h with ⟨rfl, hjoin⟩ | ⟨q, rfl, hjoin⟩ | ⟨hne, hlast, hjoin⟩
  · rw [hjoin, pieces_of_not_mem h]
    rfl
  · rw [hjoin, pieces_append, pieces_append_separator, pieces_of_not_mem h, if_pos (by simp),
      List.dropLast_concat]
  · have hpiece : p.pieces.getLast? ≠ some [] := fun hnil =>
      (of_getLast?_splitOn hnil).elim hne hlast
    rw [hjoin, if_neg hpiece, pieces_append, pieces_of_not_mem h]

theorem trail_ne_nil (h : p ≠ []) : p.trail ≠ [] := by
  intro htrail
  rcases p.pieces_eq_trail with heq | heq
  · exact List.splitOn_ne_nil separator p (heq.trans htrail)
  · have hjoined : [separator].intercalate p.pieces = p := List.intercalate_splitOn separator
    rw [heq, htrail] at hjoined
    exact h hjoined.symm

theorem ancestors_join (p : Path) (h : IsName name) :
    ∃ further, (p.join name).ancestors = p.join name :: further := by
  have hpiece : ¬(name = [] ∨ name = [dot] ∧ p.trail.reverse ≠ []) := by
    rintro (rfl | ⟨rfl, -⟩)
    · exact h.ne_empty rfl
    · cases h.2
  rw [ancestors, pieces_join p h.1, List.reverse_append, List.reverse_singleton,
    List.singleton_append, above, if_neg hpiece]
  exact ⟨_, rfl⟩

theorem trimmed_join (p : Path) (h : IsName name) : Store.trimmed (p.join name) = p.join name := by
  obtain ⟨before, hbefore, -⟩ := exists_join_eq p h.1
  rw [Store.trimmed]
  cases hrev : name.reverse with
  | nil => exact absurd (List.reverse_eq_nil_iff.mp hrev) h.ne_empty
  | cons c rest =>
      have hc : c ≠ separator := by
        rintro rfl
        exact h.1 (List.mem_reverse.mp (hrev ▸ List.mem_cons_self))
      have hkeep : (p.join name).reverse.dropWhile (· == separator) =
          c :: (rest ++ before.reverse) := by
        rw [hbefore, List.reverse_append, hrev, List.cons_append,
          List.dropWhile_cons_of_neg (by simpa using hc)]
      have hwhole : (p.join name).reverse = c :: (rest ++ before.reverse) := by
        rw [hbefore, List.reverse_append, hrev, List.cons_append]
      rw [hkeep]
      show (c :: (rest ++ before.reverse)).reverse = _
      rw [← hwhole, List.reverse_reverse]

end Path

/-! ### Routes of joined paths -/

namespace Path

variable {p : Path} {name : OsText} {rest : Location}

theorem route_join (hne : p ≠ []) (h : separator ∉ name) :
    (p.join name).route = p.route ++ (Step.ofPiece? name).toList := by
  have hhead : (p.trail ++ [name]).head? = p.pieces.head? := by
    obtain ⟨first, rest, htrail⟩ := List.exists_cons_of_ne_nil (trail_ne_nil hne)
    rcases p.pieces_eq_trail with heq | heq <;> simp [heq, htrail]
  have hsteps : p.trail.filterMap Step.ofPiece? = p.pieces.filterMap Step.ofPiece? := by
    rcases p.pieces_eq_trail with heq | heq
    · rw [heq]
    · rw [heq, List.filterMap_append]
      simp [Step.ofPiece?]
  rw [route, route, pieces_join p h, isAbsolute_join p h, hhead, List.filterMap_append, hsteps,
    List.append_assoc]
  cases hstep : Step.ofPiece? name <;> simp [hstep]

theorem route_of_isName (h : IsName name) : route name = [.name name] := by
  have hdot : name ≠ [dot] := (isName_iff.mp h).2.2.1
  rw [route, isAbsolute_of_not_mem h.1, pieces_of_not_mem h.1]
  simp [hdot, h.2]

theorem fileName?_join (hne : p ≠ []) (h : IsName name) : (p.join name).fileName? = some name := by
  rw [fileName?, route_join hne h.1, h.2, Option.toList_some, List.getLast?_concat]

theorem route_foldl_join (hnames : ∀ n ∈ rest, IsName n) (hne : p ≠ []) :
    (rest.foldl join p).route = p.route ++ rest.map .name := by
  induction rest generalizing p with
  | nil => rw [List.foldl_nil, List.map_nil, List.append_nil]
  | cons n rest ih =>
      have hn := hnames n List.mem_cons_self
      have hrest : ∀ m ∈ rest, IsName m := fun m hm => hnames m (List.mem_cons_of_mem n hm)
      rw [List.foldl_cons, ih hrest (join_ne_empty p hn), route_join hne hn.1, hn.2]
      simp

end Path

/-! ### Folders that paths open -/

namespace Store

variable {s t : Store} {p : Path} {loc l d : Location} {name : OsText}

theorem start_join (s : Store) (p : Path) (h : Path.separator ∉ name) :
    s.start (p.join name) = s.start p := by
  rw [start, start, Path.isAbsolute_join p h]

theorem place_join (s : Store) (p : Path) (h : Path.IsName name) :
    s.place (p.join name) = s.place p ++ [name] := by
  have htrail : p.trail.foldl Path.climb (s.start p) = s.place p := by
    rw [place]
    rcases p.pieces_eq_trail with heq | heq
    · rw [heq]
    · rw [heq, List.foldl_append]
      rfl
  rw [place, s.start_join p h.1, Path.pieces_join p h.1, List.foldl_append, htrail]
  show Path.climb (s.place p) name = _
  rw [Path.climb, h.2]

theorem place_foldl_join (s : Store) {rest : Location} (hnames : ∀ n ∈ rest, Path.IsName n) :
    ∀ p : Path, s.place (rest.foldl Path.join p) = s.place p ++ rest := by
  induction rest with
  | nil => simp
  | cons n rest ih =>
      intro p
      rw [List.foldl_cons, ih fun m hm => hnames m (List.mem_cons_of_mem n hm),
        s.place_join p (hnames n List.mem_cons_self)]
      simp

theorem follow_empty_iff : s.follow loc [] = .ok l ↔ l = loc ∧ s.get? loc = some .folder := by
  constructor
  · intro h
    exact ⟨(climb_of_follow h).symm, folder_of_follow h⟩
  · rintro ⟨rfl, hfolder⟩
    exact follow_of_ofPiece?_eq_none rfl hfolder

/-- An empty piece only asks for a folder, and so does every other piece. -/
theorem follow_blank (s : Store) (loc : Location) (piece : OsText) :
    (s.follow loc [] >>= fun l => s.follow l piece) = s.follow loc piece := by
  cases hloc : s.get? loc with
  | none =>
      rw [follow, follow, hloc]
      rfl
  | some e =>
      cases e with
      | file content =>
          rw [follow, follow, hloc]
          rfl
      | folder =>
          rw [follow_empty_iff.mpr ⟨rfl, hloc⟩]
          rfl

theorem foldlM_join (s : Store) (p : Path) (h : Path.separator ∉ name) (loc : Location) :
    (p.join name).pieces.foldlM s.follow loc =
      p.pieces.foldlM s.follow loc >>= fun l => s.follow l name := by
  rw [Path.pieces_join p h, List.foldlM_append]
  rcases p.pieces_eq_trail with heq | heq
  · rw [heq]
    simp only [List.foldlM_cons, List.foldlM_nil, bind_pure]
  · rw [heq, List.foldlM_append]
    cases p.trail.foldlM s.follow loc with
    | error fault => rfl
    | ok l =>
        have hblank := s.follow_blank l name
        show List.foldlM s.follow l [name] = List.foldlM s.follow l [[]] >>= _
        simp only [List.foldlM_cons, List.foldlM_nil, bind_pure]
        exact hblank.symm

/-- Whether a path leads to a folder at a location.  The path without anything leads to the working
folder. -/
def Opens (s : Store) (p : Path) (d : Location) : Prop :=
  p.pieces.foldlM s.follow (s.start p) = .ok d ∧ s.get? d = some .folder

namespace Opens

theorem place_eq (h : s.Opens p d) : s.place p = d := climb_of_foldlM h.1

theorem unique (h : s.Opens p d) (h' : s.Opens p l) : d = l :=
  Except.ok.inj (h.1.symm.trans h'.1)

theorem keep (hkeeps : KeepsFolders s t) (h : s.Opens p d) : t.Opens p d := by
  refine ⟨?_, hkeeps.folder d h.2⟩
  rw [hkeeps.start]
  exact hkeeps.foldlM h.1

end Opens

theorem opens_of_locate (h : s.locate p = .ok d) (hfolder : s.get? d = some .folder) :
    s.Opens p d :=
  ⟨(locate_eq_ok_iff.mp h).2.2.2, hfolder⟩

theorem opens_of_hasFolder (h : s.hasFolder p = true) : ∃ d, s.locate p = .ok d ∧ s.Opens p d := by
  rw [hasFolder] at h
  split at h
  · rename_i hfind
    obtain ⟨d, hloc, hfolder⟩ := find_eq_ok_iff.mp hfind
    exact ⟨d, hloc, opens_of_locate hloc hfolder⟩
  · cases h

/-- If a joined path leads anywhere, then the path opens a folder, and the name is in it. -/
theorem opens_of_locate_join (hname : Path.IsName name) (h : s.locate (p.join name) = .ok l) :
    ∃ d, s.Opens p d ∧ l = d ++ [name] := by
  obtain ⟨-, -, -, hpieces⟩ := locate_eq_ok_iff.mp h
  rw [s.start_join p hname.1, foldlM_join s p hname.1] at hpieces
  obtain ⟨d, hd, hfollow⟩ := exists_of_bind_eq_ok hpieces
  have hclimb := climb_of_follow hfollow
  rw [Path.climb, hname.2] at hclimb
  exact ⟨d, ⟨hd, folder_of_follow hfollow⟩, hclimb.symm⟩

/-- If a joined path leads anywhere then so does the path, unless it is the empty one. -/
theorem locate_of_locate_join (hname : Path.IsName name) (hne : p ≠ [])
    (h : s.locate (p.join name) = .ok l) : ∃ d, s.locate p = .ok d ∧ s.get? d = some .folder := by
  obtain ⟨hnull, hsize, -⟩ := locate_eq_ok_iff.mp h
  obtain ⟨d, hopens, -⟩ := opens_of_locate_join hname h
  have hsub := p.sublist_join hname.1
  refine ⟨d, locate_eq_ok_iff.mpr ⟨?_, Nat.le_trans hsub.length_le hsize, hne, hopens.1⟩, hopens.2⟩
  simp only [List.contains_eq_mem, decide_eq_false_iff_not] at hnull ⊢
  exact fun hmem => hnull (hsub.subset hmem)

namespace Opens

/-- The path joined with a name leads to the name in the folder, unless one of them is too long or
has a byte that no name can have. -/
theorem locate_join (h : s.Opens p d) (hname : Path.IsName name) :
    s.locate (p.join name) = .ok (d ++ [name]) ∨ s.locate (p.join name) = .error .nameTooLong ∨
      s.locate (p.join name) = .error .nameWithNull := by
  have hpieces :
      (p.join name).pieces.foldlM s.follow (s.start (p.join name)) = s.follow d name := by
    rw [s.start_join p hname.1, foldlM_join s p hname.1, h.1]
    rfl
  rw [locate, hpieces, follow, h.2, hname.2]
  by_cases hnull : (p.join name).contains 0 = true
  · exact .inr (.inr (if_pos hnull))
  · rw [if_neg hnull]
    by_cases hsize : pathLimit < (p.join name).length
    · exact .inr (.inl (if_pos hsize))
    · rw [if_neg hsize, if_neg (Path.join_ne_empty p hname)]
      by_cases hlong : nameLimit < name.length
      · exact .inr (.inl (if_pos hlong))
      · exact .inl (if_neg hlong)

theorem locate_join_congr (hs : s.Opens p d) (ht : t.Opens p d) (hname : Path.IsName name) :
    s.locate (p.join name) = t.locate (p.join name) := by
  have hsteps : (p.join name).pieces.foldlM s.follow (s.start (p.join name)) =
      (p.join name).pieces.foldlM t.follow (t.start (p.join name)) := by
    rw [s.start_join p hname.1, t.start_join p hname.1, foldlM_join s p hname.1,
      foldlM_join t p hname.1, hs.1, ht.1]
    exact follow_congr hs.2 ht.2
  rw [locate, locate, hsteps]

end Opens

end Store

end StructuralGrading
