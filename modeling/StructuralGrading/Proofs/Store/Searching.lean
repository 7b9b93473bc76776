import StructuralGrading.Proofs.Script.Folders
import StructuralGrading.Proofs.Store.Descending
import StructuralGrading.Proofs.Store.Literal

/-! # Searching in a folder

A search goes from the top or from the working folder along the pieces of its pattern.  If these are
the pieces on the way into a folder, and each stands for itself, then the search comes to that
folder.  There it finds what the last piece of the pattern says, in the folder or at any depth below
it.

* `Path.IsPlain`: paths that a pattern can start with, and still mean the folder;
* `Store.Reaches`: where a search is after some of the pieces;
* `Reaches.join`, `expand_reaches`: one piece, and then all of them;
* `Store.search_plain`: where a search comes to;
* `Store.mem_found_iff`, `Store.expand_ending`: what it finds there by an ending. -/

namespace StructuralGrading

open Pattern (only anyWith)

namespace Path

variable {p q : Path} {name : OsText} {ps : List OsText}

/-! ### Pieces on the way -/

theorem spell_trail_sublist (p : Path) : (spell p.trail).Sublist (separator :: p) := by
  rw [← spell_pieces]
  rcases p.pieces_eq_trail with heq | heq
  · rw [heq]
  · rw [heq, spell, spell, List.flatMap_append]
    exact List.sublist_append_left _ _

theorem join_sublist (p : Path) (h : separator ∉ name) :
    (p.join name).Sublist (p ++ separator :: name) := by
  rcases join_cases p h with ⟨rfl, hjoin⟩ | ⟨q, rfl, hjoin⟩ | ⟨-, -, hjoin⟩
  · rw [hjoin]
    exact List.sublist_cons_self _ _
  · rw [hjoin, List.append_assoc]
    exact (List.sublist_cons_self _ _).append_left _
  · rw [hjoin]

theorem foldl_join_sublist (hps : ∀ piece ∈ ps, separator ∉ piece) :
    ∀ p : Path, (ps.foldl join p).Sublist (p ++ spell ps) := by
  induction ps with
  | nil => simp [spell]
  | cons piece ps ih =>
      intro p
      have hrest := ih (fun other h => hps other (List.mem_cons_of_mem piece h)) (p.join piece)
      have hfirst := (join_sublist p (hps piece List.mem_cons_self)).append_right (spell ps)
      rw [List.foldl_cons, spell_cons]
      refine hrest.trans ?_
      rwa [List.append_assoc, List.cons_append] at hfirst

theorem sublist_foldl_join (hps : ∀ piece ∈ ps, separator ∉ piece) :
    ∀ p : Path, p.Sublist (ps.foldl join p) := by
  induction ps with
  | nil => exact fun p => .refl p
  | cons piece ps ih =>
      intro p
      exact (sublist_join p (hps piece List.mem_cons_self)).trans
        (ih (fun other h => hps other (List.mem_cons_of_mem piece h)) _)

/-! ### Plain paths -/

/-- Whether a path means the same at the start of a pattern: it is a text without characters that
stand for others and, unless it starts at the top, without an empty piece before its first name. -/
def IsPlain (p : Path) : Prop :=
  p.IsLiteral ∧ (p.isAbsolute = true ∨ (p.trail.dropWhile (· = [dot])).head? ≠ some [])

instance (p : Path) : Decidable p.IsPlain := inferInstanceAs (Decidable (_ ∧ _))

/-- The path of pieces from the first that is no dot on. -/
def ofTrail (ps : List OsText) : Path :=
  match ps.dropWhile (· = [dot]) with
  | [] => [dot]
  | first :: rest => rest.foldl join first

/-- The path of a folder as a search along a plain path speaks of it: its pieces joined one by one,
without the dots in front. -/
def plainly (p : Path) : Path :=
  if p.isAbsolute then p.trail.tail.foldl join [separator] else ofTrail p.trail

theorem not_mem_of_mem_trail {piece : OsText} (h : piece ∈ p.trail) : separator ∉ piece :=
  not_mem_of_mem_pieces (mem_of_mem_trail h)

theorem trail_of_isAbsolute (h : p.isAbsolute = true) : p.trail = [] :: p.trail.tail := by
  obtain ⟨rest, rfl⟩ := List.head?_eq_some_iff.mp (beq_iff_eq.mp h)
  have hpieces : pieces (separator :: rest) = [] :: pieces rest := by
    rw [pieces, List.splitOn_cons_eq_if_modifyHead]
    rfl
  have hne : pieces rest ≠ [] := List.splitOn_ne_nil separator rest
  rw [trail, hpieces, List.getLast?_cons_of_ne_nil hne]
  split
  · rw [List.dropLast_cons_of_ne_nil hne, List.tail_cons]
  · rfl

/-- Joined from the top, the pieces of a path from the top are no longer than the path. -/
theorem foldl_join_tail_sublist (h : p.isAbsolute = true) :
    (p.trail.tail.foldl join [separator]).Sublist p := by
  have hspell := p.spell_trail_sublist
  have hseps : ∀ piece ∈ p.trail.tail, separator ∉ piece :=
    fun piece h => not_mem_of_mem_trail (List.mem_of_mem_tail h)
  rw [trail_of_isAbsolute h, spell_cons, List.nil_append, List.cons_sublist_cons] at hspell
  cases hrest : p.trail.tail with
  | nil =>
      obtain ⟨rest, rfl⟩ := List.head?_eq_some_iff.mp (beq_iff_eq.mp h)
      exact List.cons_sublist_cons.mpr (List.nil_sublist _)
  | cons first rest =>
      rw [hrest] at hspell hseps
      have hjoin : join [separator] first = separator :: first := by
        rw [join, isAbsolute_of_not_mem (hseps first List.mem_cons_self)]
        rfl
      rw [List.foldl_cons, hjoin]
      rw [spell_cons] at hspell
      exact (foldl_join_sublist (fun piece h => hseps piece (List.mem_cons_of_mem first h)) _).trans
        hspell

theorem foldl_join_dropWhile_sublist {first : OsText} {rest : List OsText}
    (h : p.trail.dropWhile (· = [dot]) = first :: rest) : (rest.foldl join first).Sublist p := by
  obtain ⟨dots, hdots⟩ := List.dropWhile_suffix (l := p.trail) (· = [dot])
  rw [h] at hdots
  have hseps : ∀ piece ∈ rest, separator ∉ piece := fun piece hpiece =>
    not_mem_of_mem_trail (hdots ▸ List.mem_append_right dots (List.mem_cons_of_mem first hpiece))
  have hspell := p.spell_trail_sublist
  rw [← hdots, spell, List.flatMap_append] at hspell
  have hrest : (spell (first :: rest)).Sublist (separator :: p) :=
    (List.sublist_append_right _ _).trans hspell
  rw [spell_cons, List.cons_sublist_cons] at hrest
  exact (foldl_join_sublist hseps first).trans hrest

/-- The pieces of a literal path are the texts that are shown for them. -/
theorem ofText_texts (h : p.IsLiteral) :
    p.texts.map OsText.ofText = if p.isAbsolute then p.trail.tail else p.trail := by
  obtain ⟨text, rfl, -⟩ := h
  have hpieces : ∀ piece ∈ trail (.ofText text), OsText.ofText piece.shown = piece := by
    by_cases hne : text = ""
    · subst hne
      exact nofun
    · obtain ⟨front, -, -, -, htrail⟩ := exists_opening hne
      rw [htrail]
      refine List.forall_mem_map.mpr fun cs _ => ?_
      rw [OsText.shown_ofText]
  rw [texts]
  split
  · exact OsText.map_ofText_shown fun piece h => hpieces piece (List.mem_of_mem_tail h)
  · exact OsText.map_ofText_shown hpieces

end Path

namespace Store

variable {s : Store} {root p q : Path} {l d : Location} {piece : OsText} {text : String}
  {ps : List OsText} {texts : List String}

/-! ### Along the pieces of a path -/

theorem folder_of_foldlM (h : ps.foldlM s.follow l = .ok d) (hd : s.get? d = some .folder) :
    s.get? l = some .folder := by
  cases ps with
  | nil =>
      cases h
      exact hd
  | cons piece ps =>
      rw [List.foldlM_cons] at h
      obtain ⟨next, hstep, -⟩ := exists_of_bind_eq_ok h
      exact folder_of_follow hstep

theorem search_eq (s : Store) (absolute : Bool) (components : List Pattern.Component) :
    s.search ⟨absolute, components, false⟩ =
      s.expand components (if absolute then [Path.separator] else [Path.dot]) := by
  rw [search]
  simp

theorem expand_only (s : Store) (text : String) (rest : List Pattern.Component) (p : Path) :
    s.expand (only text :: rest) p =
      if (if text = "." ∨ text = ".." then s.hasFolder p else
          s.hasEntry (pathIn p (.ofText text))) then
        s.expand rest (pathIn p (.ofText text))
      else [] := by
  rw [only, expand, Pattern.literal?_literal, String.ofList_toList]

theorem expand_only_of_folder (text : String) (hp : s.hasFolder p = true)
    (hnext : s.hasFolder (pathIn p (.ofText text)) = true) (rest : List Pattern.Component) :
    s.expand (only text :: rest) p = s.expand rest (pathIn p (.ofText text)) := by
  have hthere : s.hasEntry (pathIn p (.ofText text)) = true := by
    obtain ⟨l, hloc, hopens⟩ := opens_of_hasFolder hnext
    rw [hasEntry, find_eq_ok_iff.mpr ⟨l, hloc, hopens.2⟩]
    rfl
  rw [expand_only, hp, hthere]
  simp

/-- Whether a search for what is in a folder can be at a path: it leads to a location, it is not the
working folder by its dot, and together with the pieces that are left it is no longer than the path
of the folder. -/
structure Reaches (s : Store) (root q : Path) (l : Location) (ps : List OsText) : Prop where
  route : ∃ step ∈ q.route.head?, step ≠ .here
  follows : q.pieces.foldlM s.follow (s.start q) = .ok l
  separated : ∀ piece ∈ ps, Path.separator ∉ piece
  fits : (ps.foldl Path.join q).Sublist root

namespace Reaches

theorem ne_empty (h : s.Reaches root q l ps) : q ≠ [] := by
  rintro rfl
  obtain ⟨step, hstep, -⟩ := h.route
  have hroute : Path.route [] = [] := by decide +kernel
  rw [hroute] at hstep
  cases hstep

theorem isHere (h : s.Reaches root q l ps) : q.isHere = false := by
  obtain ⟨step, hstep, hne⟩ := h.route
  rw [Path.isHere, beq_eq_false_iff_ne]
  intro hroute
  rw [hroute] at hstep
  cases hstep
  exact hne rfl

theorem locate (h : s.Reaches root q l ps) (hroot : s.locate root = .ok d) :
    s.locate q = .ok l := by
  obtain ⟨hnull, hsize, -⟩ := locate_eq_ok_iff.mp hroot
  have hsub : q.Sublist root := (Path.sublist_foldl_join h.separated q).trans h.fits
  refine locate_eq_ok_iff.mpr ⟨?_, hsub.length_le.trans hsize, h.ne_empty, h.follows⟩
  simp only [List.contains_eq_mem, decide_eq_false_iff_not] at hnull ⊢
  exact fun hmem => hnull (hsub.subset hmem)

theorem hasFolder (h : s.Reaches root q l ps) (hroot : s.locate root = .ok d)
    (hl : s.get? l = some .folder) : s.hasFolder q = true :=
  (hasFolder_iff_of_locate (h.locate hroot)).mpr hl

theorem join (h : s.Reaches root q l (piece :: ps)) {next : Location}
    (hstep : s.follow l piece = .ok next) : s.Reaches root (q.join piece) next ps := by
  have hpiece : Path.separator ∉ piece := h.separated piece List.mem_cons_self
  refine ⟨?_, ?_, fun other hother => h.separated other (List.mem_cons_of_mem piece hother), h.fits⟩
  · obtain ⟨step, hhead, hne⟩ := h.route
    refine ⟨step, ?_, hne⟩
    rw [Path.route_join h.ne_empty hpiece, List.head?_append, hhead]
    rfl
  · rw [s.start_join q hpiece, foldlM_join s q hpiece, h.follows]
    exact hstep

end Reaches

theorem expand_reaches (hroot : s.locate root = .ok d) (hd : s.get? d = some .folder) :
    ∀ {texts : List String} {q : Path} {l : Location},
      s.Reaches root q l (texts.map .ofText) → (texts.map .ofText).foldlM s.follow l = .ok d →
      s.Reaches root ((texts.map .ofText).foldl Path.join q) d [] ∧
        ∀ rest, s.expand (texts.map only ++ rest) q =
          s.expand rest ((texts.map .ofText).foldl Path.join q) := by
  intro texts
  induction texts with
  | nil =>
      intro q l hq hfold
      cases hfold
      exact ⟨hq, fun _ => rfl⟩
  | cons text texts ih =>
      intro q l hq hfold
      have hl := folder_of_foldlM hfold hd
      rw [List.map_cons, List.foldlM_cons] at hfold
      obtain ⟨next, hstep, hfold⟩ := exists_of_bind_eq_ok hfold
      have hnext := hq.join hstep
      have hpath : pathIn q (.ofText text) = q.join (.ofText text) := by
        rw [pathIn, hq.isHere, if_neg Bool.false_ne_true]
      obtain ⟨hreach, hrest⟩ := ih hnext hfold
      refine ⟨hreach, fun rest => (?_ : _ = _).trans (hrest rest)⟩
      rw [← hpath]
      refine expand_only_of_folder text (hq.hasFolder hroot hl) ?_ _
      rw [hpath]
      exact hnext.hasFolder hroot (folder_of_foldlM hfold hd)

/-! ### From the working folder -/

theorem locate_here (s : Store) : s.locate [Path.dot] = .ok s.working := by
  have hpieces : Path.pieces [Path.dot] = [[Path.dot]] := Path.pieces_of_not_mem (by decide)
  refine locate_eq_ok_iff.mpr ⟨by decide, by decide, by simp, ?_⟩
  have hstart : s.start [Path.dot] = s.working := rfl
  rw [hpieces, hstart]
  exact foldlM_of_ofPiece?_eq_none (List.forall_mem_singleton.mpr (by decide)) s.working_folder

theorem hasFolder_here (s : Store) : s.hasFolder [Path.dot] = true :=
  (hasFolder_iff_of_locate s.locate_here).mpr s.working_folder

theorem expand_only_here (hnext : s.hasFolder (.ofText text) = true)
    (rest : List Pattern.Component) :
    s.expand (only text :: rest) [Path.dot] = s.expand rest (.ofText text) := by
  have hgo := expand_only_of_folder text s.hasFolder_here ((pathIn_here _).symm ▸ hnext) rest
  rwa [pathIn_here] at hgo

/-- The first piece that leads on is where a search leaves the working folder. -/
theorem reaches_first (hsep : ∀ other ∈ piece :: ps, Path.separator ∉ other) (hempty : piece ≠ [])
    (hdot : piece ≠ [Path.dot]) (hfits : (ps.foldl Path.join piece).Sublist root)
    (hstep : s.follow s.working piece = .ok l) : s.Reaches root piece l ps := by
  have hpiece : Path.separator ∉ piece := hsep piece List.mem_cons_self
  have hrelative := Path.isAbsolute_of_not_mem hpiece
  have hsteps : ∃ step, Path.Step.ofPiece? piece = some step ∧ step ≠ .here := by
    rw [Path.Step.ofPiece?, if_neg (not_or.mpr ⟨hempty, hdot⟩)]
    split <;> exact ⟨_, rfl, by simp⟩
  refine ⟨?_, ?_, fun other h => hsep other (List.mem_cons_of_mem piece h), hfits⟩
  · obtain ⟨step, hstep, hne⟩ := hsteps
    refine ⟨step, ?_, hne⟩
    rw [Path.route, hrelative, Path.pieces_of_not_mem hpiece, if_neg Bool.false_ne_true,
      if_neg (by simpa using hdot), List.nil_append, List.filterMap_cons, hstep]
    rfl
  · rw [Path.pieces_of_not_mem hpiece, start, hrelative, if_neg Bool.false_ne_true,
      List.foldlM_cons, hstep]
    rfl

/-- A search for what is in a folder comes to the folder along all its pieces, if the first that is
no dot is not empty. -/
theorem expand_trail (hroot : s.locate root = .ok d) (hd : s.get? d = some .folder) :
    ∀ {texts : List String} {ps : List OsText}, texts.map OsText.ofText = ps →
      ps.foldlM s.follow s.working = .ok d → (∀ piece ∈ ps, Path.separator ∉ piece) →
      (ps.dropWhile (· = [Path.dot])).head? ≠ some [] →
      (∀ first rest, ps.dropWhile (· = [Path.dot]) = first :: rest →
        (rest.foldl Path.join first).Sublist root) →
      Path.ofTrail ps ≠ [] ∧ s.locate (Path.ofTrail ps) = .ok d ∧
        ∀ rest, s.expand (texts.map only ++ rest) [Path.dot] = s.expand rest (Path.ofTrail ps) := by
  intro texts
  induction texts with
  | nil =>
      rintro _ rfl hfold _ _ _
      cases hfold
      exact ⟨by decide, s.locate_here, fun _ => rfl⟩
  | cons text texts ih =>
      rintro _ rfl hfold hsep hfirst hfits
      rw [List.map_cons] at hfold hsep hfirst hfits ⊢
      have hseps : ∀ other ∈ texts.map OsText.ofText, Path.separator ∉ other :=
        fun other h => hsep other (List.mem_cons_of_mem _ h)
      by_cases hdot : OsText.ofText text = [Path.dot]
      · have hdrop : ∀ ps : List OsText, (OsText.ofText text :: ps).dropWhile (· = [Path.dot]) =
            ps.dropWhile (· = [Path.dot]) :=
          fun ps => List.dropWhile_cons_of_pos (by simpa using hdot)
        have hsame : Path.ofTrail (OsText.ofText text :: texts.map .ofText) =
            Path.ofTrail (texts.map .ofText) := by
          rw [Path.ofTrail, hdrop, Path.ofTrail]
        have hstep : Path.Step.ofPiece? (OsText.ofText text) = none := by
          rw [hdot]
          decide
        rw [hdrop] at hfirst hfits
        rw [List.foldlM_cons, follow_of_ofPiece?_eq_none hstep s.working_folder] at hfold
        obtain ⟨hne, hq, hrest⟩ := ih rfl hfold hseps hfirst hfits
        have hhere : s.hasFolder (OsText.ofText text) = true := hdot ▸ s.hasFolder_here
        rw [hsame]
        refine ⟨hne, hq, fun rest => ?_⟩
        rw [List.map_cons, List.cons_append, expand_only_here hhere, hdot, hrest]
      · have hdrop := List.dropWhile_cons_of_neg (l := texts.map OsText.ofText)
          (p := fun piece => decide (piece = [Path.dot])) (by simpa using hdot)
        rw [hdrop] at hfirst hfits
        rw [List.foldlM_cons] at hfold
        obtain ⟨next, hstep, hfold⟩ := exists_of_bind_eq_ok hfold
        have hempty : OsText.ofText text ≠ [] := fun h => hfirst (by rw [h]; rfl)
        have hreach := reaches_first hsep hempty hdot (hfits _ _ rfl) hstep
        obtain ⟨hq, hrest⟩ := expand_reaches hroot hd hreach hfold
        have hnext := hreach.hasFolder hroot (folder_of_foldlM hfold hd)
        rw [Path.ofTrail, hdrop]
        exact ⟨hq.ne_empty, hq.locate hroot,
          fun rest => (expand_only_here hnext _).trans (hrest rest)⟩

theorem foldlM_trail (hroot : s.locate root = .ok d) :
    root.trail.foldlM s.follow (s.start root) = .ok d := by
  have hpieces := (locate_eq_ok_iff.mp hroot).2.2.2
  rcases root.pieces_eq_trail with heq | heq
  · rwa [← heq]
  · rw [heq, List.foldlM_append] at hpieces
    obtain ⟨l, htrail, hlast⟩ := exists_of_bind_eq_ok hpieces
    simp only [List.foldlM_cons, List.foldlM_nil, bind_pure] at hlast
    rw [htrail, (follow_empty_iff.mp hlast).1]

/-- A search that starts at the top comes to a folder along its pieces. -/
theorem expand_top (hliteral : root.IsLiteral) (habsolute : root.isAbsolute = true)
    (hroot : s.locate root = .ok d) (hd : s.get? d = some .folder) :
    root.plainly ≠ [] ∧ s.locate root.plainly = .ok d ∧
      ∀ rest, s.expand (root.texts.map only ++ rest) [Path.separator] =
        s.expand rest root.plainly := by
  have htexts : root.texts.map OsText.ofText = root.trail.tail := by
    rw [Path.ofText_texts hliteral, if_pos habsolute]
  have hfold := foldlM_trail hroot
  have hstart : s.start root = [] := by rw [start, if_pos habsolute]
  have hopen : s.follow [] [] = .ok [] := rfl
  rw [Path.trail_of_isAbsolute habsolute, hstart, List.foldlM_cons, hopen] at hfold
  have hfirst : s.Reaches root [Path.separator] [] (root.texts.map .ofText) := by
    refine ⟨⟨.top, by decide +kernel, by decide⟩, rfl, ?_, ?_⟩
    · rw [htexts]
      exact fun piece h => Path.not_mem_of_mem_trail (List.mem_of_mem_tail h)
    · rw [htexts]
      exact Path.foldl_join_tail_sublist habsolute
  obtain ⟨hq, hrest⟩ := expand_reaches hroot hd hfirst (htexts ▸ hfold)
  rw [Path.plainly, if_pos habsolute, ← htexts]
  exact ⟨hq.ne_empty, hq.locate hroot, hrest⟩

/-- **Where a search comes to.** If the path of a folder is plain then a search along its pieces
comes to the folder and goes on from there. -/
theorem search_plain (hplain : root.IsPlain) (hroot : s.locate root = .ok d)
    (hd : s.get? d = some .folder) :
    root.plainly ≠ [] ∧ s.locate root.plainly = .ok d ∧ ∀ rest,
      s.search ⟨root.isAbsolute, root.texts.map only ++ rest, false⟩ =
        s.expand rest root.plainly := by
  cases habsolute : root.isAbsolute with
  | true =>
      obtain ⟨hne, hq, hexpand⟩ := expand_top hplain.1 habsolute hroot hd
      exact ⟨hne, hq, fun rest => (search_eq s _ _).trans (hexpand rest)⟩
  | false =>
      have htexts : root.texts.map OsText.ofText = root.trail := by
        rw [Path.ofText_texts hplain.1, habsolute]
        rfl
      have hstart : s.start root = s.working := by
        rw [start, habsolute, if_neg Bool.false_ne_true]
      have hfirst : (root.trail.dropWhile (· = [Path.dot])).head? ≠ some [] :=
        hplain.2.resolve_left (by rw [habsolute]; exact Bool.false_ne_true)
      obtain ⟨hne, hq, hexpand⟩ := expand_trail hroot hd htexts (hstart ▸ foldlM_trail hroot)
        (fun piece => Path.not_mem_of_mem_trail) hfirst
        fun first rest => Path.foldl_join_dropWhile_sublist
      rw [Path.plainly, habsolute, if_neg Bool.false_ne_true]
      exact ⟨hne, hq, fun rest => (search_eq s _ _).trans (hexpand rest)⟩

/-- The empty path is of no use, so a search from the working folder ends at an empty piece before
the first name. -/
theorem search_eq_nil (hliteral : root.IsLiteral) (hplain : ¬root.IsPlain)
    (rest : List Pattern.Component) :
    s.search ⟨root.isAbsolute, root.texts.map only ++ rest, false⟩ = [] := by
  have hexpand : ∀ {texts : List String} {ps : List OsText}, texts.map OsText.ofText = ps →
      (ps.dropWhile (· = [Path.dot])).head? = some [] →
      s.expand (texts.map only ++ rest) [Path.dot] = [] := by
    intro texts
    induction texts with
    | nil =>
        rintro _ rfl h
        cases h
    | cons text texts ih =>
        rintro _ rfl h
        rw [List.map_cons] at h
        rw [List.map_cons, List.cons_append, expand_only, pathIn_here]
        by_cases hdot : OsText.ofText text = [Path.dot]
        · rw [List.dropWhile_cons_of_pos (by simpa using hdot)] at h
          rw [hdot, ih rfl h, ite_self]
        · rw [List.dropWhile_cons_of_neg (by simpa using hdot)] at h
          have hempty : OsText.ofText text = [] := Option.some.inj h
          obtain rfl : text = "" := OsText.ofText_injective hempty
          rfl
  obtain ⟨hrelative, hfirst⟩ : ¬root.isAbsolute = true ∧
      (root.trail.dropWhile (· = [Path.dot])).head? = some [] := by
    have hnot : ¬(root.isAbsolute = true ∨ _) := fun h => hplain ⟨hliteral, h⟩
    rw [not_or, ne_eq, not_not] at hnot
    exact hnot
  have htexts : root.texts.map OsText.ofText = root.trail := by
    rw [Path.ofText_texts hliteral, if_neg hrelative]
  rw [search_eq, if_neg hrelative, hexpand htexts hfirst]

/-! ### In the folder -/

/-- Those of several names that are texts with an ending. -/
def endingWith (ending : String) (names : List OsText) : List OsText :=
  names.filter (Pattern.Token.matchName (anyWith ending.toList))

theorem matchName_ending_iff {ending : String} {name : OsText} :
    Pattern.Token.matchName (anyWith ending.toList) name = true ↔
      ∃ t : String, name = .ofText (t ++ ending) := by
  rw [Pattern.Token.matchName]
  cases htext : name.text? with
  | none =>
      simp only [Bool.false_eq_true, false_iff]
      rintro ⟨t, rfl⟩
      rw [OsText.text?_ofText] at htext
      cases htext
  | some text =>
      obtain rfl := OsText.text?_eq_some_iff.mp htext
      simp only [Pattern.matchAll_ending_iff]
      constructor
      · rintro ⟨cs, hcs⟩
        refine ⟨String.ofList cs, congrArg _ (String.toList_injective ?_)⟩
        rw [String.toList_append, String.toList_ofList, hcs]
      · rintro ⟨t, ht⟩
        rw [OsText.ofText_injective ht, String.toList_append]
        exact List.suffix_append _ _

theorem mem_endingWith_iff {ending : String} {name : OsText} {names : List OsText} :
    name ∈ endingWith ending names ↔
      name ∈ names ∧ ∃ t : String, name = .ofText (t ++ ending) := by
  rw [endingWith, List.mem_filter, matchName_ending_iff]

/-- In whatever order a folder lists its names, a search goes through them in order. -/
theorem pathsIn_of_locate (hq : s.locate q = .ok d) (hd : s.get? d = some .folder) :
    s.pathsIn q = (s.names d).map fun name => (name, pathIn q name) := by
  rw [pathsIn, list_of_locate hq hd]
  simp only [Sorted.sort_eq_of_perm (s.listing.perm d _) (s.pairwise_names d)]

theorem expand_name (hq : s.locate q = .ok d) (hd : s.get? d = some .folder) (ending : String) :
    s.expand [.name (anyWith ending.toList)] q =
      (endingWith ending (s.names d)).map (pathIn q) := by
  have hopen : Pattern.Token.literal? (anyWith ending.toList) = none := by
    simp [Pattern.Token.literal?, anyWith, List.mapM_cons]
  have hhead : (anyWith ending.toList).head? ≠ some (.char '.') := by simp [anyWith]
  rw [expand, hopen, (hasFolder_iff_of_locate hq).mpr hd, pathsIn_of_locate hq hd]
  simp only [if_neg hhead, if_pos, List.map_nil, List.nil_append, List.filter_map, List.map_map,
    Function.comp_def, expand, List.flatMap_singleton', endingWith]

/-! ### Below the folder -/

/-- Whether something below a folder has a text with an ending as its name. -/
def EndsBelow (s : Store) (d : Location) (ending : String) (rest : Location) : Prop :=
  (s.get? (d ++ rest)).isSome = true ∧
    ∃ t : String, rest.getLast? = some (OsText.ofText (t ++ ending))

theorem EndsBelow.ne_nil {ending : String} {rest : Location} (h : s.EndsBelow d ending rest) :
    rest ≠ [] := by
  rintro rfl
  obtain ⟨-, t, hlast⟩ := h
  cases hlast

/-- Whether the folder that something lies in can be looked into on the way from a path. -/
def WithinLimit (q : Path) (rest : Location) : Prop :=
  (descend q rest.dropLast).length ≤ pathLimit

instance (q : Path) (rest : Location) : Decidable (WithinLimit q rest) :=
  inferInstanceAs (Decidable (_ ≤ _))

theorem withinLimit_singleton (hq : s.locate q = .ok d) (name : OsText) : WithinLimit q [name] := by
  have hsize := (locate_eq_ok_iff.mp hq).2.1
  show (if q.isHere then [] else q).length ≤ pathLimit
  split
  · exact Nat.zero_le _
  · exact hsize

theorem matchesLast_iff {ending : String} {rest : Location} :
    matchesLast (.name (anyWith ending.toList)) rest = true ↔
      ∃ t : String, rest.getLast? = some (OsText.ofText (t ++ ending)) := by
  unfold matchesLast
  cases rest.getLast? with
  | none => simp
  | some name => simp only [matchName_ending_iff, Option.some.injEq]

/-- The ways from a folder to what has an ending: by one name, or by any number of them if pieces
for folders stand before the ending. -/
def found (s : Store) (q : Path) (d : Location) (ending : String) : Nat → List Location
  | 0 => (endingWith ending (s.names d)).map ([·])
  | _ + 1 => (s.locations d).filter fun rest =>
      matchesLast (.name (anyWith ending.toList)) rest && decide (WithinLimit q rest)

theorem mem_found_iff (hq : s.locate q = .ok d) {ending : String} {n : Nat} {rest : Location} :
    rest ∈ s.found q d ending n ↔
      s.EndsBelow d ending rest ∧ (n = 0 → rest.length = 1) ∧ WithinLimit q rest := by
  cases n with
  | zero =>
      simp only [found, List.mem_map, mem_endingWith_iff, mem_names_iff, List.length_eq_one_iff,
        forall_const]
      constructor
      · rintro ⟨name, ⟨hsome, t, rfl⟩, rfl⟩
        exact ⟨⟨hsome, t, rfl⟩, ⟨_, rfl⟩, withinLimit_singleton hq _⟩
      · rintro ⟨⟨hsome, t, hlast⟩, ⟨name, rfl⟩, -⟩
        exact ⟨name, ⟨hsome, t, Option.some.inj hlast⟩, rfl⟩
  | succ n =>
      rw [found, List.mem_filter, mem_locations_iff, Bool.and_eq_true, decide_eq_true_eq,
        matchesLast_iff]
      constructor
      · rintro ⟨⟨-, hsome⟩, hlast, hlimit⟩
        exact ⟨⟨hsome, hlast⟩, nofun, hlimit⟩
      · rintro ⟨hends, -, hlimit⟩
        exact ⟨⟨hends.ne_nil, hends.1⟩, hends.2, hlimit⟩

theorem pairwise_found (s : Store) (q : Path) (d : Location) (ending : String) (n : Nat) :
    (s.found q d ending n).Pairwise (compare · · = .lt) := by
  cases n with
  | zero => exact pairwise_singletons ((s.pairwise_names d).filter _)
  | succ n => exact (s.pairwise_locations d).filter _

theorem expand_ending (hq : s.locate q = .ok d) (hd : s.get? d = some .folder) (ending : String)
    (n : Nat) : s.expand (Pattern.between n ++ [.name (anyWith ending.toList)]) q =
      (s.found q d ending n).map (descend q) := by
  cases n with
  | zero =>
      rw [Pattern.between, List.nil_append, expand_name hq hd, found, List.map_map]
      exact List.map_congr_left fun name _ => (descend_singleton q name).symm
  | succ n =>
      have hbelow : s.pathsBelow q = ((s.locations d).filter fun rest =>
          decide (WithinLimit q rest)).map fun rest => (rest, descend q rest) := by
        rw [← List.filterMap_eq_map, List.filterMap_filter, pathsBelow, hq]
        simp only [decide_eq_true_eq]
        rfl
      have hsingle : ∀ found : List Location,
          found.flatMap (fun rest => [descend q rest]) = found.map (descend q) :=
        fun _ => List.map_eq_flatMap.symm
      simp only [Pattern.between, List.singleton_append, expand, hbelow, List.filter_map,
        List.filter_filter, List.flatMap_map, Function.comp_def, hsingle, found]

end Store

end StructuralGrading
