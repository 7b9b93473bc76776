import StructuralGrading.Proofs.Batch.Preparation

/-! # What is made with folders

Making a folder and those on the way to it changes no file and takes nothing away.  All that is new
are folders where the paths on the way lead as they are written, and if the path never goes up then
these are on the way to where it leads itself.

* `Script.Makes`: whether all that a script changes is to make folders at some paths;
* `Store.AddsFolders`, `Script.Makes.addsFolders`: what comes of that;
* `Store.AddsFolders.get?_file_iff`, `Store.AddsFolders.named`: files and names;
* `Store.place_prefix_of_mem_ancestors`: folders on the way to a path. -/

namespace StructuralGrading

open Script (yields leaves)

/-! ### Scripts that only make folders -/

/-- Whether all that an operation changes is to make a folder at one of certain paths. -/
def FileOp.Makes (P : Path → Prop) : FileOp → Prop
  | makeFolder p => P p
  | write _ _ => False
  | hasEntry _ | hasFolder _ | read _ | list _ | search _ => True

namespace Script

variable {α β : Type} {P Q : Path → Prop}

/-- Whether all that a script changes is to make folders at certain paths. -/
def Makes (P : Path → Prop) : Script α → Prop
  | done _ => True
  | file op next => op.Makes P ∧ ∀ answer, (next answer).Makes P
  | log _ next => next.Makes P

namespace Makes

theorem bind {m : Script α} {f : α → Script β} (hm : m.Makes P) (hf : ∀ a, (f a).Makes P) :
    (m.bind f).Makes P := by
  induction m with
  | done a => exact hf a
  | file op next ih => exact ⟨hm.1, fun answer => ih answer (hm.2 answer)⟩
  | log e next ih => exact ih hm

theorem mono {m : Script α} (h : ∀ p, P p → Q p) (hm : m.Makes P) : m.Makes Q := by
  induction m with
  | done a => trivial
  | file op next ih =>
      refine ⟨?_, fun answer => ih answer (hm.2 answer)⟩
      cases op with
      | makeFolder p => exact h p hm.1
      | write p text => exact hm.1
      | hasEntry | hasFolder | read | list | search => trivial
  | log e next ih => exact ih hm

end Makes

theorem makes_unlessFolder (p : Path) (fault : AccessFault) :
    (makeFoldersFrom.unlessFolder p fault).Makes P := by
  rw [makeFoldersFrom.unlessFolder]
  split
  · exact ⟨trivial, fun _ => trivial⟩
  · trivial

theorem makes_makeFoldersFrom : ∀ ps : List Path, (makeFoldersFrom ps).Makes (· ∈ ps)
  | [] => trivial
  | p :: above => by
      have hp : p ∈ p :: above := List.mem_cons_self
      refine ⟨hp, fun answer => ?_⟩
      cases answer with
      | ok _ => trivial
      | error fault =>
          cases fault with
          | notFound =>
              have hrest := makes_makeFoldersFrom above
              refine (hrest.mono fun q => List.mem_cons_of_mem p).bind fun r => ?_
              cases r with
              | error fault => trivial
              | ok _ =>
                  refine ⟨hp, fun answer => ?_⟩
                  cases answer with
                  | ok _ => trivial
                  | error fault => exact makes_unlessFolder p fault
          | taken | notFolder | isFolder | notText | nameTooLong | nameWithNull =>
              exact makes_unlessFolder p _

end Script

/-! ### New folders -/

namespace Store

variable {P : Path → Prop} {s t u : Store} {p : Path} {d l : Location}

/-- Whether a store is another with some more folders, all of them where certain paths lead. -/
structure AddsFolders (P : Path → Prop) (s t : Store) : Prop where
  keeps : KeepsFolders s t
  same_or_new : ∀ loc, t.get? loc = s.get? loc ∨
    s.get? loc = none ∧ t.get? loc = some .folder ∧ ∃ p, P p ∧ s.place (trimmed p) = loc

namespace AddsFolders

theorem refl (s : Store) : AddsFolders P s s := ⟨KeepsFolders.refl s, fun _ => .inl rfl⟩

theorem trans (hst : AddsFolders P s t) (htu : AddsFolders P t u) : AddsFolders P s u := by
  refine ⟨hst.keeps.trans htu.keeps, fun loc => ?_⟩
  rcases hst.same_or_new loc with hsame | ⟨hnone, hfolder, hp⟩ <;>
    rcases htu.same_or_new loc with hsame' | ⟨hnone', hfolder', p, hp', hplace⟩
  · exact .inl (hsame'.trans hsame)
  · exact .inr ⟨hsame.symm.trans hnone', hfolder', p, hp', (hst.keeps.place _).symm.trans hplace⟩
  · exact .inr ⟨hnone, hsame'.trans hfolder, hp⟩
  · exact .inr ⟨hnone, hfolder', hp⟩

/-- No file is made, changed or taken away. -/
theorem get?_file_iff (h : AddsFolders P s t) {loc : Location} {content : ByteArray} :
    t.get? loc = some (.file content) ↔ s.get? loc = some (.file content) := by
  rcases h.same_or_new loc with hsame | ⟨hnone, hfolder, -⟩
  · rw [hsame]
  · rw [hnone, hfolder]
    exact ⟨nofun, nofun⟩

end AddsFolders

end Store

open Store (AddsFolders)

theorem FileOp.addsFolders_perform {P : Path → Prop} {op : FileOp} (h : op.Makes P) (s : Store) :
    AddsFolders P s (op.perform s).2 := by
  cases op with
  | makeFolder p =>
      have hperform : (FileOp.makeFolder p).perform s = settle s (s.makeFolder p) := rfl
      rw [hperform]
      cases hmake : s.makeFolder p with
      | error fault => exact AddsFolders.refl s
      | ok t =>
          obtain ⟨loc, -, hloc, hfree, rfl⟩ := Store.makeFolder_eq_ok hmake
          have hparent := Store.dropLast_of_locate hloc
          have hnot : s.get? loc ≠ some .folder := by simp [hfree]
          refine ⟨Store.keepsFolders_set hparent hnot _, fun l => ?_⟩
          have hget := Store.get?_set hparent hnot .folder l
          show (s.set loc .folder).get? l = s.get? l ∨ _
          rw [hget]
          split
          · rename_i hl
            refine .inr ⟨hl ▸ hfree, hget.trans (if_pos hl), p, h, ?_⟩
            rw [hl, Store.place_of_locate hloc]
          · exact .inl rfl
  | write p text => exact h.elim
  | hasEntry | hasFolder | read | list | search => exact AddsFolders.refl s

theorem Script.Makes.addsFolders {α : Type} {P : Path → Prop} {m : Script α} (hm : m.Makes P)
    (s : Store) : AddsFolders P s (m.run s).store := by
  induction m generalizing s with
  | done a => exact AddsFolders.refl s
  | file op next ih => exact (FileOp.addsFolders_perform hm.1 s).trans (ih _ (hm.2 _) _)
  | log e next ih => exact ih hm s

/-- Making folders adds them where the paths on the way lead. -/
theorem Script.addsFolders_makeFolders (p : Path) (s : Store) :
    AddsFolders (· ∈ p.ancestors) s (leaves (makeFolders p) s) :=
  (makes_makeFoldersFrom p.ancestors).addsFolders s

/-! ### Names of new folders -/

namespace Path

variable {piece : OsText} {loc : Location}

theorem eq_of_ofPiece? {name : OsText} (h : Step.ofPiece? piece = some (.name name)) :
    name = piece := by
  rw [Step.ofPiece?] at h
  split at h
  · cases h
  · split at h
    · cases h
    · cases h
      rfl

/-- A piece leads to a name of its own, or to one from before. -/
theorem isName_of_climb (hpiece : separator ∉ piece) (hloc : ∀ name ∈ loc, IsName name) :
    ∀ name ∈ climb loc piece, IsName name := by
  rw [climb]
  split
  · rename_i name hname
    obtain rfl := eq_of_ofPiece? hname
    intro other hother
    rcases List.mem_append.mp hother with hother | hother
    · exact hloc other hother
    · rw [List.mem_singleton.mp hother]
      exact ⟨hpiece, hname⟩
  · exact fun other hother => hloc other (List.mem_of_mem_dropLast hother)
  · exact hloc

theorem isName_of_foldl {ps : List OsText} (hps : ∀ piece ∈ ps, separator ∉ piece) :
    ∀ {loc : Location}, (∀ name ∈ loc, IsName name) →
      ∀ name ∈ ps.foldl climb loc, IsName name := by
  induction ps with
  | nil => exact fun hloc => hloc
  | cons piece ps ih =>
      intro loc hloc
      have hnames := isName_of_climb (hps piece List.mem_cons_self) hloc
      exact ih (fun other ho => hps other (List.mem_cons_of_mem piece ho)) hnames

end Path

namespace Store

variable {s t : Store}

/-- Where a path leads, every name is one of its pieces, or one on the way to the working folder. -/
theorem Named.isName_of_place (hs : s.Named) (p : Path) : ∀ name ∈ s.place p, Path.IsName name :=
  Path.isName_of_foldl (fun _ => Path.not_mem_of_mem_pieces)
    (Store.named_iff.mp hs _ _ (s.get?_start p))

theorem AddsFolders.named {P : Path → Prop} (h : AddsFolders P s t) (hs : s.Named) : t.Named := by
  rw [Store.named_iff]
  intro loc e he
  rcases h.same_or_new loc with hsame | ⟨-, -, p, -, rfl⟩
  · exact Store.named_iff.mp hs loc e (hsame.symm.trans he)
  · exact hs.isName_of_place _

end Store

/-! ### Folders on the way -/

namespace Path

variable {p q : Path} {ps : List OsText}

theorem ofPiece?_of_ne {piece : OsText} (h : piece ≠ [dot, dot]) :
    Step.ofPiece? piece = none ∨ Step.ofPiece? piece = some (.name piece) := by
  rw [Step.ofPiece?, if_neg h]
  split
  · exact .inl rfl
  · exact .inr rfl

theorem prefix_foldl_climb (hps : [dot, dot] ∉ ps) :
    ∀ loc : Location, loc <+: ps.foldl climb loc := by
  induction ps with
  | nil => exact fun loc => List.prefix_rfl
  | cons piece ps ih =>
      intro loc
      refine List.IsPrefix.trans ?_ (ih (fun hup => hps (List.mem_cons_of_mem piece hup)) _)
      have hpiece : piece ≠ [dot, dot] := fun hup => hps (hup ▸ List.mem_cons_self)
      rw [climb]
      rcases ofPiece?_of_ne hpiece with hstep | hstep
      · simp only [hstep]
        exact List.prefix_rfl
      · simp only [hstep]
        exact List.prefix_append _ _

/-- Folders on the way are reversed ends of the reversed pieces, and do not end in an empty one. -/
theorem suffix_of_mem_above {reversed : List OsText} : ∀ {pieces : List OsText},
    reversed ∈ above pieces → reversed <:+ pieces ∧ ∃ last rest, reversed = last :: rest ∧ last ≠ []
  | [], h => by cases h
  | piece :: before, h => by
      rw [above] at h
      split at h
      · obtain ⟨hsuffix, hlast⟩ := suffix_of_mem_above h
        exact ⟨hsuffix.trans (List.suffix_cons _ _), hlast⟩
      · rename_i hpiece
        rcases List.mem_cons.mp h with rfl | h
        · exact ⟨List.suffix_rfl, piece, before, rfl, (not_or.mp hpiece).1⟩
        · obtain ⟨hsuffix, hlast⟩ := suffix_of_mem_above h
          exact ⟨hsuffix.trans (List.suffix_cons _ _), hlast⟩

theorem pieces_ofPieces (hps : ∀ piece ∈ ps, separator ∉ piece) (hne : ps ≠ []) :
    (ofPieces ps).pieces = ps :=
  List.splitOn_intercalate separator hps hne

/-- A path on the way to another has the first of its pieces, and starts where it does. -/
theorem pieces_prefix_of_mem_ancestors (h : q ∈ p.ancestors) :
    q.pieces <+: p.pieces ∧ q.isAbsolute = p.isAbsolute := by
  rw [ancestors] at h
  split at h
  · cases h
  · rename_i first folders habove
    rcases List.mem_cons.mp h with rfl | h
    · exact ⟨List.prefix_rfl, rfl⟩
    · obtain ⟨reversed, hreversed, rfl⟩ := List.mem_map.mp h
      have hmem : reversed ∈ above p.pieces.reverse := by
        rw [habove]
        exact List.mem_cons_of_mem first hreversed
      obtain ⟨hsuffix, last, rest, rfl, hlast⟩ := suffix_of_mem_above hmem
      have hfirst : (last :: rest).reverse <+: p.pieces := by
        have hreverse := List.reverse_prefix.mpr hsuffix
        rwa [List.reverse_reverse] at hreverse
      have hpieces : (ofPieces (last :: rest).reverse).pieces = (last :: rest).reverse :=
        pieces_ofPieces (fun piece hpiece => not_mem_of_mem_pieces (hfirst.subset hpiece)) (by simp)
      refine ⟨hpieces.symm ▸ hfirst, ?_⟩
      have hne : ofPieces (last :: rest).reverse ≠ [] := by
        intro hempty
        rw [hempty, List.reverse_cons] at hpieces
        have hsingle := congrArg List.getLast? hpieces
        rw [List.getLast?_concat] at hsingle
        exact hlast (Option.some.inj hsingle).symm
      -- The pieces that are left out stand after those of the path on the way.
      obtain ⟨left, hleft⟩ := hfirst
      have hspell := p.spell_pieces
      rw [← hleft, ← hpieces, spell, List.flatMap_append] at hspell
      have hfront : spell (ofPieces (last :: rest).reverse).pieces = _ := spell_pieces _
      rw [spell] at hfront
      rw [hfront, List.cons_append, List.cons.injEq] at hspell
      rw [← hspell.2, isAbsolute_append hne]

end Path

namespace Store

variable {p q : Path}

theorem place_trimmed (s : Store) (p : Path) : s.place (trimmed p) = s.place p := by
  by_cases hp : p = []
  · subst hp
    rfl
  · refine (Store.trimmed_iff (C := fun q => s.place q = s.place p) (fun q hq => ?_) hp).mpr rfl
    rw [place, start, Path.isAbsolute_append hq, Path.pieces_append_separator, List.foldl_append]
    rfl

/-- If a path never goes up, then the paths on the way to it lead to where it is passed by. -/
theorem place_prefix_of_mem_ancestors (s : Store) (hup : [Path.dot, Path.dot] ∉ p.pieces)
    (hq : q ∈ p.ancestors) : s.place (trimmed q) <+: s.place p := by
  obtain ⟨⟨rest, hrest⟩, habsolute⟩ := Path.pieces_prefix_of_mem_ancestors hq
  rw [place_trimmed, place, place, start, start, habsolute, ← hrest, List.foldl_append]
  exact Path.prefix_foldl_climb (fun h => hup (hrest ▸ List.mem_append_right _ h)) _

end Store

end StructuralGrading
