import StructuralGrading.Proofs.Batch.Discovery

/-! # The depth of a search for files

A search for files is given a depth, which is meant to say how many folders below the root files are
still found.  Depth zero does mean the root alone.  From depth one on the pattern asks for any
number of folders, whatever the depth is, so files are found all the way down.

* `Store.EndsWithin`: what is meant to be found;
* `Store.found_meant_iff`: when this is what is found;
* `findFiles_found`: the main result;
* `findFiles_found_too_deep`: a file that is not meant to be found. -/

namespace StructuralGrading

namespace Store

variable {s : Store} {q : Path} {d : Location} {ending : String} {depth : Nat} {rest : Location}

/-- Whether something has a name with an ending, and lies in a folder or in one that is at most so
many folders below. -/
def EndsWithin (s : Store) (d : Location) (ending : String) (depth : Nat) (rest : Location) :
    Prop :=
  s.EndsBelow d ending rest ∧ rest.length ≤ depth + 1

instance : Decidable (s.EndsBelow d ending rest) :=
  decidable_of_iff ((s.get? (d ++ rest)).isSome = true ∧
    matchesLast (.name (Pattern.anyWith ending.toList)) rest = true)
    (and_congr_right fun _ => matchesLast_iff)

instance : Decidable (s.EndsWithin d ending depth rest) := inferInstanceAs (Decidable (_ ∧ _))

theorem EndsBelow.length_pos (h : s.EndsBelow d ending rest) : 0 < rest.length :=
  List.length_pos_iff.mpr h.ne_nil

/-- Without pieces for folders, what is found is what is meant. -/
theorem mem_found_zero_iff (hq : s.locate q = .ok d) :
    rest ∈ s.found q d ending 0 ↔ s.EndsWithin d ending 0 rest := by
  rw [mem_found_iff hq, EndsWithin]
  refine and_congr_right fun hends => ?_
  have hpos := hends.length_pos
  constructor
  · rintro ⟨hone, -⟩
    have hlength := hone rfl
    omega
  · intro hle
    have hlength : rest.length = 1 := by omega
    obtain ⟨name, rfl⟩ := List.length_eq_one_iff.mp hlength
    exact ⟨fun _ => rfl, withinLimit_singleton hq name⟩

/-- With such pieces, it is what is meant only if nothing lies deeper, apart from what cannot be
looked into. -/
theorem found_meant_iff (hq : s.locate q = .ok d) :
    (∀ rest, rest ∈ s.found q d ending depth ↔ s.EndsWithin d ending depth rest) ↔
      depth = 0 ∨ ∀ rest, s.EndsBelow d ending rest →
        (rest.length ≤ depth + 1 ↔ WithinLimit q rest) := by
  cases depth with
  | zero => exact iff_of_true (fun _ => mem_found_zero_iff hq) (.inl rfl)
  | succ n =>
      rw [or_iff_right n.succ_ne_zero]
      refine forall_congr' fun rest => ?_
      have hany : n + 1 = 0 → rest.length = 1 := nofun
      rw [mem_found_iff hq, EndsWithin, and_congr_right_iff, and_iff_right hany]
      exact imp_congr_right fun _ => Iff.comm

end Store

open Script (yields leaves)
open Store (descend WithinLimit)

variable {s : Store} {root : Path} {d : Location} {extension : String}

theorem Path.isLiteral_of_text? {text : String} (h : root.text? = some text)
    (hfree : ∀ c ∈ ['*', '?', '['], OsText.byte c ∉ root) : root.IsLiteral := by
  obtain rfl := OsText.text?_eq_some_iff.mp h
  have hascii : ∀ c ∈ ['*', '?', '['], OsText.IsAscii c := by
    rw [List.forall_mem_cons, List.forall_mem_cons, List.forall_mem_singleton]
    decide
  have hchars : ∀ c ∈ ['*', '?', '['], c ∉ text.toList := fun c hc hmem =>
    hfree c hc ((OsText.byte_mem_ofText_iff (hascii c hc)).mpr hmem)
  refine ⟨text, rfl, fun c hc => ⟨?_, ?_, ?_⟩⟩ <;>
  · rintro rfl
    exact hchars _ (by simp) hc

/-- **What a search for files finds.** Let the root be the path of a folder, and let no character
that stands for others be in it or in the extension.  The search changes nothing, and it fails if
the root is no text.  Otherwise it finds each path once, in order, and each leads from the root to
what it names.  If the root starts at the working folder and has an empty piece before its first
name then nothing is found.  If not then everything with the extension is found that lies directly
in the root, or anywhere below it if the depth is not zero, apart from what lies in folders whose
path is too long to look into them.  This is what the depth is meant to say if it is zero, and if it
is not then only if nothing with the extension lies deeper and all that does not is found. -/
theorem findFiles_found (hnamed : s.Named) (hroot : s.locate root = .ok d)
    (hd : s.get? d = some .folder) (hfree : ∀ c ∈ ['*', '?', '['], OsText.byte c ∉ root)
    (hsep : '/' ∉ extension.toList) (hextension : ∀ c ∈ extension.toList, Pattern.IsLiteral c)
    (depth : Int) :
    leaves (findFiles extension depth root) s = s ∧
    (root.text? = none → yields (findFiles extension depth root) s = .error .notText) ∧
    (root.text?.isSome = true → ∃ found, yields (findFiles extension depth root) s =
        .ok (found.map (descend root.plainly)) ∧
      (found.map fun rest => (descend root.plainly rest).route).Pairwise (compare · · = .lt) ∧
      (∀ rest ∈ found, s.place (descend root.plainly rest) = d ++ rest) ∧
      (¬root.IsPlain → found = []) ∧
      (root.IsPlain →
        (∀ rest, rest ∈ found ↔ s.EndsBelow d ("." ++ extension) rest ∧
          (depth ≤ 0 → rest.length = 1) ∧ WithinLimit root.plainly rest) ∧
        ((∀ rest, rest ∈ found ↔ s.EndsWithin d ("." ++ extension) depth.toNat rest) ↔
          depth ≤ 0 ∨ ∀ rest, s.EndsBelow d ("." ++ extension) rest →
            (rest.length ≤ depth.toNat + 1 ↔ WithinLimit root.plainly rest)))) := by
  refine ⟨leaves_findFiles extension depth root s, fun hnone => ?_, fun htext => ?_⟩
  · rw [findFiles, Pattern.text?_pathFor hnone]
    rfl
  obtain ⟨text, htext⟩ := Option.isSome_iff_exists.mp htext
  have hliteral := Path.isLiteral_of_text? htext hfree
  by_cases hplain : root.IsPlain
  · obtain ⟨hne, hq, -⟩ := Store.search_plain hplain hroot hd
    have hmem : ∀ rest, rest ∈ s.found root.plainly d ("." ++ extension) depth.toNat ↔
        s.EndsBelow d ("." ++ extension) rest ∧
          (depth ≤ 0 → rest.length = 1) ∧ WithinLimit root.plainly rest := by
      intro rest
      rw [Store.mem_found_iff hq, Int.toNat_eq_zero]
    have hnames : ∀ rest ∈ s.found root.plainly d ("." ++ extension) depth.toNat,
        ∀ n ∈ rest, Path.IsName n :=
      fun rest hrest => hnamed.isName_of_append ((hmem rest).mp hrest).1.1
    have hsorted := s.pairwise_found root.plainly d ("." ++ extension) depth.toNat
    refine ⟨_, ?_, Store.pairwise_route_descend hne hnames hsorted, fun rest hrest => ?_,
      fun h => absurd hplain h, fun _ => ⟨hmem, ?_⟩⟩
    · rw [yields_findFiles_of_plain hplain hroot hd hsep hextension,
        Store.sort_descend hne hnames hsorted]
    · rw [s.place_descend root.plainly (hnames rest hrest), Store.place_of_locate hq]
    · rw [Store.found_meant_iff hq, Int.toNat_eq_zero]
  · refine ⟨[], ?_, .nil, fun rest hrest => absurd hrest List.not_mem_nil, fun _ => rfl,
      fun h => absurd h hplain⟩
    rw [yields_findFiles_eq_search (Store.locate_eq_ok_iff.mp hroot).2.2.1 hliteral hsep hextension,
      Store.search_eq_nil hliteral hplain, Path.sort, List.mergeSort_nil]
    rfl

/-- A program in a folder, one in a folder in it, and one in a folder in that. -/
def nestedStore : Store := .ofTexts
  [(["r"], .folder), (["r", "x.py"], .file .empty), (["r", "a"], .folder),
    (["r", "a", "y.py"], .file .empty), (["r", "a", "b"], .folder),
    (["r", "a", "b", "z.py"], .file .empty)]

/-- At depth one all three are found. -/
theorem findFiles_found_nested :
    let root : Path := .ofText "r"
    nestedStore.Named ∧ nestedStore.locate root = .ok [root] ∧
    nestedStore.get? [root] = some .folder ∧ root.IsPlain ∧ root.text?.isSome = true ∧
    (∀ c ∈ ['*', '?', '['], OsText.byte c ∉ root) ∧
    '/' ∉ "py".toList ∧ (∀ c ∈ "py".toList, Pattern.IsLiteral c) ∧
    ∃ found : List Location,
      yields (findFiles "py" 1 root) nestedStore = .ok (found.map (descend root)) ∧
      ["x.py"].map OsText.ofText ∈ found ∧ ["a", "y.py"].map OsText.ofText ∈ found ∧
      ["a", "b", "z.py"].map OsText.ofText ∈ found ∧ ["a"].map OsText.ofText ∉ found := by
  intro root
  have hnamed : nestedStore.Named := by decide +kernel
  have hroot : nestedStore.locate root = .ok [root] := by decide +kernel
  have hd : nestedStore.get? [root] = some .folder := by decide +kernel
  have hplain : root.IsPlain := by decide +kernel
  have htext : root.text?.isSome = true := by decide +kernel
  have hfree : ∀ c ∈ ['*', '?', '['], OsText.byte c ∉ root := by
    rw [List.forall_mem_cons, List.forall_mem_cons, List.forall_mem_singleton]
    decide
  have hsep : '/' ∉ "py".toList := by decide
  have hextension : ∀ c ∈ "py".toList, Pattern.IsLiteral c := by simp [Pattern.IsLiteral]
  obtain ⟨-, -, hfinds⟩ := findFiles_found hnamed hroot hd hfree hsep hextension 1
  obtain ⟨found, hyields, -, -, -, hfound⟩ := hfinds htext
  have hmem := (hfound hplain).1
  have hself : root.plainly = root := by decide +kernel
  rw [hself] at hyields
  refine ⟨hnamed, hroot, hd, hplain, htext, hfree, hsep, hextension, found, hyields, ?_⟩
  simp only [hmem]
  decide +kernel

/-- But one of them lies two folders below. -/
theorem findFiles_found_too_deep :
    let root : Path := .ofText "r"
    nestedStore.Named ∧ nestedStore.locate root = .ok [root] ∧
    nestedStore.get? [root] = some .folder ∧ root.IsPlain ∧
    '/' ∉ "py".toList ∧ (∀ c ∈ "py".toList, Pattern.IsLiteral c) ∧
    ¬∃ paths, yields (findFiles "py" 1 root) nestedStore = .ok paths ∧
      ∀ rest, (∃ p ∈ paths, nestedStore.place p = [root] ++ rest) ↔
        nestedStore.EndsWithin [root] ".py" 1 rest := by
  intro root
  have hroot : nestedStore.locate root = .ok [root] := by decide +kernel
  have hd : nestedStore.get? [root] = some .folder := by decide +kernel
  have hplain : root.IsPlain := by decide +kernel
  have hsep : '/' ∉ "py".toList := by decide
  have hextension : ∀ c ∈ "py".toList, Pattern.IsLiteral c := by simp [Pattern.IsLiteral]
  refine ⟨by decide +kernel, hroot, hd, hplain, hsep, hextension, ?_⟩
  rintro ⟨paths, hyields, hmeant⟩
  rw [yields_findFiles_of_plain hplain hroot hd hsep hextension] at hyields
  cases hyields
  have hfound : ["a", "b", "z.py"].map OsText.ofText ∈
      nestedStore.found root.plainly [root] ".py" 1 := by decide +kernel
  have hdeep : ¬nestedStore.EndsWithin [root] ".py" 1 (["a", "b", "z.py"].map .ofText) := by
    decide +kernel
  refine hdeep ((hmeant _).mp ⟨_, List.mem_mergeSort.mpr (List.mem_map_of_mem hfound), ?_⟩)
  decide +kernel

end StructuralGrading
