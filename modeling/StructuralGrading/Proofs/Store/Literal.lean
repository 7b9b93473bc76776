import StructuralGrading.Proofs.Store.Joining
import StructuralGrading.Store.Pattern

/-! # Paths in patterns

A path can be the beginning of a pattern.  If it is a text in which nothing is left open then its
pieces stand for themselves, and the pattern asks for what its last piece says in the folder of the
path.

* `Pattern.IsLiteral`, `Path.IsLiteral`: whether a character, or a path, stands for itself;
* `Path.trail_ofText`: a text and its bytes have the same pieces;
* `Pattern.matchAll_ending_iff`: which names have an ending;
* `Pattern.ofText_opening`: how a pattern is read that starts with literal pieces;
* `Pattern.ofText_pathFor`: the pattern for an extension. -/

namespace StructuralGrading

/-! ### Literal text -/

/-- Whether a character stands for itself in a pattern. -/
def Pattern.IsLiteral (c : Char) : Prop := c ≠ '*' ∧ c ≠ '?' ∧ c ≠ '['

instance : DecidablePred Pattern.IsLiteral := fun _ => inferInstanceAs (Decidable (_ ∧ _))

namespace Path

variable {p : Path} {name : OsText}

/-- Whether a path is a text that stands for itself in a pattern. -/
def IsLiteral (p : Path) : Prop :=
  ∃ text : String, p = .ofText text ∧ ∀ c ∈ text.toList, Pattern.IsLiteral c

-- The characters are gone through one by one; there are too many to go through all there are.
instance (p : Path) : Decidable p.IsLiteral :=
  decidable_of_iff (p.text?.any fun text => text.toList.all fun c => Pattern.IsLiteral c) (by
    simp [IsLiteral, Option.any_eq_true, OsText.text?_eq_some_iff])

/-! ### Paths that are opened -/

/-- A path with a separator at its end. -/
def opened (p : Path) : Path := if p.getLast? = some separator then p else p ++ [separator]

theorem join_eq_opened (hne : p ≠ []) (h : isAbsolute name = false) :
    p.join name = p.opened ++ name := by
  have hempty : ¬(p.isEmpty = true) := by simpa using hne
  rw [join, h, Bool.false_or, if_neg hempty, opened]
  split <;> simp

theorem opened_foldl_join {piece : OsText} (hpiece : piece ≠ []) (hsep : separator ∉ piece)
    (n : Nat) : ∀ {p : Path}, p ≠ [] → (List.replicate n piece).foldl join p ≠ [] ∧
      ((List.replicate n piece).foldl join p).opened =
        p.opened ++ (List.replicate n (piece ++ [separator])).flatten := by
  have hrelative := isAbsolute_of_not_mem hsep
  have hlast : piece.getLast? ≠ some separator := fun h => hsep (List.mem_of_getLast? h)
  induction n with
  | zero => simp
  | succ n ih =>
      intro p hne
      have hnext : p.join piece ≠ [] := by simp [join_eq_opened hne hrelative, hpiece]
      have hopen : (p.join piece).opened = p.opened ++ (piece ++ [separator]) := by
        rw [opened, join_eq_opened hne hrelative, List.getLast?_append_of_ne_nil _ hpiece,
          if_neg hlast, List.append_assoc]
      obtain ⟨hrest, heq⟩ := ih hnext
      rw [List.replicate_succ, List.foldl_cons]
      refine ⟨hrest, ?_⟩
      rw [heq, hopen, List.replicate_succ, List.flatten_cons, List.append_assoc]

/-! ### Pieces of texts -/

/-- The characters of a text, without a separator at its end. -/
theorem exists_opening {text : String} (hne : text ≠ "") : ∃ front : List Char,
    (∀ c ∈ front, c ∈ text.toList) ∧
    (front ++ ['/']).head? = text.toList.head? ∧
    opened (.ofText text) = .ofText (String.ofList (front ++ ['/'])) ∧
    trail (.ofText text) =
      (front.splitOn '/').map fun cs => OsText.ofText (String.ofList cs) := by
  have hsplit : ∀ cs : List Char, pieces (.ofText (String.ofList cs)) =
      (cs.splitOn '/').map fun cs => OsText.ofText (String.ofList cs) := by
    intro cs
    have hbytes := OsText.splitOn_ofText (by decide : OsText.IsAscii '/') (String.ofList cs)
    rw [String.toList_ofList] at hbytes
    exact hbytes.trans (List.map_congr_left fun _ _ => (OsText.ofText_ofList _).symm)
  have hlast : (OsText.ofText text).getLast? = some separator ↔ text.toList.getLast? = some '/' :=
    OsText.getLast?_ofText_iff (by decide)
  have hopen : OsText.ofText (String.ofList ['/']) = [separator] := by decide
  by_cases hend : text.toList.getLast? = some '/'
  · obtain ⟨front, hfront⟩ := List.getLast?_eq_some_iff.mp hend
    have htext : text = String.ofList (front ++ ['/']) := by rw [← hfront, String.ofList_toList]
    refine ⟨front, fun c hc => ?_, by rw [hfront], ?_, ?_⟩
    · rw [hfront]
      exact List.mem_append_left _ hc
    · rw [opened, if_pos (hlast.mpr hend), ← htext]
    · have hpieces : pieces (.ofText text) =
          (front.splitOn '/').map (fun cs => OsText.ofText (String.ofList cs)) ++ [[]] := by
        rw [htext, hsplit, List.splitOn_append_cons_self, List.map_append]
        rfl
      rw [trail, hpieces, List.getLast?_concat, if_pos rfl, List.dropLast_concat]
  · have hbytes : (OsText.ofText text).getLast? ≠ some separator := fun h => hend (hlast.mp h)
    have hchars : text.toList ≠ [] := fun h => hne (String.toList_injective h)
    refine ⟨text.toList, fun c hc => hc, List.head?_append_of_ne_nil _ hchars, ?_, ?_⟩
    · rw [opened, if_neg hbytes, String.ofList_append, OsText.ofText_append, String.ofList_toList,
        hopen]
    · have hnone : (pieces (.ofText text)).getLast? ≠ some [] := by
        intro h
        rcases of_getLast?_splitOn h with h | h
        · exact hne (OsText.ofText_injective h)
        · exact hbytes h
      rw [trail, if_neg hnone, ← hsplit, String.ofList_toList]

/-- The pieces of a path that lead on from where it starts, as they are shown. -/
def texts (p : Path) : List String :=
  (if p.isAbsolute then p.trail.tail else p.trail).map OsText.shown

end Path

/-! ### Reading literal text -/

namespace Pattern

variable {cs rest : List Char} {ts : List Token}

theorem tokens_cons {c : Char} (h : IsLiteral c) (position : Nat) (before : Option Char)
    (cs : List Char) : tokens position before (c :: cs) =
      (tokens (position + 1) (some c) cs).map (Token.char c :: ·) := by
  obtain ⟨hstar, hmark, hbracket⟩ := h
  rw [tokens]
  · exact hmark
  · exact fun _ hc _ => hstar hc
  · exact fun _ hc _ => hstar hc
  · exact hstar
  · exact hbracket

theorem tokens_append (hcs : ∀ c ∈ cs, IsLiteral c)
    (hrest : ∀ position before, tokens position before rest = .ok ts) :
    ∀ position before, tokens position before (cs ++ rest) = .ok (cs.map .char ++ ts) := by
  induction cs with
  | nil => exact hrest
  | cons c cs ih =>
      intro position before
      have htail := ih (fun d hd => hcs d (List.mem_cons_of_mem c hd)) (position + 1) (some c)
      rw [List.cons_append, tokens_cons (hcs c List.mem_cons_self), htail]
      rfl

theorem tokens_literal (hcs : ∀ c ∈ cs, IsLiteral c) (position : Nat) (before : Option Char) :
    tokens position before cs = .ok (cs.map .char) := by
  have hnothing : ∀ position before, tokens position before [] = .ok [] := fun _ _ => by rw [tokens]
  simpa using tokens_append hcs hnothing position before

/-- The tokens for any name with an ending. -/
def anyWith (ending : List Char) : List Token := .anyChars :: ending.map .char

theorem tokens_star (hcs : ∀ c ∈ '.' :: cs, IsLiteral c) (position : Nat) (before : Option Char) :
    tokens position before ('*' :: '.' :: cs) = .ok (anyWith ('.' :: cs)) := by
  rw [tokens, tokens_literal hcs]
  · rfl
  · rintro tail ⟨⟩
  · rintro tail ⟨⟩

/-- Pieces that stand for folders, with a separator after each. -/
def starred (n : Nat) : List Char := (List.replicate n ['*', '*', '/']).flatten

theorem encode_starred (n : Nat) :
    (List.replicate n (OsText.ofText "**" ++ [Path.separator])).flatten =
      (starred n).flatMap String.utf8EncodeChar := by
  have hunit : OsText.ofText "**" ++ [Path.separator] =
      ['*', '*', '/'].flatMap String.utf8EncodeChar := by decide
  induction n with
  | zero => rfl
  | succ n ih =>
      rw [List.replicate_succ, List.flatten_cons, ih, hunit, ← List.flatMap_append]
      rfl

/-- Two stars that are a piece take the separator after them along. -/
theorem tokens_starred (hrest : ∀ position before, tokens position before rest = .ok ts) (n : Nat) :
    ∀ position, tokens position (some '/') (starred n ++ rest) =
      .ok (List.replicate n .anyFolders ++ ts) := by
  induction n with
  | zero => exact fun position => hrest position _
  | succ n ih =>
      intro position
      have hstarred : starred (n + 1) ++ rest = '*' :: '*' :: '/' :: (starred n ++ rest) := by
        simp [starred, List.replicate_succ]
      have hnext : tokens (position + 3) (some '/') (starred n ++ rest) = _ := ih (position + 3)
      rw [hstarred, tokens]
      · simp [separator, hnext, List.replicate_succ, Except.map]
      · rintro tail ⟨⟩

theorem literal?_literal (cs : List Char) :
    Token.literal? (cs.map .char) = some (String.ofList cs) := by
  have hall : ∀ read : Token → Option Char, (∀ c, read (.char c) = some c) →
      (cs.map Token.char).mapM read = some cs := by
    intro read hread
    induction cs with
    | nil => rfl
    | cons c cs ih =>
        rw [List.map_cons, List.mapM_cons, hread, ih]
        rfl
  exact congrArg (Option.map String.ofList) (hall _ fun _ => rfl)

/-! ### Matching -/

theorem mem_suffixes_iff {ds : List Char} : ds ∈ suffixes cs ↔ ds <:+ cs := by
  induction cs with
  | nil => simp [suffixes]
  | cons c cs ih => simp [suffixes, ih, List.suffix_cons_iff]

theorem matchAll_literal_iff {ds : List Char} :
    Token.matchAll (cs.map .char) ds = true ↔ ds = cs := by
  induction cs generalizing ds with
  | nil => simp [Token.matchAll]
  | cons c cs ih =>
      cases ds with
      | nil => simp [Token.matchAll]
      | cons d ds => simp [Token.matchAll, Token.admits, ih]

theorem matchAll_ending_iff {ending : List Char} :
    Token.matchAll (anyWith ending) cs = true ↔ ending <:+ cs := by
  simp [anyWith, Token.matchAll, matchAll_literal_iff, mem_suffixes_iff]

/-! ### Reading pieces -/

theorem ofChars_of_tokens (h : tokens 0 none cs = .ok ts) (hts : ts ≠ [.anyFolders]) :
    Component.ofChars cs = .ok (.name ts) := by
  rw [Component.ofChars, h]
  simp only [bind, Except.bind]
  rfl

theorem ofChars_folders : Component.ofChars ['*', '*'] = .ok .folders := by decide +kernel

theorem map_char_ne (cs : List Char) : cs.map .char ≠ [Token.anyFolders] := by
  cases cs <;> simp

theorem mapM_eq_ok {α β ε : Type} {f : α → Except ε β} {g : α → β} : ∀ {as : List α},
    (∀ a ∈ as, f a = .ok (g a)) → as.mapM f = .ok (as.map g)
  | [], _ => rfl
  | a :: as, h => by
      have hrest := mapM_eq_ok fun b hb => h b (List.mem_cons_of_mem a hb)
      rw [List.mapM_cons, h a List.mem_cons_self, hrest]
      rfl

/-- The piece of a pattern that stands for one name. -/
def only (text : String) : Component := .name (text.toList.map .char)

/-- What stands between a folder and a name after some pieces for folders have become one. -/
def between : Nat → List Component
  | 0 => []
  | _ + 1 => [.folders]

theorem collapse_folders (n : Nat) (ts : List Token) :
    collapse (List.replicate n .folders ++ [.name ts]) = between n ++ [.name ts] := by
  cases n with
  | zero => rfl
  | succ n =>
      induction n with
      | zero => rfl
      | succ n ih => exact ih

theorem collapse_only (texts : List String) (cs : List Component) :
    collapse (texts.map only ++ cs) = texts.map only ++ collapse cs := by
  induction texts with
  | nil => rfl
  | cons text texts ih =>
      rw [List.map_cons, List.cons_append, List.cons_append, ← ih, only, collapse]
      rintro rest ⟨⟩

theorem piecesOf_of_splitOn {ps : List (List Char)} {name : List Char}
    (h : cs.splitOn separator = ps ++ [name]) (hne : name ≠ []) : piecesOf cs = ps ++ [name] := by
  rw [piecesOf, h, List.reverse_append, List.reverse_singleton, List.singleton_append]
  split
  · rename_i heq
    exact absurd (List.cons.inj heq).1 hne
  · rw [List.reverse_cons, List.reverse_reverse]

theorem components_literal {ps : List (List Char)} (h : ∀ piece ∈ ps, ∀ c ∈ piece, IsLiteral c) :
    ps.mapM Component.ofChars = .ok ((ps.map String.ofList).map only) := by
  rw [mapM_eq_ok fun piece hpiece =>
    ofChars_of_tokens (tokens_literal (h piece hpiece) 0 none) (map_char_ne piece)]
  simp [only, Function.comp_def]

/-! ### Patterns that start with literal text -/

section opening

variable {front name : List Char}

theorem splitOn_starred (hname : '/' ∉ name) (n : Nat) :
    (starred n ++ name).splitOn '/' = List.replicate n ['*', '*'] ++ [name] := by
  induction n with
  | zero => exact List.splitOn_eq_singleton hname
  | succ n ih =>
      have hstarred : starred (n + 1) ++ name = ['*', '*'] ++ '/' :: (starred n ++ name) := by
        simp [starred, List.replicate_succ]
      have hpiece : ['*', '*'].splitOn '/' = [['*', '*']] := List.splitOn_eq_singleton (by decide)
      rw [hstarred, List.splitOn_append_cons_self, ih, hpiece]
      rfl

theorem splitOn_opening (hname : '/' ∉ name) (n : Nat) :
    (front ++ '/' :: (starred n ++ name)).splitOn '/' =
      front.splitOn '/' ++ List.replicate n ['*', '*'] ++ [name] := by
  rw [List.splitOn_append_cons_self, splitOn_starred hname, List.append_assoc]

theorem tokens_opening (hfront : ∀ c ∈ front, IsLiteral c)
    (hread : ∀ position before, tokens position before name = .ok ts) (n : Nat) :
    ∃ whole, tokens 0 none (front ++ '/' :: (starred n ++ name)) = .ok whole := by
  have hback : ∀ position before, tokens position before ('/' :: (starred n ++ name)) =
      .ok (.char '/' :: (List.replicate n .anyFolders ++ ts)) := by
    intro position before
    rw [tokens_cons (by decide), tokens_starred hread]
    rfl
  exact ⟨_, tokens_append hfront hback 0 none⟩

theorem head?_opening (front rest : List Char) :
    (front ++ '/' :: rest).head? = (front ++ ['/']).head? := by
  cases front <;> rfl

theorem getLast?_opening (hname : '/' ∉ name) (hne : name ≠ []) (n : Nat) :
    (front ++ '/' :: (starred n ++ name)).getLast? ≠ some '/' := by
  rw [List.append_cons, ← List.append_assoc, List.getLast?_append_of_ne_nil _ hne]
  exact fun h => hname (List.mem_of_getLast? h)

/-- A separator at the start of a pattern opens no piece. -/
theorem piecesOf_tail_opening (habsolute : (front ++ ['/']).head? = some '/') (hname : '/' ∉ name)
    (hne : name ≠ []) (n : Nat) :
    piecesOf (front ++ '/' :: (starred n ++ name)).tail =
      (front.splitOn '/').tail ++ List.replicate n ['*', '*'] ++ [name] := by
  have hsplit : (front ++ '/' :: (starred n ++ name)).splitOn '/' = _ := splitOn_opening hname n
  rw [← head?_opening front (starred n ++ name)] at habsolute
  obtain ⟨tail, htail⟩ := List.head?_eq_some_iff.mp habsolute
  have hfirst : ('/' :: tail).splitOn '/' = [] :: tail.splitOn '/' := by
    rw [List.splitOn_cons_eq_if_modifyHead]
    rfl
  rw [htail, hfirst, List.append_assoc] at hsplit
  refine piecesOf_of_splitOn ?_ hne
  rw [htail, List.tail_cons, separator, List.append_assoc,
    ← List.tail_append_of_ne_nil (List.splitOn_ne_nil _ _), ← hsplit, List.tail_cons]

theorem components_opening {ps : List (List Char)} (hps : ∀ piece ∈ ps, ∀ c ∈ piece, IsLiteral c)
    (hread : ∀ position before, tokens position before name = .ok ts) (hts : ts ≠ [.anyFolders])
    (n : Nat) :
    (ps ++ List.replicate n ['*', '*'] ++ [name]).mapM Component.ofChars =
      .ok ((ps.map String.ofList).map only ++ (List.replicate n .folders ++ [.name ts])) := by
  have hfolders : (List.replicate n ['*', '*']).mapM Component.ofChars =
      .ok (List.replicate n .folders) := by
    rw [mapM_eq_ok (g := fun _ => .folders), List.map_replicate]
    intro piece hpiece
    rw [List.eq_of_mem_replicate hpiece]
    exact ofChars_folders
  rw [List.append_assoc, List.mapM_append, List.mapM_append, components_literal hps, hfolders,
    List.mapM_cons, ofChars_of_tokens (hread 0 none) hts]
  rfl

/-- A pattern that starts with literal pieces, goes on with some for folders and ends with one more
is read piece by piece.  A separator at its start says where to start. -/
theorem ofText_opening (hfront : ∀ c ∈ front, IsLiteral c) (hname : '/' ∉ name) (hne : name ≠ [])
    (hread : ∀ position before, tokens position before name = .ok ts) (hts : ts ≠ [.anyFolders])
    (n : Nat) :
    let absolute := decide ((front ++ ['/']).head? = some '/')
    let ps := if absolute then (front.splitOn '/').tail else front.splitOn '/'
    ofText (String.ofList (front ++ '/' :: (starred n ++ name))) =
      .ok ⟨absolute, (ps.map String.ofList).map only ++ (between n ++ [.name ts]), false⟩ := by
  intro absolute ps
  obtain ⟨whole, hwhole⟩ := tokens_opening hfront hread n
  have hend : (front ++ '/' :: (starred n ++ name)).getLast? ≠ some '/' :=
    getLast?_opening hname hne n
  have hliteral : ∀ piece ∈ ps, ∀ c ∈ piece, IsLiteral c := by
    intro piece hpiece c hc
    have hmem : piece ∈ front.splitOn '/' := by
      simp only [ps] at hpiece
      split at hpiece
      · exact List.mem_of_mem_tail hpiece
      · exact hpiece
    exact hfront c (Text.mem_of_mem_splitOn hmem hc)
  have hpieces : piecesOf (if (front ++ ['/']).head? = some '/' then
      (front ++ '/' :: (starred n ++ name)).tail else front ++ '/' :: (starred n ++ name)) =
      ps ++ List.replicate n ['*', '*'] ++ [name] := by
    by_cases habsolute : (front ++ ['/']).head? = some '/'
    · rw [if_pos habsolute, piecesOf_tail_opening habsolute hname hne]
      simp only [ps, absolute, habsolute, decide_true, if_true]
    · rw [if_neg habsolute, piecesOf_of_splitOn (splitOn_opening hname n) hne]
      simp only [ps, absolute, habsolute, decide_false, Bool.false_eq_true, if_false]
  rw [ofText, String.toList_ofList]
  simp only [hwhole, separator, head?_opening, hend, hpieces, components_opening hliteral hread hts,
    bind, Except.bind, pure, Except.pure, collapse_only, collapse_folders, absolute, decide_false]

theorem pathFor_eq {root : Path} (hroot : root ≠ []) (extension : String) (depth : Int) :
    pathFor extension depth root = root.opened ++ OsText.ofText
      (String.ofList (starred depth.toNat ++ ("*." ++ extension).toList)) := by
  have hstars : OsText.ofText "**" ≠ [] ∧ Path.separator ∉ OsText.ofText "**" := by decide
  obtain ⟨hnonempty, hfolders⟩ := Path.opened_foldl_join hstars.1 hstars.2 depth.toNat hroot
  have hrelative : Path.isAbsolute (.ofText ("*." ++ extension)) = false := by
    rw [Path.isAbsolute, OsText.ofText_append]
    rfl
  rw [pathFor, Path.join_eq_opened hnonempty hrelative, hfolders, encode_starred,
    List.append_assoc, OsText.ofText_ofList, List.flatMap_append]
  rfl

/-- **The pattern for an extension in a folder.** If nothing is left open in the path of the folder
and in the extension then the pattern can be read.  It starts where the path does, and asks for the
pieces on the way into the folder, for any number of folders unless the depth is zero, and for a
name with the extension. -/
theorem ofText_pathFor {root : Path} (hroot : root ≠ []) (hliteral : root.IsLiteral)
    {extension : String} (hsep : '/' ∉ extension.toList)
    (hextension : ∀ c ∈ extension.toList, IsLiteral c) (depth : Int) :
    ∃ text, (pathFor extension depth root).text? = some text ∧
      ofText text = .ok ⟨root.isAbsolute, root.texts.map only ++
        (between depth.toNat ++ [.name (anyWith ("." ++ extension).toList)]), false⟩ := by
  obtain ⟨text, rfl, htext⟩ := hliteral
  have hne : text ≠ "" := by
    rintro rfl
    exact hroot rfl
  obtain ⟨front, hfront, hhead, hopen, htrail⟩ := Path.exists_opening hne
  have hending : ("." ++ extension).toList = '.' :: extension.toList := by
    rw [String.toList_append]
    rfl
  have hname : ("*." ++ extension).toList = '*' :: '.' :: extension.toList := by
    rw [String.toList_append]
    rfl
  have hpath : pathFor extension depth (.ofText text) = .ofText
      (String.ofList (front ++ '/' :: (starred depth.toNat ++ ("*." ++ extension).toList))) := by
    rw [pathFor_eq hroot, hopen, ← OsText.ofText_append, ← String.ofList_append, List.append_assoc]
    rfl
  refine ⟨_, OsText.text?_eq_some_iff.mpr hpath, ?_⟩
  have habsolute : decide ((front ++ ['/']).head? = some '/') = Path.isAbsolute (.ofText text) := by
    have hstart : (OsText.ofText text).head? = some Path.separator ↔ text.toList.head? = some '/' :=
      OsText.head?_ofText_iff (by decide)
    rw [hhead, Path.isAbsolute, Bool.eq_iff_iff, decide_eq_true_eq, beq_iff_eq, ← hstart]
  have htexts : Path.texts (.ofText text) = (if Path.isAbsolute (.ofText text) then
      (front.splitOn '/').tail else front.splitOn '/').map String.ofList := by
    rw [Path.texts, htrail]
    split <;> simp [← List.map_tail]
  have hslash : '/' ∉ ("*." ++ extension).toList := by
    rw [hname, List.mem_cons, List.mem_cons, not_or, not_or]
    exact ⟨by decide, by decide, hsep⟩
  have hread : ∀ position before, tokens position before ("*." ++ extension).toList =
      .ok (anyWith ("." ++ extension).toList) := by
    rw [hname, hending]
    exact tokens_star (List.forall_mem_cons.mpr ⟨by decide, hextension⟩)
  have hopening := ofText_opening (fun c hc => htext c (hfront c hc)) hslash (by simp [hname]) hread
    (by simp [anyWith]) depth.toNat
  rw [hopening, habsolute, htexts]

end opening

/-- The pattern for an extension in a folder is no text if the path of the folder is none. -/
theorem text?_pathFor {root : Path} (h : root.text? = none) (extension : String) (depth : Int) :
    (pathFor extension depth root).text? = none := by
  have hne : root ≠ [] := by
    rintro rfl
    cases h
  obtain ⟨front, hfront, hroot⟩ : ∃ front : OsText, root.opened = front ++ [Path.separator] ∧
      (root = front ∨ root = front ++ [Path.separator]) := by
    rw [Path.opened]
    split
    · rename_i hlast
      obtain ⟨front, hfront⟩ := List.getLast?_eq_some_iff.mp hlast
      exact ⟨front, hfront, .inr hfront⟩
    · exact ⟨root, rfl, .inl rfl⟩
  rw [← Option.not_isSome_iff_eq_none, Option.isSome_iff_exists]
  rintro ⟨text, htext⟩
  rw [OsText.text?_eq_some_iff, pathFor_eq hne, hfront, List.append_assoc] at htext
  obtain ⟨t, rfl⟩ := OsText.exists_text_of_append (by decide : OsText.IsAscii '/') htext
  rcases hroot with rfl | rfl
  · rw [OsText.text?_ofText] at h
    cases h
  · have hslash : OsText.ofText t ++ [Path.separator] = OsText.ofText (t ++ "/") := by
      rw [OsText.ofText_append]
      rfl
    rw [hslash, OsText.text?_ofText] at h
    cases h

end Pattern

end StructuralGrading
