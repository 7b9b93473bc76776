import Mathlib.Data.List.Basic
import StructuralGrading.Text.OsText

/-! # Bytes and text

A text can be read back from its bytes, and it is shown as itself.  Other bytes are shown as another
text, but this has no ASCII character that is not among the bytes.

* `OsText.text?_eq_some_iff`: which bytes are a text;
* `OsText.splitOn_ofText`: a text is split at an ASCII character as its bytes are;
* `OsText.flatten_runs`: nothing is lost in cutting bytes into runs;
* `OsText.mem_of_mem_shown`, `OsText.replacement_mem_shown`: what is shown of bytes. -/

namespace StructuralGrading.OsText

variable {b : OsText} {text : String} {c : Char}

/-! ### Bytes of a text -/

@[simp] theorem ofText_empty : ofText "" = [] := rfl

theorem ofText_append (t u : String) : ofText (t ++ u) = ofText t ++ ofText u := by
  rw [ofText, String.toList_append, List.flatMap_append]
  rfl

theorem ofText_ofList (cs : List Char) :
    ofText (String.ofList cs) = cs.flatMap String.utf8EncodeChar := by
  rw [ofText, String.toList_ofList]

theorem toByteArray_eq (t : String) : t.toByteArray = ⟨(ofText t).toArray⟩ := by
  have hlist : (String.ofList t.toList).toByteArray = t.toList.utf8Encode :=
    String.toByteArray_ofList
  rw [String.ofList_toList] at hlist
  rw [hlist, List.utf8Encode, ofText]
  exact ByteArray.ext List.data_toByteArray

theorem length_ofText (t : String) : (ofText t).length = t.utf8ByteSize := by
  have hsize := congrArg ByteArray.size (toByteArray_eq t)
  exact hsize.symm

theorem text?_eq_some_iff : text? b = some text ↔ b = ofText text := by
  have hbytes : (⟨b.toArray⟩ : ByteArray) = text.toByteArray ↔ b = ofText text := by
    rw [toByteArray_eq, ByteArray.mk.injEq, Array.mk.injEq]
  rw [text?, String.fromUTF8?, ← hbytes]
  constructor
  · intro h
    split at h
    · rw [← Option.some.inj h]
      rfl
    · cases h
  · intro h
    have hvalid : (⟨b.toArray⟩ : ByteArray).IsValidUTF8 := h ▸ text.isValidUTF8
    rw [dif_pos hvalid]
    exact congrArg some (String.toByteArray_inj.mp h)

@[simp] theorem text?_ofText (t : String) : text? (ofText t) = some t := text?_eq_some_iff.mpr rfl

theorem ofText_injective {t u : String} (h : ofText t = ofText u) : t = u := by
  have hread := text?_ofText t
  rw [h, text?_ofText] at hread
  exact (Option.some.inj hread).symm

theorem ofText_eq_nil_iff {t : String} : ofText t = [] ↔ t = "" :=
  ⟨fun h => ofText_injective (h.trans ofText_empty.symm), fun h => h ▸ ofText_empty⟩

/-! ### ASCII characters -/

/-- Whether a character is a single byte. -/
def IsAscii (c : Char) : Prop := c.utf8Size = 1

instance : DecidablePred IsAscii := fun c => inferInstanceAs (Decidable (c.utf8Size = 1))

theorem le_or (x : UInt8) {y : UInt8} (h : 0x80 ≤ y) : 0x80 ≤ x ||| y := by
  rw [UInt8.le_iff_toNat_le] at h ⊢
  rw [UInt8.toNat_or]
  exact Nat.le_trans h Nat.right_le_or

theorem utf8EncodeChar_of_isAscii (h : IsAscii c) : String.utf8EncodeChar c = [byte c] :=
  String.utf8EncodeChar_eq_singleton h

theorem le_of_mem_utf8EncodeChar (h : ¬IsAscii c) {x : UInt8}
    (hx : x ∈ String.utf8EncodeChar c) : 0x80 ≤ x := by
  have hhigh : (0x80 : UInt8) ≤ 128 ∧ (0x80 : UInt8) ≤ 192 ∧ (0x80 : UInt8) ≤ 224 ∧
      (0x80 : UInt8) ≤ 240 := by decide
  obtain ⟨h128, h192, h224, h240⟩ := hhigh
  rcases c.utf8Size_eq with h1 | h2 | h3 | h4
  · exact absurd h1 h
  · rw [String.utf8EncodeChar_eq_cons_cons h2] at hx
    rcases List.mem_cons.mp hx with rfl | hx
    · exact le_or _ h192
    · exact List.mem_singleton.mp hx ▸ le_or _ h128
  · rw [String.utf8EncodeChar_eq_cons_cons_cons h3] at hx
    simp only [List.mem_cons, List.not_mem_nil, or_false] at hx
    rcases hx with rfl | rfl | rfl
    · exact le_or _ h224
    · exact le_or _ h128
    · exact le_or _ h128
  · rw [String.utf8EncodeChar_eq_cons_cons_cons_cons h4] at hx
    simp only [List.mem_cons, List.not_mem_nil, or_false] at hx
    rcases hx with rfl | rfl | rfl | rfl
    · exact le_or _ h240
    · exact le_or _ h128
    · exact le_or _ h128
    · exact le_or _ h128

theorem byte_lt (h : IsAscii c) : byte c < 0x80 := by
  have hval : c.val.toNat ≤ 127 := Char.utf8Size_eq_one_iff.mp h
  rw [UInt8.lt_iff_toNat_lt, byte, UInt32.toNat_toUInt8]
  show c.val.toNat % 256 < 128
  omega

theorem byte_injective {d : Char} (hc : IsAscii c) (hd : IsAscii d) (h : byte c = byte d) :
    c = d := by
  have hc' : c.val.toNat ≤ 127 := Char.utf8Size_eq_one_iff.mp hc
  have hd' : d.val.toNat ≤ 127 := Char.utf8Size_eq_one_iff.mp hd
  have hnat := congrArg UInt8.toNat h
  rw [byte, byte, UInt32.toNat_toUInt8, UInt32.toNat_toUInt8] at hnat
  apply Char.ext
  apply UInt32.toNat_inj.mp
  omega

theorem byte_mem_utf8EncodeChar_iff {d : Char} (hc : IsAscii c) :
    byte c ∈ String.utf8EncodeChar d ↔ d = c := by
  constructor
  · intro h
    by_cases hd : IsAscii d
    · rw [utf8EncodeChar_of_isAscii hd, List.mem_singleton] at h
      exact (byte_injective hc hd h).symm
    · have hle := le_of_mem_utf8EncodeChar hd h
      have hlt := byte_lt hc
      exact absurd hlt (UInt8.not_lt.mpr hle)
  · rintro rfl
    rw [utf8EncodeChar_of_isAscii hc]
    exact List.mem_singleton_self _

theorem byte_mem_ofText_iff (hc : IsAscii c) : byte c ∈ ofText text ↔ c ∈ text.toList := by
  rw [ofText, List.mem_flatMap]
  simp [byte_mem_utf8EncodeChar_iff hc]

theorem head?_ofText_iff (hc : IsAscii c) :
    (ofText text).head? = some (byte c) ↔ text.toList.head? = some c := by
  unfold ofText
  cases text.toList with
  | nil => simp
  | cons d ds =>
      rw [List.flatMap_cons, List.head?_append_of_ne_nil _ (String.utf8EncodeChar_ne_nil),
        List.head?_cons, Option.some.injEq]
      constructor
      · intro h
        exact (byte_mem_utf8EncodeChar_iff hc).mp (List.mem_of_head? h)
      · rintro rfl
        rw [utf8EncodeChar_of_isAscii hc]
        rfl

theorem getLast?_ofText_iff (hc : IsAscii c) :
    (ofText text).getLast? = some (byte c) ↔ text.toList.getLast? = some c := by
  unfold ofText
  rcases List.eq_nil_or_concat text.toList with htext | ⟨ds, d, htext⟩
  · simp [htext]
  · rw [htext, List.concat_eq_append, List.flatMap_append, List.flatMap_singleton,
      List.getLast?_append_of_ne_nil _ String.utf8EncodeChar_ne_nil, List.getLast?_concat,
      Option.some.injEq]
    constructor
    · intro h
      exact (byte_mem_utf8EncodeChar_iff hc).mp (List.mem_of_getLast? h)
    · rintro rfl
      rw [utf8EncodeChar_of_isAscii hc]
      rfl

/-- What stands before an ASCII character in a text is a text. -/
theorem exists_text_of_append (hc : IsAscii c) {rest : OsText} : ∀ {cs : List Char} {b : OsText},
    b ++ byte c :: rest = cs.flatMap String.utf8EncodeChar → ∃ t, b = ofText t
  | [], b, h => by simp at h
  | d :: cs, b, h => by
      rw [List.flatMap_cons] at h
      rcases List.append_eq_append_iff.mp h with ⟨inside, hd, hrest⟩ | ⟨after, rfl, hrest⟩
      · cases inside with
        | nil => exact ⟨String.ofList [d], by simpa [ofText] using hd.symm⟩
        | cons x inside =>
            -- The character is within `d`, so it is `d`, and nothing stands before it.
            obtain ⟨rfl, -⟩ := List.cons.inj hrest
            obtain rfl := (byte_mem_utf8EncodeChar_iff hc).mp (hd ▸ List.mem_append_right b
              List.mem_cons_self)
            rw [utf8EncodeChar_of_isAscii hc] at hd
            have hlength := congrArg List.length hd
            simp only [List.length_append, List.length_cons, List.length_nil] at hlength
            exact ⟨"", List.length_eq_zero_iff.mp (by omega)⟩
      · obtain ⟨t, rfl⟩ := exists_text_of_append hc hrest.symm
        exact ⟨String.ofList [d] ++ t, by simp [ofText]⟩

theorem splitOn_append_of_not_mem {a : UInt8} (rest : OsText) : ∀ {b : OsText}, a ∉ b →
    (b ++ rest).splitOn a = (rest.splitOn a).modifyHead (b ++ ·)
  | [], _ => by
      rw [List.nil_append]
      cases rest.splitOn a <;> rfl
  | x :: b, h => by
      have hx : x ≠ a := fun hxa => h (hxa ▸ List.mem_cons_self)
      have hb : a ∉ b := fun hmem => h (List.mem_cons_of_mem x hmem)
      rw [List.cons_append, List.splitOn_cons_eq_if_modifyHead, if_neg (by simpa using hx),
        splitOn_append_of_not_mem rest hb, List.modifyHead_modifyHead]
      rfl

/-- A text is split at an ASCII character where its bytes are split at the byte. -/
theorem splitOn_ofText (hc : IsAscii c) (text : String) :
    (ofText text).splitOn (byte c) =
      (text.toList.splitOn c).map (·.flatMap String.utf8EncodeChar) := by
  unfold ofText
  induction text.toList with
  | nil => rfl
  | cons d ds ih =>
      rw [List.flatMap_cons, List.splitOn_cons_eq_if_modifyHead]
      by_cases hd : d = c
      · subst hd
        rw [utf8EncodeChar_of_isAscii hc, List.singleton_append,
          List.splitOn_cons_eq_if_modifyHead, if_pos (beq_self_eq_true _),
          if_pos (beq_self_eq_true _), ih]
        rfl
      · have hfree : byte c ∉ String.utf8EncodeChar d := fun h =>
          hd ((byte_mem_utf8EncodeChar_iff hc).mp h)
        rw [if_neg (by simpa using hd)]
        rw [splitOn_append_of_not_mem _ hfree, ih]
        cases ds.splitOn c <;> rfl

/-! ### Runs -/

theorem flatten_cut : ∀ (before : Nat) (b : OsText), (cut before b).flatten = b.drop before
  | 0, [] => rfl
  | before + 1, [] => rfl
  | before + 1, _ :: rest => by rw [cut, flatten_cut before rest, List.drop_succ_cons]
  | 0, b :: rest => by
      rw [cut, List.flatten_cons, flatten_cut _ rest, List.cons_append, List.take_append_drop]
      rfl

theorem flatten_runs (b : OsText) : (runs b).flatten = b := by
  unfold runs
  split
  · exact List.flatten_singleton
  · exact flatten_cut 0 b

theorem runs_ofText (t : String) : runs (ofText t) = [ofText t] := by
  unfold runs
  rw [text?_ofText]

/-! ### Showing -/

theorem toList_shown (b : OsText) :
    (shown b).toList = (runs b).flatMap fun r => ((text? r).getD replacement).toList :=
  String.toList_ofList

@[simp] theorem shown_ofText (t : String) : shown (ofText t) = t := by
  apply String.toList_injective
  rw [toList_shown, runs_ofText, List.flatMap_singleton, text?_ofText, Option.getD_some]

/-- Texts are shown as they are. -/
theorem map_ofText_shown {bs : List OsText} (h : ∀ b ∈ bs, ofText (shown b) = b) :
    (bs.map shown).map ofText = bs := by
  induction bs with
  | nil => rfl
  | cons b bs ih =>
      rw [List.map_cons, List.map_cons, h b List.mem_cons_self,
        ih fun b' hb' => h b' (List.mem_cons_of_mem b hb')]

theorem byte_mem_of_mem_shown (hc : IsAscii c) (h : c ∈ (shown b).toList) : byte c ∈ b := by
  rw [toList_shown, List.mem_flatMap] at h
  obtain ⟨r, hr, hmem⟩ := h
  rw [← flatten_runs b, List.mem_flatten]
  refine ⟨r, hr, ?_⟩
  cases htext : text? r with
  | none =>
      rw [htext, Option.getD_none] at hmem
      obtain rfl : c = '\uFFFD' := List.mem_singleton.mp hmem
      exact absurd hc (by decide)
  | some text =>
      rw [htext] at hmem
      rw [text?_eq_some_iff.mp htext]
      exact (byte_mem_ofText_iff hc).mpr hmem

theorem isSome_text?_flatten : ∀ {rs : List OsText}, (∀ r ∈ rs, (text? r).isSome = true) →
    ∃ text, rs.flatten = ofText text
  | [], _ => ⟨"", rfl⟩
  | r :: rs, h => by
      obtain ⟨t, ht⟩ := Option.isSome_iff_exists.mp (h r List.mem_cons_self)
      obtain ⟨u, hu⟩ := isSome_text?_flatten fun r' hr' => h r' (List.mem_cons_of_mem r hr')
      refine ⟨t ++ u, ?_⟩
      rw [List.flatten_cons, hu, text?_eq_some_iff.mp ht, ofText_append]

/-- Of bytes that are no text, something is replaced. -/
theorem replacement_mem_shown (h : text? b = none) : '\uFFFD' ∈ (shown b).toList := by
  rw [toList_shown, List.mem_flatMap]
  by_contra hnot
  have hall : ∀ r ∈ runs b, (text? r).isSome = true := by
    intro r hr
    rw [Option.isSome_iff_ne_none]
    intro hnone
    refine hnot ⟨r, hr, ?_⟩
    rw [hnone]
    exact List.mem_singleton_self _
  obtain ⟨text, htext⟩ := isSome_text?_flatten hall
  rw [flatten_runs, ← text?_eq_some_iff, h] at htext
  cases htext

end StructuralGrading.OsText
