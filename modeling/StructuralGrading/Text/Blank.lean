/-!
# White space

The white space of Unicode (property `White_Space`), and text without the white space at its
ends.  Byte order marks and zero-width spaces do not have the property.

`trim_of_ends` says that text which neither starts nor ends with white space is kept.
-/

namespace StructuralGrading.Text

/-- The characters with the Unicode property `White_Space`. -/
def isBlank (c : Char) : Bool :=
  let n := c.toNat
  (0x09 ≤ n && n ≤ 0x0D) || n == 0x20 || n == 0x85 || n == 0xA0 || n == 0x1680 ||
    (0x2000 ≤ n && n ≤ 0x200A) || n == 0x2028 || n == 0x2029 || n == 0x202F || n == 0x205F ||
    n == 0x3000

/-- Leaves out the white space at the start. -/
def dropBlank (cs : List Char) : List Char := cs.dropWhile isBlank

/-- Leaves out the white space at the end. -/
def dropBlankEnd (cs : List Char) : List Char := (dropBlank cs.reverse).reverse

/-- Leaves out the white space at both ends. -/
def trimChars (cs : List Char) : List Char := dropBlankEnd (dropBlank cs)

/-- Text without the white space at its ends. -/
def trim (s : String) : String := String.ofList (trimChars s.toList)

theorem dropBlank_of_head {cs : List Char} (h : ∀ c ∈ cs.head?, isBlank c = false) :
    dropBlank cs = cs := by
  cases cs with
  | nil => rfl
  | cons c cs => simp [dropBlank, h c (by simp)]

theorem trim_of_ends {cs : List Char} (first : ∀ c ∈ cs.head?, isBlank c = false)
    (last : ∀ c ∈ cs.getLast?, isBlank c = false) : trimChars cs = cs := by
  rw [trimChars, dropBlank_of_head first, dropBlankEnd, dropBlank_of_head (by simpa using last),
    List.reverse_reverse]

end StructuralGrading.Text
