/-!
# Ranges of characters

Classes of characters given by tables of code point ranges.
-/

namespace StructuralGrading.Text

/-- The first and the last code point of each range. -/
abbrev Ranges := List (Nat × Nat)

/-- Whether a character lies in one of the ranges. -/
def Ranges.has (rs : Ranges) (c : Char) : Bool :=
  rs.any fun r => r.1 ≤ c.toNat && c.toNat ≤ r.2

end StructuralGrading.Text
