/-!
# The arithmetic of scores

Every score is computed by one of the formulas below, in the order of operations in which they
are written.  They are stated for any type of numbers: grading runs them on `Float`, where each
operation rounds, and their laws can be stated where arithmetic is exact.
-/

namespace StructuralGrading

/-- A whole number as a double. -/
instance natCastFloat : NatCast Float := ⟨Float.ofNat⟩

namespace Score

section formulas

variable {α : Type} [Add α] [Sub α] [Mul α] [Div α] [Neg α] [NatCast α]
variable [OfNat α 0] [OfNat α 1] [OfNat α 100]

/-- The sum of a list, from left to right.  It starts at minus zero, so the sum of nothing is
minus zero where numbers have one. -/
def sum (xs : List α) : α := xs.foldl (· + ·) (-0)

/-- The share of `total` things that are matched.  Of no things at all, no share is matched. -/
def ratio (matched total : Nat) : α := (matched : α) / ((max total 1 : Nat) : α)

/-- Two similarities, each with its weight. -/
def blend (nodeWeight edgeWeight nodes edges : α) : α := nodeWeight * nodes + edgeWeight * edges

/-- A similarity as a percentage. -/
def similarityPercent (similarity : α) : α := similarity * 100

/-- The part of the possible points that is earned, as a percentage; zero if none can be. -/
def percent [LT α] [DecidableLT α] (earned possible : α) : α :=
  if 0 < possible then earned / possible * 100 else 0

/-- The final score on a scale to 100: `share` of it comes from the similarity, the rest from the
percentage of points. -/
def final (share similarity pointPercent : α) : α :=
  share * similarity * 100 + (1 - share) * pointPercent

end formulas

end Score

end StructuralGrading
