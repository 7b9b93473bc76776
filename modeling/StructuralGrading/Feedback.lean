import StructuralGrading.Comparison

/-!
# Feedback

A comparison as text for the student: a section for each of the four differences that is not
empty, in a fixed order, each a heading and one bullet for every member.  An exact match gives
the empty text.
-/

namespace StructuralGrading

namespace Feedback

/-- The sections of a feedback, in order. -/
inductive Topic where
  | missingConcepts
  | extraConcepts
  | missingRelationships
  | extraRelationships
  deriving DecidableEq, Repr

namespace Topic

/-- The first line of a section. -/
def heading : Topic → String
  | missingConcepts => "The following concepts are missing from your code:"
  | extraConcepts => "Your code includes unnecessary or incorrect concepts:"
  | missingRelationships => "The following relationships between concepts are missing:"
  | extraRelationships => "Your code includes unnecessary or incorrect relationships:"

/-- All topics, in the order of their sections. -/
def all : List Topic := [missingConcepts, extraConcepts, missingRelationships, extraRelationships]

end Topic

/-- A concept with its line, where it has one. -/
def placed (place : String) (line? : Option Nat) (c : Concept) : String :=
  match line? with
  | some line => c.label ++ " (" ++ place ++ " " ++ toString line ++ ")"
  | none => c.label

/-- The concepts at the ends of an edge. -/
def related (r : Relationship) : String := r.source.label ++ " → " ++ r.target.label

/-- What the section on a topic lists. -/
def items (c : Comparison) : Topic → List String
  | .missingConcepts =>
    c.missingNodes.map fun p => placed "reference line" (c.missingLine? p.id) p.concept
  | .extraConcepts => c.extraNodes.map fun p => placed "line" (c.extraLine? p.id) p.concept
  | .missingRelationships => c.missingEdges.map related
  | .extraRelationships => c.extraEdges.map related

/-- An item as it is listed. -/
def bullet (item : String) : String := "  - " ++ item

/-- The text of a section: its heading, and below it a line for each item.  There is no section if
nothing would stand below the heading. -/
def sectionText? (topic : Topic) (listed : List String) : Option String :=
  let below := "\n".intercalate (listed.map bullet)
  if below.isEmpty then none else some (topic.heading ++ "\n" ++ below)

/-- The feedback on a comparison: its sections, one below the other. -/
def render (c : Comparison) : String :=
  "\n".intercalate (Topic.all.filterMap fun t => sectionText? t (items c t))

end Feedback

end StructuralGrading
