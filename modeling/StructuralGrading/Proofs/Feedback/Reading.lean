import Mathlib.Algebra.GroupWithZero.Nat
import Mathlib.Data.List.Nodup
import Mathlib.Data.List.TakeWhile
import StructuralGrading.Feedback
import StructuralGrading.Proofs.Concept.Placewise

/-! # Reading a feedback

A feedback tells everything that a comparison found, and what it tells can be read back.  Its text
is put together from sections and these from bullets, with the same line break in both places; all
the same, its lines show which section a bullet is from, because no bullet looks like a heading.

* `Feedback.lines`: the headings and the bullets, section by section;
* `Feedback.render_eq`: the text is these lines, one below the other;
* `Feedback.under`, `Feedback.readBullets`: the bullets below a heading, among lines and in a text;
* `Feedback.under_sections`: the bullets of each section are found below its heading;
* `Feedback.oneLine_of_mem_lines`: no line breaks, if no name of a function does;
* `Feedback.render_faithful`: all of this for the feedback on two graphs. -/

namespace StructuralGrading

/-! ### Lines of a text -/

namespace Text

/-- What stands between the line breaks of a text. -/
def splitLines (s : String) : List String := (s.split '\n').toList.map (·.copy)

/-- A text without line breaks. -/
def OneLine (s : String) : Prop := '\n' ∉ s.toList

instance (s : String) : Decidable (OneLine s) := inferInstanceAs (Decidable ('\n' ∉ s.toList))

variable {s t : String}

theorem OneLine.append (hs : OneLine s) (ht : OneLine t) : OneLine (s ++ t) := by
  unfold OneLine at *
  simp [hs, ht]

theorem oneLine_toString (n : Nat) : OneLine (toString n) := by
  intro h
  have hdigit := Nat.isDigit_of_mem_toDigits (by omega) (by omega) (Nat.toList_repr ▸ h)
  exact absurd hdigit (by decide)

theorem splitLines_intercalate {ls : List String} (h : ∀ l ∈ ls, OneLine l) (hne : ls ≠ []) :
    splitLines ("\n".intercalate ls) = ls := by
  have hsplit := String.toList_split_intercalate h
  rwa [if_neg hne] at hsplit

theorem splitLines_empty : splitLines "" = [""] := by
  have hsplit := String.toList_split_intercalate (c := '\n') (l := []) nofun
  rwa [if_pos rfl] at hsplit

theorem intercalate_map_intercalate (sep : String) : ∀ parts : List (List String),
    (∀ part ∈ parts, part ≠ []) →
      sep.intercalate (parts.map sep.intercalate) = sep.intercalate parts.flatten
  | [], _ => rfl
  | [part], _ => by simp
  | part :: next :: parts, h => by
      have hpart : part ≠ [] := h part List.mem_cons_self
      have ih := intercalate_map_intercalate sep (next :: parts) fun p hp =>
        h p (List.mem_cons_of_mem _ hp)
      have hrest : (next :: parts).flatten ≠ [] := by simp [h next (by simp)]
      rw [List.flatten_cons, String.intercalate_append_of_ne_nil hpart hrest, ← ih, List.map_cons,
        String.intercalate_cons_of_ne_nil (by simp)]

theorem intercalate_cons_ne_empty {sep first : String} (h : first ≠ "") (rest : List String) :
    sep.intercalate (first :: rest) ≠ "" := by
  cases rest with
  | nil => simpa using h
  | cons second rest => simp [String.intercalate_cons_cons, h]

end Text

namespace Feedback

/-! ### The lines of a feedback -/

/-- The bullets of a section. -/
def bullets (c : Comparison) (topic : Topic) : List String := (items c topic).map bullet

/-- The heading and the bullets of a section; nothing if there are no bullets. -/
def sectionLines (topic : Topic) (below : List String) : List String :=
  if below = [] then [] else topic.heading :: below

/-- The lines of a feedback, section by section. -/
def lines (c : Comparison) : List String := Topic.all.flatMap fun t => sectionLines t (bullets c t)

theorem heading_ne_empty (t : Topic) : t.heading ≠ "" := by cases t <;> decide

theorem bullet_ne_empty (item : String) : bullet item ≠ "" := by simp [bullet]

theorem heading_injective {t u : Topic} (h : t.heading = u.heading) : t = u := by
  revert h
  cases t <;> cases u <;> decide

theorem bullet_ne_heading (item : String) (t : Topic) : bullet item ≠ t.heading := by
  intro h
  have hbullet : (bullet item).toList.head? = some ' ' := by simp [bullet]
  rw [h] at hbullet
  revert hbullet
  cases t <;> decide

/-- That nothing stands below a heading shows in the text below it. -/
theorem sectionText?_eq (topic : Topic) (listed : List String) :
    sectionText? topic listed =
      if listed = [] then none
      else some ("\n".intercalate (sectionLines topic (listed.map bullet))) := by
  cases listed with
  | nil => rfl
  | cons item listed =>
      have hbelow : ("\n".intercalate (bullet item :: listed.map bullet)).isEmpty = false := by
        simpa using Text.intercalate_cons_ne_empty (bullet_ne_empty item) (listed.map bullet)
      rw [sectionText?, List.map_cons, hbelow, if_neg Bool.false_ne_true, if_neg (by simp),
        sectionLines, if_neg (by simp), String.intercalate_cons_cons]

theorem filterMap_sectionText? (f : Topic → List String) : ∀ ts : List Topic,
    ts.filterMap (fun t => sectionText? t (f t)) =
      ((ts.map fun t => sectionLines t ((f t).map bullet)).filter (· ≠ [])).map "\n".intercalate
  | [] => rfl
  | t :: ts => by
      have ih := filterMap_sectionText? f ts
      rw [List.filterMap_cons, sectionText?_eq, List.map_cons, List.filter_cons, ih]
      by_cases hnone : f t = []
      · simp [hnone, sectionLines]
      · simp [hnone, sectionLines]

theorem render_eq (c : Comparison) : render c = "\n".intercalate (lines c) := by
  rw [render, filterMap_sectionText?, Text.intercalate_map_intercalate,
    List.flatten_filter_ne_nil, lines, List.flatMap_def]
  · rfl
  · intro part hpart
    simpa using (List.mem_filter.mp hpart).2

/-! ### Reading the bullets back -/

/-- The headings of all sections. -/
def headings : List String := Topic.all.map (·.heading)

/-- What stands below the heading of a topic, up to the next heading. -/
def under (topic : Topic) (ls : List String) : List String :=
  (ls.dropWhile (· ≠ topic.heading)).tail.takeWhile (· ∉ headings)

/-- The bullets on a topic in the text of a feedback. -/
def readBullets (text : String) (topic : Topic) : List String := under topic (Text.splitLines text)

theorem heading_mem_headings (t : Topic) : t.heading ∈ headings :=
  List.mem_map_of_mem (by cases t <;> decide)

theorem not_mem_headings_of_mem_bullets {c : Comparison} {t : Topic} {b : String}
    (hb : b ∈ bullets c t) : b ∉ headings := by
  obtain ⟨item, -, rfl⟩ := List.mem_map.mp hb
  simp only [headings, List.mem_map, not_exists, not_and]
  exact fun u _ h => bullet_ne_heading item u h.symm

section under

variable {f : Topic → List String}

theorem takeWhile_sections (f : Topic → List String) : ∀ ts : List Topic,
    (ts.flatMap fun t => sectionLines t (f t)).takeWhile (· ∉ headings) = []
  | [] => rfl
  | t :: ts => by
      rw [List.flatMap_cons]
      by_cases hnone : f t = []
      · simpa [sectionLines, hnone] using takeWhile_sections f ts
      · simp [sectionLines, hnone, heading_mem_headings]

/-- A section on another topic is passed over. -/
theorem dropWhile_sectionLines {t topic : Topic} (hf : ∀ b ∈ f t, b ∉ headings) (hne : t ≠ topic)
    (rest : List String) :
    (sectionLines t (f t) ++ rest).dropWhile (· ≠ topic.heading) =
      rest.dropWhile (· ≠ topic.heading) := by
  apply List.dropWhile_append_of_pos
  intro l hl
  rw [decide_eq_true_eq]
  rintro rfl
  unfold sectionLines at hl
  split at hl
  · cases hl
  · rcases List.mem_cons.mp hl with h | h
    · exact hne (heading_injective h).symm
    · exact hf _ h (heading_mem_headings topic)

theorem under_sections (hf : ∀ t, ∀ b ∈ f t, b ∉ headings) (topic : Topic) : ∀ {ts : List Topic},
    ts.Nodup → under topic (ts.flatMap fun t => sectionLines t (f t)) =
      if topic ∈ ts then f topic else []
  | [], _ => rfl
  | t :: ts, hnodup => by
      obtain ⟨hnot, hnodup⟩ := List.nodup_cons.mp hnodup
      have ih := under_sections hf topic hnodup
      unfold under at ih ⊢
      rw [List.flatMap_cons]
      -- The section is read up to the next heading, and before it others are passed over.
      by_cases hne : t = topic
      · subst hne
        rw [if_neg hnot] at ih
        rw [if_pos List.mem_cons_self]
        by_cases hnone : f t = []
        · simpa [sectionLines, hnone] using ih
        · have hkeep : ∀ b ∈ f t, decide (b ∉ headings) = true := fun b hb =>
            decide_eq_true (hf t b hb)
          rw [sectionLines, if_neg hnone, List.cons_append,
            List.dropWhile_cons_of_neg (by simp), List.tail_cons,
            List.takeWhile_append_of_pos hkeep, takeWhile_sections, List.append_nil]
      · rw [dropWhile_sectionLines (hf t) hne, ih]
        simp [Ne.symm hne]

end under

/-! ### When there is a feedback -/

section lines

variable {c : Comparison}

theorem mem_all (t : Topic) : t ∈ Topic.all := by cases t <;> decide

theorem mem_lines {l : String} (h : l ∈ lines c) :
    (∃ t : Topic, l = t.heading) ∨ ∃ t, l ∈ bullets c t := by
  obtain ⟨t, -, hl⟩ := List.mem_flatMap.mp h
  unfold sectionLines at hl
  split at hl
  · cases hl
  · rcases List.mem_cons.mp hl with rfl | hb
    · exact .inl ⟨t, rfl⟩
    · exact .inr ⟨t, hb⟩

theorem ne_empty_of_mem_lines {l : String} (h : l ∈ lines c) : l ≠ "" := by
  rcases mem_lines h with ⟨t, rfl⟩ | ⟨t, hb⟩
  · exact heading_ne_empty t
  · obtain ⟨item, -, rfl⟩ := List.mem_map.mp hb
    exact bullet_ne_empty item

theorem lines_eq_nil_iff : lines c = [] ↔ ∀ t, bullets c t = [] := by
  unfold lines sectionLines
  rw [List.flatMap_eq_nil_iff]
  constructor
  · intro h t
    have ht := h t (mem_all t)
    split at ht
    · assumption
    · cases ht
  · intro h t _
    rw [if_pos (h t)]

theorem render_eq_empty_iff : render c = "" ↔ lines c = [] := by
  rw [render_eq]
  constructor
  · intro h
    cases hlines : lines c with
    | nil => rfl
    | cons first rest =>
        have hfirst : first ≠ "" := ne_empty_of_mem_lines (c := c) (by simp [hlines])
        rw [hlines] at h
        exact absurd h (Text.intercalate_cons_ne_empty hfirst rest)
  · intro h
    rw [h]
    rfl

theorem length_bullets (c : Comparison) : Topic.all.map (fun t => (bullets c t).length) =
    [c.missingNodes.length, c.extraNodes.length, c.missingEdges.length, c.extraEdges.length] := by
  simp [Topic.all, bullets, items]

theorem isExact_iff_bullets : c.isExact = true ↔ ∀ t, bullets c t = [] := by
  rw [Comparison.isExact_iff]
  constructor
  · rintro ⟨hmissing, hextra, hmissingEdges, hextraEdges⟩ t
    cases t <;> simp [bullets, items, hmissing, hextra, hmissingEdges, hextraEdges]
  · intro h
    have hlength := length_bullets c
    simpa [h, Topic.all, eq_comm] using hlength

theorem length_lines (c : Comparison) : (lines c).length =
    ([c.missingNodes.length, c.extraNodes.length, c.missingEdges.length,
      c.extraEdges.length].map fun n => if n = 0 then 0 else 1 + n).sum := by
  have hsection : ∀ (t : Topic) (below : List String),
      (sectionLines t below).length = if below.length = 0 then 0 else 1 + below.length := by
    intro t below
    cases below <;> simp [sectionLines, Nat.add_comm]
  rw [← length_bullets, lines, List.length_flatMap, List.map_map]
  simp only [hsection]
  rfl

/-- The lines of a feedback are those that its text is split into. -/
theorem splitLines_render (h : ∀ l ∈ lines c, Text.OneLine l) (hne : render c ≠ "") :
    Text.splitLines (render c) = lines c := by
  rw [render_eq]
  exact Text.splitLines_intercalate h fun hnil => hne (render_eq_empty_iff.mpr hnil)

/-- Every section is read back from the text of a feedback, also from the empty one. -/
theorem readBullets_render (h : ∀ l ∈ lines c, Text.OneLine l) (t : Topic) :
    readBullets (render c) t = bullets c t := by
  have hnodup : Topic.all.Nodup := by decide
  have hplain : ∀ t, ∀ b ∈ bullets c t, b ∉ headings := fun _ _ => not_mem_headings_of_mem_bullets
  have hunder := under_sections hplain t hnodup
  rw [if_pos (mem_all t)] at hunder
  by_cases hempty : render c = ""
  · rw [lines_eq_nil_iff.mp (render_eq_empty_iff.mp hempty) t, hempty, readBullets,
      Text.splitLines_empty]
    cases t <;> decide
  · rw [readBullets, splitLines_render h hempty]
    exact hunder

end lines

/-! ### What the bullets show -/

section bullets

variable {g : ConceptGraph}

/-- The bullet shows a placement with its line in a graph. -/
def ShowsLine (g : ConceptGraph) (place : String) (p : Placement) (b : String) : Prop :=
  ∃ line, g.line? p.id = some line ∧
    b = "  - " ++ (p.concept.label ++ " (" ++ place ++ " " ++ toString line ++ ")")

/-- Every placement of a graph has its line there. -/
theorem forall₂_showsLine {ps : List Placement} (hps : ∀ p ∈ ps, p ∈ g.placements)
    (place : String) :
    List.Forall₂ (ShowsLine g place) ps
      ((ps.map fun p => placed place ((Comparison.linesOf g ps).lookup p.id) p.concept).map
        bullet) := by
  rw [List.map_map, List.forall₂_map_right_iff, List.forall₂_same]
  intro p hp
  obtain ⟨line, hline⟩ := Option.isSome_iff_exists.mp (ConceptGraph.line?_isSome_of_mem (hps p hp))
  refine ⟨line, hline, ?_⟩
  rw [Function.comp_apply, Comparison.lookup_linesOf_of_mem hp, hline]
  rfl

end bullets

/-! ### Where a line can break -/

end Feedback

/-- The concept is no function whose name breaks a line. -/
def Concept.IsOneLine : Concept → Prop
  | .function name => Text.OneLine name
  | _ => True

instance : ∀ c : Concept, Decidable c.IsOneLine
  | .function name => inferInstanceAs (Decidable (Text.OneLine name))
  | .forLoop | .whileLoop | .ifCondition | .conditionalBranch | .general => .isTrue trivial

theorem Concept.IsOneLine.label : ∀ {c : Concept}, c.IsOneLine → Text.OneLine c.label
  | .function _, h => .append (by decide) h
  | .forLoop, _ | .whileLoop, _ | .ifCondition, _ | .conditionalBranch, _ | .general, _ => by
      decide

namespace Feedback

section graphs

open Comparison (compare lacking mem_lacking)

variable {weights : Weights Float} {student reference g : ConceptGraph}

theorem oneLine_placed {place : String} (hplace : Text.OneLine place) {c : Concept}
    (hc : c.IsOneLine) : ∀ line? : Option Nat, Text.OneLine (placed place line? c)
  | none => hc.label
  | some line => by
      have hopen : Text.OneLine " (" := by decide
      have hblank : Text.OneLine " " := by decide
      have hclose : Text.OneLine ")" := by decide
      exact ((((hc.label.append hopen).append hplace).append hblank).append
        (Text.oneLine_toString line)).append hclose

theorem oneLine_related {r : Relationship} (hsource : r.source.IsOneLine)
    (htarget : r.target.IsOneLine) : Text.OneLine (related r) :=
  (hsource.label.append (by decide)).append htarget.label

/-- A line of the feedback on two graphs breaks only in the name of a function. -/
theorem oneLine_of_mem_lines (hs : ∀ x ∈ student.concepts, x.IsOneLine)
    (hr : ∀ x ∈ reference.concepts, x.IsOneLine) :
    ∀ l ∈ lines (compare weights student reference), Text.OneLine l := by
  have hplaced : ∀ {these others : ConceptGraph}, (∀ x ∈ these.concepts, x.IsOneLine) →
      ∀ p ∈ lacking these.placements others.placements, p.concept.IsOneLine := fun h p hp =>
    h _ (ConceptGraph.concept_mem_of_mem_placements (mem_lacking.mp hp).1)
  have hrelated : ∀ {these others : ConceptGraph}, (∀ x ∈ these.concepts, x.IsOneLine) →
      ∀ r ∈ lacking these.relationships others.relationships, Text.OneLine (related r) :=
    fun h r hr =>
      have hends := ConceptGraph.ends_mem_of_mem_relationships (mem_lacking.mp hr).1
      oneLine_related (h _ hends.1) (h _ hends.2)
  have hitems : ∀ t, ∀ item ∈ items (compare weights student reference) t, Text.OneLine item := by
    intro t item hitem
    cases t <;> obtain ⟨x, hx, rfl⟩ := List.mem_map.mp hitem
    case missingConcepts => exact oneLine_placed (by decide) (hplaced hr x hx) _
    case extraConcepts => exact oneLine_placed (by decide) (hplaced hs x hx) _
    case missingRelationships => exact hrelated hr x hx
    case extraRelationships => exact hrelated hs x hx
  intro l hl
  rcases mem_lines hl with ⟨t, rfl⟩ | ⟨t, hb⟩
  · cases t <;> decide
  · obtain ⟨item, hitem, rfl⟩ := List.mem_map.mp hb
    exact .append (by decide) (hitems t item hitem)

/-- **A feedback tells what was found.**  The feedback on any two graphs is empty if and only if
they do not differ.  Every missing concept is shown with its line in the reference, every extra one
with its line in the student's graph, and every relationship by its ends.  If no name of a function
breaks a line, the text is split into a heading and the bullets of each section, in order and
without the sections that have none, so many lines as this makes; no bullet is a heading; and the
bullets of every section are read back from the text alone. -/
theorem render_faithful (weights : Weights Float) (student reference : ConceptGraph) :
    let c := compare weights student reference
    (render c = "" ↔ c.isExact = true) ∧
    List.Forall₂ (ShowsLine reference "reference line") c.missingNodes
      (bullets c .missingConcepts) ∧
    List.Forall₂ (ShowsLine student "line") c.extraNodes (bullets c .extraConcepts) ∧
    bullets c .missingRelationships = c.missingEdges.map (fun r => "  - " ++ related r) ∧
    bullets c .extraRelationships = c.extraEdges.map (fun r => "  - " ++ related r) ∧
    ((∀ x ∈ student.concepts, x.IsOneLine) → (∀ x ∈ reference.concepts, x.IsOneLine) →
      (render c ≠ "" →
        Text.splitLines (render c) = Topic.all.flatMap (fun t => sectionLines t (bullets c t)) ∧
        (Text.splitLines (render c)).length =
          ([c.missingNodes.length, c.extraNodes.length, c.missingEdges.length,
            c.extraEdges.length].map fun n => if n = 0 then 0 else 1 + n).sum) ∧
      (∀ t u : Topic, ∀ b ∈ bullets c t, b ≠ u.heading) ∧
      ∀ t, readBullets (render c) t = bullets c t) := by
  refine ⟨?_, ?_, ?_, List.map_map, List.map_map, fun hs hr => ⟨fun hne => ?_, ?_, ?_⟩⟩
  · rw [render_eq_empty_iff, lines_eq_nil_iff, isExact_iff_bullets]
  · exact forall₂_showsLine (fun p hp => (mem_lacking.mp hp).1) _
  · exact forall₂_showsLine (fun p hp => (mem_lacking.mp hp).1) _
  · have hsplit := splitLines_render (oneLine_of_mem_lines hs hr) hne
    exact ⟨hsplit, by rw [hsplit, length_lines]⟩
  · intro t u b hb
    obtain ⟨item, -, rfl⟩ := List.mem_map.mp hb
    exact bullet_ne_heading item u
  · exact readBullets_render (oneLine_of_mem_lines hs hr)

/-- A function that repeats something. -/
def looping : ConceptGraph := ⟨[⟨.function "f", 1⟩, ⟨.forLoop, 2⟩], [(0, 1), (1, 1)]⟩

/-- A function that does it once. -/
def plain : ConceptGraph := ⟨[⟨.function "f", 4⟩], []⟩

/-- The lack of a loop is told in two sections, of two and of three lines. -/
theorem render_faithful_plain :
    (∀ x ∈ plain.concepts, x.IsOneLine) ∧ (∀ x ∈ looping.concepts, x.IsOneLine) ∧
    Text.splitLines (render (compare .standard plain looping)) =
      ["The following concepts are missing from your code:",
        "  - Concept: For Loop (reference line 2)",
        "The following relationships between concepts are missing:",
        "  - Function: f → Concept: For Loop",
        "  - Concept: For Loop → Concept: For Loop"] ∧
    readBullets (render (compare .standard plain looping)) .missingConcepts =
      ["  - Concept: For Loop (reference line 2)"] ∧
    readBullets (render (compare .standard plain looping)) .extraConcepts = [] := by
  have hplain : ∀ x ∈ plain.concepts, x.IsOneLine := by decide
  have hlooping : ∀ x ∈ looping.concepts, x.IsOneLine := by decide
  obtain ⟨hempty, -, -, -, -, hread⟩ := render_faithful .standard plain looping
  obtain ⟨hsplit, -, hback⟩ := hread hplain hlooping
  have hne : render (compare .standard plain looping) ≠ "" := by
    rw [Ne, hempty]
    decide
  refine ⟨hplain, hlooping, (hsplit hne).1.trans ?_, (hback _).trans ?_, (hback _).trans ?_⟩
  · decide +kernel
  · decide +kernel
  · decide +kernel

end graphs

end Feedback

end StructuralGrading
