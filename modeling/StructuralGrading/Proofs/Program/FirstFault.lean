import Mathlib.Data.List.Infix
import Mathlib.Data.List.TakeWhile
import StructuralGrading.Program.Check

/-! # The first fault of a program

A program is rejected at its first fault in the order of its nodes, a parent before its children.
Errors of the parser come before statements of the old style, wherever the two lie.

* `Tree.Marked`: the marks of a tree say which of its parts hold an error;
* `Tree.firstError?_eq`: in a marked tree nothing is lost by leaving out the other parts;
* `WrittenAsCall` and `Program.IsOutdated`: what makes a statement one of the old style;
* `Program.check_first_fault`: what the check accepts, and where it rejects. -/

namespace StructuralGrading

/-- `x` is the first member of a list with a property. -/
def IsFirst {α : Type} (P : α → Prop) (xs : List α) (x : α) : Prop :=
  ∃ before after, xs = before ++ x :: after ∧ P x ∧ ∀ y ∈ before, ¬ P y

theorem IsFirst.find?_eq {α : Type} {P : α → Prop} {p : α → Bool} {xs : List α} {x : α}
    (h : IsFirst P xs x) (hp : ∀ y, p y = true ↔ P y) : xs.find? p = some x := by
  obtain ⟨before, after, rfl, hx, hbefore⟩ := h
  rw [List.find?_eq_some_iff_append]
  refine ⟨(hp x).mpr hx, before, after, rfl, ?_⟩
  intro y hy
  have hy' : p y ≠ true := fun h => hbefore y hy ((hp y).mp h)
  simpa using hy'

/-! ### Errors of the parser -/

namespace Tree

/-- In every part of the tree, the root is marked if it or a node below is an error or missing, and
only then. -/
inductive Marked : Tree → Prop
  | node {n : Node} {ts : List Tree} :
      (n.hasError = true ↔ ∃ m ∈ (Tree.node n ts).nodes, m.isFault = true) →
      (∀ t ∈ ts, t.Marked) → Marked (.node n ts)

theorem Marked.hasError_iff {t : Tree} (h : t.Marked) :
    t.info.hasError = true ↔ ∃ m ∈ t.nodes, m.isFault = true := by
  cases h with
  | node hn _ => exact hn

theorem Marked.find?_eq_none {t : Tree} (h : t.Marked)
    (hmark : (t.info.hasError || t.info.isMissing) = false) : t.nodes.find? (·.isFault) = none := by
  rw [Bool.or_eq_false_iff] at hmark
  rw [List.find?_eq_none]
  intro m hm hfault
  have hroot := h.hasError_iff.mpr ⟨m, hm, hfault⟩
  rw [hmark.1] at hroot
  cases hroot

mutual

/-- The search that leaves out parts without a mark finds the first error of all. -/
theorem firstError?_eq : ∀ t : Tree, t.Marked → t.firstError? = t.nodes.find? (·.isFault)
  | .node n ts, .node _ hts => by
      rw [firstError?, nodes_node, List.find?_cons, firstErrorIn?_eq ts hts]
      cases n.isFault <;> rfl

theorem firstErrorIn?_eq : ∀ ts : List Tree, (∀ t ∈ ts, t.Marked) →
    firstErrorIn? ts = (ts.map nodes).flatten.find? (·.isFault)
  | [], _ => rfl
  | t :: ts, h => by
      have ht := h t List.mem_cons_self
      have hts := firstErrorIn?_eq ts fun u hu => h u (List.mem_cons_of_mem t hu)
      rw [firstErrorIn?, List.map_cons, List.flatten_cons, List.find?_append, hts,
        firstError?_eq t ht]
      split
      case isTrue => rfl
      case isFalse hmark => rw [ht.find?_eq_none (by simpa using hmark), Option.none_or]

end

theorem Marked.isSome_firstError? {t : Tree} (h : t.Marked) (hroot : t.info.hasError = true) :
    t.firstError?.isSome = true := by
  rw [firstError?_eq t h, List.find?_isSome]
  exact h.hasError_iff.mp hroot

end Tree

/-! ### Statements of the old style -/

/-- After the word there is white space at most, and then a parenthesis opens. -/
def WrittenAsCall (word text : String) : Prop :=
  ∃ blanks rest : List Char, (∀ c ∈ blanks, Text.isBlank c = true) ∧
    text.toList = word.toList ++ blanks ++ '(' :: rest

theorem Text.head?_dropBlank_eq_iff {c : Char} (hc : isBlank c = false) (cs : List Char) :
    (dropBlank cs).head? = some c ↔
      ∃ blanks rest : List Char, (∀ b ∈ blanks, isBlank b = true) ∧ cs = blanks ++ c :: rest := by
  constructor
  · intro h
    obtain ⟨rest, hrest⟩ := List.head?_eq_some_iff.mp h
    refine ⟨cs.takeWhile isBlank, rest, fun b hb => List.mem_takeWhile_imp hb, ?_⟩
    rw [← hrest]
    exact List.takeWhile_append_dropWhile.symm
  · rintro ⟨blanks, rest, hblanks, rfl⟩
    rw [dropBlank, List.dropWhile_append_of_pos hblanks, List.dropWhile_cons_of_neg]
    · rfl
    · rw [hc]
      exact Bool.false_ne_true

namespace Program

theorem isCall_iff (word text : String) : isCall word text = true ↔ WrittenAsCall word text := by
  unfold isCall WrittenAsCall
  cases h : word.toList.isPrefixOf? text.toList with
  | none =>
      refine ⟨fun hfalse => absurd hfalse Bool.false_ne_true, ?_⟩
      rintro ⟨blanks, rest, -, htext⟩
      have hsome : word.toList.isPrefixOf? text.toList = some (blanks ++ '(' :: rest) := by
        rw [List.isPrefixOf?_eq_some_iff_append_eq, htext, List.append_assoc]
      rw [h] at hsome
      cases hsome
  | some after =>
      rw [List.isPrefixOf?_eq_some_iff_append_eq] at h
      show ((Text.dropBlank after).head? == some '(') = true ↔ _
      rw [beq_iff_eq, Text.head?_dropBlank_eq_iff (by decide)]
      constructor
      · rintro ⟨blanks, rest, hblanks, rfl⟩
        exact ⟨blanks, rest, hblanks, by rw [← h, List.append_assoc]⟩
      · rintro ⟨blanks, rest, hblanks, htext⟩
        rw [← h, List.append_assoc] at htext
        exact ⟨blanks, rest, hblanks, List.append_cancel_left htext⟩

/-- A `print` or `exec` statement that is not written as a call. -/
def IsOutdated (p : Program) (n : Node) : Prop :=
  (n.kind = "print_statement" ∧ ¬ WrittenAsCall "print" (p.text n)) ∨
  (n.kind = "exec_statement" ∧ ¬ WrittenAsCall "exec" (p.text n))

theorem isOldStyle_iff (p : Program) (n : Node) : p.isOldStyle n = true ↔ p.IsOutdated n := by
  have hkinds : "exec_statement" ≠ "print_statement" := by decide
  unfold isOldStyle IsOutdated Node.oldKeyword?
  by_cases hprint : n.kind = "print_statement"
  · simp [hprint, ← isCall_iff, hkinds.symm]
  · by_cases hexec : n.kind = "exec_statement"
    · simp [hexec, ← isCall_iff, hkinds]
    · simp [hprint, hexec]

mutual

theorem firstOldStyle?_eq : ∀ (p : Program) (t : Tree),
    p.firstOldStyle? t = t.nodes.find? p.isOldStyle
  | p, .node n ts => by
      rw [firstOldStyle?, Tree.nodes_node, List.find?_cons, firstOldStyleIn?_eq p ts]
      cases p.isOldStyle n <;> rfl

theorem firstOldStyleIn?_eq : ∀ (p : Program) (ts : List Tree),
    p.firstOldStyleIn? ts = (ts.map Tree.nodes).flatten.find? p.isOldStyle
  | _, [] => rfl
  | p, t :: ts => by
      rw [firstOldStyleIn?, List.map_cons, List.flatten_cons, List.find?_append,
        firstOldStyle?_eq p t, firstOldStyleIn?_eq p ts]

end

/-! ### The check -/

variable {p : Program}

/-- The node at which a program is rejected is the first error or, without one, the first statement
of the old style. -/
theorem faultyNode?_eq (h : p.tree.Marked) :
    p.faultyNode? = (p.tree.nodes.find? (·.isFault)).or (p.tree.nodes.find? p.isOldStyle) := by
  rw [faultyNode?, ← Tree.firstError?_eq p.tree h, firstOldStyle?_eq]
  split
  case isTrue hroot =>
    obtain ⟨n, hn⟩ := Option.isSome_iff_exists.mp (h.isSome_firstError? hroot)
    rw [hn]
    rfl
  case isFalse hroot =>
    have hnone : p.tree.firstError? = none := by
      rw [Tree.firstError?_eq p.tree h, List.find?_eq_none]
      intro n hn hfault
      exact hroot (h.hasError_iff.mpr ⟨n, hn, hfault⟩)
    rw [hnone, Option.none_or]

theorem check_eq_ok_iff : p.check = .ok () ↔ p.faultyNode? = none := by
  rw [check]
  cases p.faultyNode? with
  | none => exact ⟨fun _ => rfl, fun _ => rfl⟩
  | some n => exact ⟨nofun, nofun⟩

theorem check_of_faultyNode? {n : Node} (h : p.faultyNode? = some n) :
    p.check = .error ⟨n.row + 1, n.column + 1⟩ := by
  rw [check, h]
  rfl

/-- **The check reports the first fault.**  A program is accepted if and only if it has neither an
error nor a statement of the old style.  It is rejected where its first error starts or, without
errors, where its first statement of the old style starts.  The search for errors finds the first
one of all nodes, and it finds one if the root is marked. -/
theorem check_first_fault (p : Program) (h : p.tree.Marked) :
    (p.check = .ok () ↔ ∀ n ∈ p.tree.nodes, n.isFault = false ∧ ¬ p.IsOutdated n) ∧
    (∀ n, IsFirst (fun m : Node => m.isFault = true) p.tree.nodes n →
      p.check = .error ⟨n.row + 1, n.column + 1⟩) ∧
    (∀ n, (∀ m ∈ p.tree.nodes, m.isFault = false) → IsFirst p.IsOutdated p.tree.nodes n →
      p.check = .error ⟨n.row + 1, n.column + 1⟩) ∧
    p.tree.firstError? = p.tree.nodes.find? (·.isFault) ∧
    (p.tree.info.hasError = true → p.tree.firstError?.isSome = true) := by
  refine ⟨?_, ?_, ?_, Tree.firstError?_eq p.tree h, h.isSome_firstError?⟩
  · rw [check_eq_ok_iff, faultyNode?_eq h, Option.or_eq_none_iff, List.find?_eq_none,
      List.find?_eq_none]
    constructor
    · rintro ⟨hfault, hold⟩ n hn
      have hn' := hfault n hn
      exact ⟨by simpa using hn', fun ho => hold n hn ((isOldStyle_iff p n).mpr ho)⟩
    · intro hall
      refine ⟨?_, fun n hn ho => (hall n hn).2 ((isOldStyle_iff p n).mp ho)⟩
      intro n hn hfault
      rw [(hall n hn).1] at hfault
      cases hfault
  · intro n hn
    apply check_of_faultyNode?
    rw [faultyNode?_eq h, hn.find?_eq fun _ => Iff.rfl, Option.some_or]
  · intro n hnone hn
    have hfault : p.tree.nodes.find? (·.isFault) = none := by
      rw [List.find?_eq_none]
      intro m hm
      rw [hnone m hm]
      exact Bool.false_ne_true
    apply check_of_faultyNode?
    rw [faultyNode?_eq h, hfault, Option.none_or, hn.find?_eq (isOldStyle_iff p)]

/-! ### An old statement before an error, and one after a call -/

/-- The second `=` of an assignment with two. -/
def strayEquals : Node := ⟨"ERROR", none, true, true, false, true, 1, 4, 12, 13⟩

/-- An old statement, and after it an assignment that cannot be read. -/
def oldThenBroken : Program :=
  ⟨"print 1\nx = = 2\n",
    .node ⟨"module", none, true, false, false, true, 0, 0, 0, 16⟩
      [.node ⟨"print_statement", none, true, false, false, false, 0, 0, 0, 7⟩
        [.node ⟨"integer", some "argument", true, false, false, false, 0, 6, 6, 7⟩ []],
      .node ⟨"assignment", none, true, false, false, true, 1, 0, 8, 15⟩
        [.node ⟨"identifier", some "left", true, false, false, false, 1, 0, 8, 9⟩ [],
          .node strayEquals [],
          .node ⟨"integer", some "right", true, false, false, false, 1, 6, 14, 15⟩ []]]⟩

def oldExec : Node := ⟨"exec_statement", none, true, false, false, false, 1, 0, 13, 21⟩

/-- A statement that is written as a call, and after it an old one. -/
def callThenOld : Program :=
  ⟨"print (1), 2\nexec 'a'\n",
    .node ⟨"module", none, true, false, false, false, 0, 0, 0, 22⟩
      [.node ⟨"print_statement", none, true, false, false, false, 0, 0, 0, 12⟩ [],
        .node oldExec []]⟩

theorem marked_leaf {n : Node} (h : n.hasError = n.isFault) : (Tree.node n []).Marked := by
  refine .node ?_ (fun t ht => absurd ht List.not_mem_nil)
  simp [Tree.nodes_node, h]

theorem marked_oldThenBroken : oldThenBroken.tree.Marked := by
  refine .node (by decide) (List.forall_mem_cons.mpr ⟨?_, List.forall_mem_singleton.mpr ?_⟩)
  · exact .node (by decide) (List.forall_mem_singleton.mpr (marked_leaf rfl))
  · refine .node (by decide) (List.forall_mem_cons.mpr ⟨marked_leaf rfl, ?_⟩)
    exact List.forall_mem_cons.mpr
      ⟨marked_leaf rfl, List.forall_mem_singleton.mpr (marked_leaf rfl)⟩

theorem marked_callThenOld : callThenOld.tree.Marked :=
  .node (by decide) (List.forall_mem_cons.mpr
    ⟨marked_leaf rfl, List.forall_mem_singleton.mpr (marked_leaf rfl)⟩)

/-- The error comes before the statement that stands before it, and a call is no fault. -/
theorem check_first_fault_later :
    oldThenBroken.tree.Marked ∧ oldThenBroken.check = .error ⟨2, 5⟩ ∧
      callThenOld.tree.Marked ∧ callThenOld.check = .error ⟨2, 1⟩ := by
  have hstray : IsFirst (fun m : Node => m.isFault = true) oldThenBroken.tree.nodes strayEquals :=
    ⟨oldThenBroken.tree.nodes.take 5, oldThenBroken.tree.nodes.drop 6, rfl, rfl, by decide⟩
  have hcall : ∀ n ∈ callThenOld.tree.nodes.take 2, callThenOld.isOldStyle n = false := by decide
  have hexec : IsFirst callThenOld.IsOutdated callThenOld.tree.nodes oldExec := by
    refine ⟨callThenOld.tree.nodes.take 2, [], rfl, ?_, ?_⟩
    · rw [← isOldStyle_iff]
      decide
    · intro n hn
      rw [← isOldStyle_iff, hcall n hn]
      exact Bool.false_ne_true
  exact ⟨marked_oldThenBroken,
    (check_first_fault oldThenBroken marked_oldThenBroken).2.1 strayEquals hstray,
    marked_callThenOld,
    (check_first_fault callThenOld marked_callThenOld).2.2.1 oldExec (by decide) hexec⟩

end Program

end StructuralGrading
