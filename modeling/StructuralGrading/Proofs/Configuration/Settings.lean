import StructuralGrading.Configuration
import StructuralGrading.Proofs.Decimal.Value
import StructuralGrading.Proofs.Store.Access
import StructuralGrading.Proofs.Text.Parts

/-! # Configurations from settings

Each setting is looked up on its own, and sets one part of a configuration.  White space around its
value does not count, and a blank value is like none.

* `SameValue`: two values that make no difference; `Setting.value?_congr`;
* `Setting.Refuses`: what is wrong with a weight that is no number between zero and one;
* `Configuration.ofLookup_eq_error_iff`: when reading the settings fails, and how;
* `Configuration.IsGivenBy`: what each part of a configuration is, by its own setting;
* `Configuration.ofLookup_fieldwise`: reading fails for a refused weight only, and otherwise gives
  every part by its own setting. -/

namespace StructuralGrading

/-! ### Values of settings -/

/-- Two values of a setting that differ only in the white space around them.  Not to be set at all
is like being set to the empty text. -/
def SameValue (a b : Option String) : Prop :=
  ∃ core, Text.Pads core (a.getD "") ∧ Text.Pads core (b.getD "")

theorem sameValue_iff {a b : Option String} :
    SameValue a b ↔ Text.trim (a.getD "") = Text.trim (b.getD "") := by
  constructor
  · rintro ⟨core, ha, hb⟩
    rw [ha.trim_eq, hb.trim_eq]
  · intro h
    exact ⟨Text.trim (a.getD ""), Text.pads_trim _, h ▸ Text.pads_trim _⟩

instance (a b : Option String) : Decidable (SameValue a b) := decidable_of_iff _ sameValue_iff.symm

namespace Setting

variable {lookup other : String → Option String} {setting : Setting}

theorem value?_eq (lookup : String → Option String) (setting : Setting) :
    value? lookup setting =
      (some (Text.trim ((lookup setting.name).getD ""))).filter (· ≠ "") := by
  unfold value?
  cases lookup setting.name with
  | none => rfl
  | some text => rfl

/-- Values that make no difference are the same without the white space around them. -/
theorem value?_congr (h : SameValue (lookup setting.name) (other setting.name)) :
    value? lookup setting = value? other setting := by
  rw [value?_eq, value?_eq, sameValue_iff.mp h]

theorem value?_eq_some_iff {text : String} : value? lookup setting = some text ↔
    ∃ raw, lookup setting.name = some raw ∧ Text.trim raw = text ∧ text ≠ "" := by
  simp only [value?, Option.filter_eq_some_iff, Option.map_eq_some_iff, decide_eq_true_eq]
  constructor
  · rintro ⟨⟨raw, hraw, rfl⟩, hne⟩
    exact ⟨raw, hraw, rfl, hne⟩
  · rintro ⟨raw, hraw, rfl, hne⟩
    exact ⟨⟨raw, hraw, rfl⟩, hne⟩

/-! ### Weights that are refused -/

/-- What is wrong with the text of a weight: it is no number, or none between zero and one. -/
inductive Refuses (setting : Setting) (text : String) : SettingFault → Prop
  | notNumber : Decimal.read? text = none → Refuses setting text (.notNumber setting text)
  | outOfRange {x : Float} : Decimal.read? text = some x → x.isNaN = true ∨ x < 0 ∨ 1 < x →
      Refuses setting text (.outOfRange setting x)

/-- A setting is set, and its text is refused. -/
def Faulted (lookup : String → Option String) (setting : Setting) (fault : SettingFault) : Prop :=
  ∃ text, value? lookup setting = some text ∧ setting.Refuses text fault

/-- The doubles beyond the range from zero to one. -/
theorem not_fraction_iff {x : Float} : ¬ (0 ≤ x ∧ x ≤ 1) ↔ x.isNaN = true ∨ x < 0 ∨ 1 < x := by
  have hzero : (0 : Float).isNaN = false := rfl
  have hone : (1 : Float).isNaN = false := rfl
  rw [not_and_or, Decimal.not_le_iff, Decimal.not_le_iff, hzero, hone]
  tauto

theorem fraction_eq_error_iff {text : String} {fault : SettingFault} :
    setting.fraction text = .error fault ↔ setting.Refuses text fault := by
  constructor
  · intro h
    unfold fraction at h
    split at h
    · rename_i hread
      cases h
      exact .notNumber hread
    · rename_i x hread
      split at h
      · cases h
      · rename_i hrange
        cases h
        exact .outOfRange hread (not_fraction_iff.mp hrange)
  · rintro (hread | ⟨hread, hrange⟩)
    · simp only [fraction, hread]
    · simp only [fraction, hread, if_neg (not_fraction_iff.mpr hrange)]

theorem fraction_eq_ok_iff {text : String} {x : Float} :
    setting.fraction text = .ok x ↔ Decimal.read? text = some x ∧ 0 ≤ x ∧ x ≤ 1 := by
  unfold fraction
  constructor
  · intro h
    split at h
    · cases h
    · rename_i y hread
      split at h
      · rename_i hrange
        cases h
        exact ⟨hread, hrange⟩
      · cases h
  · rintro ⟨hread, hrange⟩
    rw [hread]
    exact if_pos hrange

end Setting

namespace Configuration

open Setting (value? Refuses Faulted)

variable {lookup other : String → Option String} {c d : Configuration}

/-! ### Reading weights -/

/-- What the value of a weight makes of one part of a configuration: the part that `part` gives for
the number, and the default if there is no value. -/
inductive FromFraction {α : Type} (text? : Option String) (default : α) (part : Float → α) :
    α → Prop
  | unset : text? = none → FromFraction text? default part default
  | set {text : String} {x : Float} : text? = some text → Decimal.read? text = some x → 0 ≤ x →
      x ≤ 1 → FromFraction text? default part (part x)

/-- Reads the part of a configuration that a weight gives. -/
def fractionOr {α : Type} (setting : Setting) (default : α) (part : Float → α) :
    Option String → Except SettingFault α
  | none => .ok default
  | some text => (setting.fraction text).map part

theorem weightsOf_eq (text? : Option String) : weightsOf text? =
    fractionOr .nodeWeight standard.weights (fun x => ⟨x, 1 - x⟩) text? := by
  cases text? with
  | none => rfl
  | some text => rfl

theorem shareOf_eq (text? : Option String) :
    shareOf text? = fractionOr .similarityShare standard.share id text? := by
  cases text? with
  | none => rfl
  | some text =>
      rw [shareOf, fractionOr]
      cases Setting.fraction .similarityShare text with
      | error fault => rfl
      | ok x => rfl

section fraction

variable {α : Type} {setting : Setting} {default : α} {part : Float → α} {text? : Option String}

theorem fractionOr_eq_error_iff {fault : SettingFault} :
    fractionOr setting default part text? = .error fault ↔
      ∃ text, text? = some text ∧ setting.Refuses text fault := by
  cases text? with
  | none => simp [fractionOr]
  | some text =>
      rw [fractionOr]
      cases hread : setting.fraction text with
      | error f => simp [← Setting.fraction_eq_error_iff, hread, Except.map]
      | ok x => simp [← Setting.fraction_eq_error_iff, hread, Except.map]

theorem fractionOr_eq_ok_iff {a : α} :
    fractionOr setting default part text? = .ok a ↔ FromFraction text? default part a := by
  constructor
  · intro h
    cases text? with
    | none =>
        cases h
        exact .unset rfl
    | some text =>
        rw [fractionOr] at h
        cases hx : setting.fraction text with
        | error fault =>
            rw [hx] at h
            cases h
        | ok x =>
            obtain ⟨hread, h0, h1⟩ := Setting.fraction_eq_ok_iff.mp hx
            rw [hx] at h
            cases h
            exact .set rfl hread h0 h1
  · rintro (rfl | ⟨rfl, hread, h0, h1⟩)
    · rfl
    · rw [fractionOr, Setting.fraction_eq_ok_iff.mpr ⟨hread, h0, h1⟩]
      rfl

theorem FromFraction.unique {a b : α} (ha : FromFraction text? default part a)
    (hb : FromFraction text? default part b) : a = b := by
  have hread : fractionOr .nodeWeight default part text? = .ok a := fractionOr_eq_ok_iff.mpr ha
  have hread' : fractionOr .nodeWeight default part text? = .ok b := fractionOr_eq_ok_iff.mpr hb
  exact Except.ok.inj (hread.symm.trans hread')

theorem FromFraction.eq_or {a : α} (h : FromFraction text? default part a) :
    a = default ∨ ∃ x, 0 ≤ x ∧ x ≤ 1 ∧ a = part x := by
  cases h with
  | unset => exact .inl rfl
  | @set _ x _ _ h0 h1 => exact .inr ⟨x, h0, h1, rfl⟩

end fraction

theorem weightsOf_eq_error_iff {fault : SettingFault} :
    weightsOf (value? lookup .nodeWeight) = .error fault ↔ Faulted lookup .nodeWeight fault := by
  rw [weightsOf_eq]
  exact fractionOr_eq_error_iff

theorem weightsOf_eq_ok_iff {text? : Option String} {w : Weights Float} : weightsOf text? = .ok w ↔
    FromFraction text? standard.weights (fun x => ⟨x, 1 - x⟩) w := by
  rw [weightsOf_eq]
  exact fractionOr_eq_ok_iff

theorem shareOf_eq_error_iff {fault : SettingFault} :
    shareOf (value? lookup .similarityShare) = .error fault ↔
      Faulted lookup .similarityShare fault := by
  rw [shareOf_eq]
  exact fractionOr_eq_error_iff

theorem shareOf_eq_ok_iff {text? : Option String} {x : Float} :
    shareOf text? = .ok x ↔ FromFraction text? standard.share id x := by
  rw [shareOf_eq]
  exact fractionOr_eq_ok_iff

/-! ### Reading all settings -/

/-- Each part of a configuration is what its own setting gives, or the default. -/
structure IsGivenBy (c : Configuration) (lookup : String → Option String) : Prop where
  submissions : c.submissions = ((value? lookup .submissions).map .ofText).getD standard.submissions
  references : c.references = ((value? lookup .references).map .ofText).getD standard.references
  rubrics : c.rubrics = ((value? lookup .rubrics).map .ofText).getD standard.rubrics
  results : c.results = ((value? lookup .results).map .ofText).getD standard.results
  tasks : c.tasks = ((value? lookup .tasks).map taskList).getD standard.tasks
  /-- What the nodes leave of one is the weight of the edges. -/
  weights : FromFraction (value? lookup .nodeWeight) standard.weights (fun x => ⟨x, 1 - x⟩)
    c.weights
  share : FromFraction (value? lookup .similarityShare) standard.share id c.share

/-- Reading the settings fails for a weight that is refused.  The weight of the nodes is read
first. -/
theorem ofLookup_eq_error_iff {fault : SettingFault} : ofLookup lookup = .error fault ↔
    Faulted lookup .nodeWeight fault ∨
      (∀ f, ¬ Faulted lookup .nodeWeight f) ∧ Faulted lookup .similarityShare fault := by
  simp only [← weightsOf_eq_error_iff, ← shareOf_eq_error_iff]
  rw [ofLookup]
  cases weightsOf (value? lookup .nodeWeight) with
  | error f => simp [bind, Except.bind]
  | ok w =>
      cases shareOf (value? lookup .similarityShare) with
      | error f => simp [bind, Except.bind]
      | ok x => simp [bind, Except.bind, pure, Except.pure]

theorem ofLookup_eq_ok_iff : ofLookup lookup = .ok c ↔ c.IsGivenBy lookup := by
  constructor
  · intro h
    unfold ofLookup at h
    obtain ⟨w, hw, h⟩ := exists_of_bind_eq_ok h
    obtain ⟨x, hx, h⟩ := exists_of_bind_eq_ok h
    cases h
    exact ⟨rfl, rfl, rfl, rfl, rfl, weightsOf_eq_ok_iff.mp hw, shareOf_eq_ok_iff.mp hx⟩
  · rintro ⟨hsubmissions, hreferences, hrubrics, hresults, htasks, hweights, hshare⟩
    obtain ⟨submissions, references, rubrics, results, tasks, w, x⟩ := c
    have hw : weightsOf (value? lookup .nodeWeight) = .ok w := weightsOf_eq_ok_iff.mpr hweights
    have hx : shareOf (value? lookup .similarityShare) = .ok x := shareOf_eq_ok_iff.mpr hshare
    cases hsubmissions
    cases hreferences
    cases hrubrics
    cases hresults
    cases htasks
    rw [ofLookup, hw, hx]
    rfl

theorem fraction_share (h : ofLookup lookup = .ok c) : 0 ≤ c.share ∧ c.share ≤ 1 := by
  rcases (ofLookup_eq_ok_iff.mp h).share.eq_or with hx | ⟨x, h0, h1, hx⟩
  · rw [hx]
    decide
  · rw [hx]
    exact ⟨h0, h1⟩

theorem weights_of_ofLookup (h : ofLookup lookup = .ok c) :
    c.weights = .standard ∨ ∃ x, 0 ≤ x ∧ x ≤ 1 ∧ c.weights = ⟨x, 1 - x⟩ :=
  (ofLookup_eq_ok_iff.mp h).weights.eq_or

theorem ofLookup_congr (h : ∀ s : Setting, value? lookup s = value? other s) :
    ofLookup lookup = ofLookup other := by
  have hvalues : value? lookup = value? other := funext h
  unfold ofLookup
  rw [hvalues]

end Configuration

/-! ### One setting -/

theorem Setting.name_injective : Function.Injective Setting.name := by
  intro s t h
  cases s <;> cases t <;> first | rfl | exact absurd h (by decide)

/-- What a setting sets. -/
abbrev Setting.Part : Setting → Type
  | .submissions | .references | .rubrics | .results => Path
  | .tasks => List String
  | .nodeWeight => Weights Float
  | .similarityShare => Float

namespace Configuration

open Setting (value? Refuses Faulted)

variable {lookup other : String → Option String} {c d : Configuration}

/-- The part of a configuration that a setting sets. -/
def part (c : Configuration) : (s : Setting) → s.Part
  | .submissions => c.submissions
  | .references => c.references
  | .rubrics => c.rubrics
  | .results => c.results
  | .tasks => c.tasks
  | .nodeWeight => c.weights
  | .similarityShare => c.share

/-- A part depends on the value of its own setting alone. -/
theorem IsGivenBy.part_eq (hc : c.IsGivenBy lookup) (hd : d.IsGivenBy other) {s : Setting}
    (h : value? lookup s = value? other s) : c.part s = d.part s := by
  cases s with
  | submissions => exact hc.submissions.trans (h ▸ hd.submissions.symm)
  | references => exact hc.references.trans (h ▸ hd.references.symm)
  | rubrics => exact hc.rubrics.trans (h ▸ hd.rubrics.symm)
  | results => exact hc.results.trans (h ▸ hd.results.symm)
  | tasks => exact hc.tasks.trans (h ▸ hd.tasks.symm)
  | nodeWeight => exact hc.weights.unique (h ▸ hd.weights)
  | similarityShare => exact hc.share.unique (h ▸ hd.share)

/-- **Reading settings.**  A setting is set if it is looked up to a text that is not blank.
Reading fails for a weight that is set and refused, and for nothing else, with the fault of the
weight of the nodes if both weights are refused.  Otherwise each part of the configuration is what
its own setting gives, or the default.  White space around the values makes no difference, nor does
a blank value in place of none, and a setting that is changed changes no part but its own. -/
theorem ofLookup_fieldwise (lookup : String → Option String) :
    (∀ (s : Setting) (text : String), value? lookup s = some text ↔
      ∃ raw, lookup s.name = some raw ∧ Text.trim raw = text ∧ text ≠ "") ∧
    ((∃ fault, ofLookup lookup = .error fault) ↔
      ∃ fault, Faulted lookup .nodeWeight fault ∨ Faulted lookup .similarityShare fault) ∧
    (∀ fault, Faulted lookup .nodeWeight fault → ofLookup lookup = .error fault) ∧
    (∀ fault, ofLookup lookup = .error fault →
      Faulted lookup .nodeWeight fault ∨ Faulted lookup .similarityShare fault) ∧
    (∀ c, ofLookup lookup = .ok c ↔ c.IsGivenBy lookup) ∧
    (∀ other, (∀ s : Setting, SameValue (lookup s.name) (other s.name)) →
      ofLookup lookup = ofLookup other) ∧
    ∀ other (changed : Setting),
      (∀ s : Setting, s.name ≠ changed.name → SameValue (lookup s.name) (other s.name)) →
        ∀ c d, ofLookup lookup = .ok c → ofLookup other = .ok d →
          ∀ s ≠ changed, c.part s = d.part s := by
  refine ⟨fun s text => Setting.value?_eq_some_iff, ⟨?_, ?_⟩, ?_, ?_, ?_, ?_, ?_⟩
  · rintro ⟨fault, h⟩
    exact ⟨fault, (ofLookup_eq_error_iff.mp h).imp_right And.right⟩
  · rintro ⟨fault, h⟩
    by_cases hnode : ∃ f, Faulted lookup .nodeWeight f
    · obtain ⟨f, hnode⟩ := hnode
      exact ⟨f, ofLookup_eq_error_iff.mpr (.inl hnode)⟩
    · rw [not_exists] at hnode
      exact ⟨fault, ofLookup_eq_error_iff.mpr (.inr ⟨hnode, h.resolve_left (hnode fault)⟩)⟩
  · intro fault h
    exact ofLookup_eq_error_iff.mpr (.inl h)
  · intro fault h
    exact (ofLookup_eq_error_iff.mp h).imp_right And.right
  · intro c
    exact ofLookup_eq_ok_iff
  · intro other hsame
    exact ofLookup_congr fun s => Setting.value?_congr (hsame s)
  · intro other changed hsame c d hc hd s hs
    have hname : s.name ≠ changed.name := fun h => hs (Setting.name_injective h)
    exact (ofLookup_eq_ok_iff.mp hc).part_eq (ofLookup_eq_ok_iff.mp hd)
      (Setting.value?_congr (hsame s hname))

/-- The settings in a list of names and values. -/
def listed (settings : List (String × String)) (name : String) : Option String :=
  settings.lookup name

/-- Some settings, the same ones with white space and a blank one, and the same ones with another
share. -/
theorem ofLookup_fieldwise_listed :
    let given := listed [("CONCEPTGRADE_NODE_WEIGHT", "0.25"), ("CONCEPTGRADE_TASKS", "sum,max")]
    let padded := listed [("CONCEPTGRADE_NODE_WEIGHT", "\t0.25 "),
      ("CONCEPTGRADE_RESULTS", "\u3000"), ("CONCEPTGRADE_TASKS", "\nsum,max")]
    let changed := listed [("CONCEPTGRADE_NODE_WEIGHT", "0.25"), ("CONCEPTGRADE_TASKS", "sum,max"),
      ("CONCEPTGRADE_SIMILARITY_SHARE", "-0")]
    let wrong := listed [("CONCEPTGRADE_NODE_WEIGHT", "1e400"),
      ("CONCEPTGRADE_SIMILARITY_SHARE", "half")]
    let c : Configuration :=
      { standard with weights := ⟨0.25, 1 - 0.25⟩, tasks := ["sum", "max"] }
    Faulted wrong .nodeWeight (.outOfRange .nodeWeight (1 / 0)) ∧
    ofLookup wrong = .error (.outOfRange .nodeWeight (1 / 0)) ∧
    (∀ s : Setting, SameValue (given s.name) (padded s.name)) ∧
    ofLookup given = .ok c ∧ ofLookup given = ofLookup padded ∧
    (∀ s : Setting, s.name ≠ Setting.similarityShare.name →
      SameValue (given s.name) (changed s.name)) ∧
    ofLookup changed = .ok { c with share := -0 } ∧
    ∀ s ≠ .similarityShare, c.part s = { c with share := -0 }.part s := by
  intro given padded changed wrong c
  have hfault : Faulted wrong .nodeWeight (.outOfRange .nodeWeight (1 / 0)) :=
    ⟨"1e400", by decide +kernel, .outOfRange (by decide +kernel) (by decide +kernel)⟩
  have hpadded : ∀ s : Setting, SameValue (given s.name) (padded s.name) := by
    intro s
    cases s <;> decide +kernel
  have hchanged : ∀ s : Setting, s.name ≠ Setting.similarityShare.name →
      SameValue (given s.name) (changed s.name) := by
    intro s
    cases s <;> decide +kernel
  have hgiven : ofLookup given = .ok c := by decide +kernel
  have hshare : ofLookup changed = .ok { c with share := -0 } := by decide +kernel
  have hsame := ofLookup_fieldwise given
  exact ⟨hfault, (ofLookup_fieldwise wrong).2.2.1 _ hfault, hpadded, hgiven,
    hsame.2.2.2.2.2.1 padded hpadded, hchanged, hshare,
    hsame.2.2.2.2.2.2 changed .similarityShare hchanged c _ hgiven hshare⟩

end Configuration

end StructuralGrading
