import Mathlib.Data.List.Basic
import FeatureDocs.Feature.TagFilter

/-!
# Tag selection along a path

A tag filter decides each examples table by the tags on its path, from the feature through the
scenario down to the table, and each scenario by its own path or, for an outline, by its tables.
This module states that rule on its own and shows that the filter computes it.

* `TagFilter.Inc`, `TagFilter.Exc`: the include and exclude rules on a list of tags;
* `TagFilter.TableSelected`, `TagFilter.ScenarioSelected`, `TagFilter.selection`: the rule;
* `included_iff`, `excluded_iff`: the two Boolean tests read as the rules;
* `filterScenario_eq_selectScenario`: the scenario step of a feature that is not excluded;
* **`filterScenarios_eq_selection`**: the scenarios kept are exactly the selected ones, in order,
  each with its selected tables, and none of them carries an excluded tag on its path.
-/

namespace FeatureDocs.Feature.TagFilter

variable (t : TagFilter)

/-- Some of the tags is in the set. -/
def Meets (tags set : List String) : Prop := ∃ tag ∈ tags, tag ∈ set

instance (tags set : List String) : Decidable (Meets tags set) :=
  inferInstanceAs (Decidable (∃ tag ∈ tags, tag ∈ set))

/-- The include rule: no include tag is given, or the tags meet them. -/
def Inc (tags : List String) : Prop := t.includeTags = [] ∨ Meets tags t.includeTags

/-- The exclude rule: some exclude tag is given and the tags meet them. -/
def Exc (tags : List String) : Prop := t.excludeTags ≠ [] ∧ Meets tags t.excludeTags

instance (tags : List String) : Decidable (t.Inc tags) :=
  inferInstanceAs (Decidable (_ ∨ _))

instance (tags : List String) : Decidable (t.Exc tags) :=
  inferInstanceAs (Decidable (_ ∧ _))

/-- An examples table is selected when no level of its path is excluded and the whole path meets
the include rule. -/
def TableSelected (f : FeatureFile) (s : Scenario) (e : Examples) : Prop :=
  ¬ t.Exc f.tags ∧ ¬ t.Exc s.tags ∧ ¬ t.Exc e.tags ∧ t.Inc (f.tags ++ s.tags ++ e.tags)

instance (f : FeatureFile) (s : Scenario) (e : Examples) : Decidable (t.TableSelected f s e) :=
  inferInstanceAs (Decidable (_ ∧ _))

/-- A scenario without tables is selected by its own path; an outline, when one of its tables
is selected. -/
def ScenarioSelected (f : FeatureFile) (s : Scenario) : Prop :=
  if s.examples = [] then ¬ t.Exc f.tags ∧ ¬ t.Exc s.tags ∧ t.Inc (f.tags ++ s.tags)
  else ∃ e ∈ s.examples, t.TableSelected f s e

instance (f : FeatureFile) (s : Scenario) : Decidable (t.ScenarioSelected f s) :=
  inferInstanceAs (Decidable (ite _ _ _))

/-- A selected scenario with its selected tables, in their order. -/
def selectScenario (f : FeatureFile) (s : Scenario) : Option Scenario :=
  if t.ScenarioSelected f s then some { s with examples := s.examples.filter (t.TableSelected f s ·) }
  else none

/-- The selected scenarios of a feature, in their order. -/
def selection (f : FeatureFile) : List Scenario := f.scenarios.filterMap (t.selectScenario f)

/-! ## The Boolean tests -/

theorem included_iff (tags : List String) : t.included tags = true ↔ t.Inc tags := by
  simp [included, Inc, Meets]

theorem excluded_iff (tags : List String) : t.excluded tags = true ↔ t.Exc tags := by
  simp [excluded, Exc, Meets]

theorem not_included_iff (tags : List String) : t.included tags = false ↔ ¬ t.Inc tags := by
  rw [← Bool.not_eq_true, included_iff]

theorem not_excluded_iff (tags : List String) : t.excluded tags = false ↔ ¬ t.Exc tags := by
  rw [← Bool.not_eq_true, excluded_iff]

theorem inc_append (a b : List String) : t.Inc (a ++ b) ↔ t.Inc a ∨ t.Inc b := by
  simp only [Inc, Meets, List.mem_append]
  constructor
  · rintro (h | ⟨tag, ha | hb, hin⟩)
    · exact .inl (.inl h)
    · exact .inl (.inr ⟨tag, ha, hin⟩)
    · exact .inr (.inr ⟨tag, hb, hin⟩)
  · rintro ((h | ⟨tag, ha, hin⟩) | (h | ⟨tag, hb, hin⟩))
    · exact .inl h
    · exact .inr ⟨tag, .inl ha, hin⟩
    · exact .inl h
    · exact .inr ⟨tag, .inr hb, hin⟩

theorem not_mem_of_not_exc {tags : List String} (h : ¬ t.Exc tags) :
    ∀ tag ∈ tags, tag ∉ t.excludeTags := by
  intro tag htag hex
  have hne : t.excludeTags ≠ [] := List.ne_nil_of_mem hex
  exact h ⟨hne, tag, htag, hex⟩

/-! ## What a selected scenario passes -/

variable {t}

theorem ScenarioSelected.not_exc {f : FeatureFile} {s : Scenario} (h : t.ScenarioSelected f s) :
    ¬ t.Exc f.tags ∧ ¬ t.Exc s.tags := by
  unfold ScenarioSelected at h
  split at h
  · exact ⟨h.1, h.2.1⟩
  · obtain ⟨_, _, he⟩ := h
    exact ⟨he.1, he.2.1⟩

theorem mem_selection {f : FeatureFile} {s : Scenario} (h : s ∈ t.selection f) :
    ∃ s₀ ∈ f.scenarios, t.ScenarioSelected f s₀ ∧
      s = { s₀ with examples := s₀.examples.filter (t.TableSelected f s₀ ·) } := by
  obtain ⟨s₀, hmem, hsel⟩ := List.mem_filterMap.mp h
  unfold selectScenario at hsel
  split at hsel
  · exact ⟨s₀, hmem, ‹_›, (Option.some.inj hsel).symm⟩
  · cases hsel

theorem selection_avoids_excluded {f : FeatureFile} {s : Scenario} (h : s ∈ t.selection f) :
    (∀ tag ∈ f.tags ++ s.tags, tag ∉ t.excludeTags) ∧
      ∀ e ∈ s.examples, ∀ tag ∈ e.tags, tag ∉ t.excludeTags := by
  obtain ⟨s₀, -, hsel, rfl⟩ := mem_selection h
  obtain ⟨hf, hs⟩ := hsel.not_exc
  refine ⟨fun tag htag => ?_, fun e he => ?_⟩
  · rcases List.mem_append.mp htag with hin | hin
    · exact t.not_mem_of_not_exc hf tag hin
    · exact t.not_mem_of_not_exc hs tag hin
  · have hsel_e : t.TableSelected f s₀ e := by simpa using (List.mem_filter.mp he).2
    exact t.not_mem_of_not_exc hsel_e.2.2.1

/-! ## The filter against the rule -/

variable (t)

/-- With nothing to include or exclude, every scenario is selected with all of its tables. -/
theorem selection_of_not_isActive (h : t.isActive = false) (f : FeatureFile) :
    t.selection f = f.scenarios := by
  obtain ⟨hinc, hexc⟩ : t.includeTags = [] ∧ t.excludeTags = [] := by simpa [isActive] using h
  have htable : ∀ s e, t.TableSelected f s e := fun _ _ => by
    simp [TableSelected, Exc, Inc, hinc, hexc]
  have hsel : ∀ s, t.selectScenario f s = some s := by
    intro s
    have hs : t.ScenarioSelected f s := by
      unfold ScenarioSelected
      split
      · simp [Exc, Inc, hinc, hexc]
      · obtain ⟨e, es, hes⟩ := List.exists_cons_of_ne_nil ‹s.examples ≠ []›
        exact ⟨e, by simp [hes], htable s e⟩
    simp [selectScenario, hs, htable]
  simp [selection, hsel]

theorem selection_of_exc {f : FeatureFile} (h : t.Exc f.tags) : t.selection f = [] := by
  refine List.filterMap_eq_nil_iff.mpr fun s _ => ?_
  have hs : ¬ t.ScenarioSelected f s := fun hs => hs.not_exc.1 h
  simp [selectScenario, hs]

theorem filter_examples_eq (f : FeatureFile) (s : Scenario) (hf : ¬ t.Exc f.tags)
    (hs : ¬ t.Exc s.tags) :
    s.examples.filter (fun e => !t.excluded e.tags &&
        ((t.included f.tags || t.included s.tags) || t.included e.tags)) =
      s.examples.filter (t.TableSelected f s ·) := by
  refine List.filter_congr fun e _ => ?_
  have hpath : t.Inc (f.tags ++ s.tags ++ e.tags) ↔ (t.Inc f.tags ∨ t.Inc s.tags) ∨ t.Inc e.tags := by
    rw [inc_append, inc_append]
  simp only [TableSelected, hf, hs, not_false_eq_true, true_and, hpath, ← included_iff,
    ← excluded_iff, Bool.not_eq_true]
  cases t.excluded e.tags <;> simp

/-- Below a feature that passes the exclude rule, the filter keeps a scenario exactly when it is
selected, with its selected tables. -/
theorem filterScenario_eq_selectScenario {f : FeatureFile} (hf : ¬ t.Exc f.tags) (s : Scenario) :
    t.filterScenario (t.included f.tags) s = t.selectScenario f s := by
  by_cases hs : t.Exc s.tags
  · have hns : ¬ t.ScenarioSelected f s := fun h => h.not_exc.2 hs
    simp [filterScenario, (t.excluded_iff _).mpr hs, selectScenario, hns]
  unfold filterScenario selectScenario
  simp only [(t.not_excluded_iff _).mpr hs, t.filter_examples_eq f s hf hs]
  by_cases hnil : s.examples = []
  · -- a scenario without tables: only its own path counts
    have hsel : t.ScenarioSelected f s ↔ t.Inc f.tags ∨ t.Inc s.tags := by
      simp [ScenarioSelected, hnil, hf, hs, inc_append]
    have hcond : (t.included f.tags = false ∧ t.included s.tags = false) ↔
        ¬ t.ScenarioSelected f s := by
      rw [hsel, not_or, not_included_iff, not_included_iff]
    by_cases hi : t.ScenarioSelected f s <;> simp [hnil, hi, hcond]
  by_cases hall : ∀ e ∈ s.examples, t.Exc e.tags
  · -- an outline whose tables are all excluded
    have hns : ¬ t.ScenarioSelected f s := by
      simp only [ScenarioSelected, hnil, if_false]
      rintro ⟨e, he, hsel⟩
      exact hsel.2.2.1 (hall e he)
    have hall' : (s.examples.all fun e => t.excluded e.tags) = true := by
      simpa [excluded_iff] using hall
    simp [hnil, hall', hns]
  -- an outline with a table that passes the exclude rule: the scenario's own inclusion is
  -- enough to select that table, so dropping needs both no inclusion and no table kept
  obtain ⟨e₀, he₀, hne₀⟩ : ∃ e ∈ s.examples, ¬ t.Exc e.tags := by simpa using hall
  have hall' : (s.examples.all fun e => t.excluded e.tags) = false := by
    simpa [excluded_iff] using ⟨e₀, he₀, hne₀⟩
  have hsel : t.ScenarioSelected f s ↔ ∃ e ∈ s.examples, t.TableSelected f s e := by
    simp only [ScenarioSelected, hnil, if_false]
  have hpath : t.Inc f.tags ∨ t.Inc s.tags → t.ScenarioSelected f s := fun hi =>
    hsel.mpr ⟨e₀, he₀, hf, hs, hne₀, (t.inc_append _ _).mpr (.inl ((t.inc_append _ _).mpr hi))⟩
  have hkept : s.examples.filter (t.TableSelected f s ·) = [] ↔ ¬ t.ScenarioSelected f s := by
    rw [hsel, List.filter_eq_nil_iff]
    simp
  by_cases hi : t.ScenarioSelected f s
  · simp [hall', hi, hkept]
  · have hinc : t.included f.tags = false ∧ t.included s.tags = false := by
      rw [not_included_iff, not_included_iff, ← not_or]
      exact mt hpath hi
    simp [hall', hi, hkept.mpr hi, hinc]

/-- **The filter computes the path rule.** For every tag filter and every feature, the scenarios
kept are the selected ones in their order, each equal to its source but for its tables, which
are the selected ones in their order. In particular, whatever is included, no scenario or table
kept carries an excluded tag on itself or on a level above it. -/
theorem filterScenarios_eq_selection (f : FeatureFile) :
    t.filterScenarios f = t.selection f ∧
      ∀ s ∈ t.filterScenarios f, (∀ tag ∈ f.tags ++ s.tags, tag ∉ t.excludeTags) ∧
        ∀ e ∈ s.examples, ∀ tag ∈ e.tags, tag ∉ t.excludeTags := by
  have heq : t.filterScenarios f = t.selection f := by
    unfold filterScenarios
    split
    · next h => exact (t.selection_of_not_isActive (by simpa using h) f).symm
    split
    · next h => exact (t.selection_of_exc ((t.excluded_iff _).mp h)).symm
    · next h =>
      exact List.filterMap_congr fun s _ =>
        t.filterScenario_eq_selectScenario ((t.not_excluded_iff _).mp (by simpa using h)) s
  exact ⟨heq, fun s hs => selection_avoids_excluded (heq ▸ hs)⟩

end FeatureDocs.Feature.TagFilter
