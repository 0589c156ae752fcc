import FeatureDocs.Feature.Reader

/-!
# The scenarios of a feature, in line order

A feature file holds scenarios of its own and scenarios inside rules. Reading the file collects
both kinds, each converted under the tags of its rule, and sorts them by the line they start on.
The sort is stable, so scenarios that start on one line keep the order in which they were
collected: the feature's own first, then those of each rule in turn. A scenario's tags are those
of its rule, then those of its own that are new, each once, where it first occurs.

* `filter_mergeSort_key`: a stable sort by a key keeps the elements of one key in their order;
* `addTags_eq`: merging tags appends the new ones, each at its first occurrence;
* `Dialect.sourceScenarios`: the scenarios as collected, with their lines;
* **`Dialect.feature_scenarios_in_line_order`**: the scenarios of a feature.
-/

namespace FeatureDocs.Feature

open FeatureDocs.Gherkin FeatureDocs.Store

/-! ## Sorting by a key -/

section KeySort

variable {α : Type} (key : α → Nat)

theorem key_le_trans (a b c : α) (hab : decide (key a ≤ key b) = true)
    (hbc : decide (key b ≤ key c) = true) : decide (key a ≤ key c) = true := by
  simp only [decide_eq_true_eq] at *
  omega

theorem key_le_total (a b : α) : (decide (key a ≤ key b) || decide (key b ≤ key a)) = true := by
  simp only [Bool.or_eq_true, decide_eq_true_eq]
  omega

theorem pairwise_mergeSort_key (l : List α) :
    (l.mergeSort fun a b => key a ≤ key b).Pairwise fun a b => key a ≤ key b :=
  (List.pairwise_mergeSort (key_le_trans key) (key_le_total key) l).imp fun h => of_decide_eq_true h

/-- **Sorting by a key is stable.** The elements of one key come out in the order they went in. -/
theorem filter_mergeSort_key (l : List α) (n : Nat) :
    (l.mergeSort fun a b => key a ≤ key b).filter (fun a => key a = n) =
      l.filter fun a => key a = n := by
  -- the elements of key `n` are a sorted sublist of `l`, which the sort keeps as a sublist; they
  -- are also as many as the sorted list has of that key, so the two lists are one
  have hsorted : (l.filter fun a => key a = n).Pairwise fun a b => decide (key a ≤ key b) := by
    refine List.pairwise_of_forall_mem_list fun a ha b hb => ?_
    simp only [List.mem_filter, decide_eq_true_eq] at ha hb
    simp [ha.2, hb.2]
  have hsub := (List.sublist_mergeSort (key_le_trans key) (key_le_total key) hsorted
    List.filter_sublist).filter fun a => key a = n
  have hperm := (List.mergeSort_perm l fun a b => key a ≤ key b).filter fun a => key a = n
  simp only [List.filter_filter, Bool.and_self] at hsub
  exact (hsub.eq_of_length hperm.length_eq.symm).symm

end KeySort

/-! ## Merging tags -/

theorem addTags_nil (present : List String) : addTags present [] = present := rfl

theorem addTags_cons (present : List String) (t : String) (more : List String) :
    addTags present (t :: more) =
      addTags (if t ∈ present then present else present ++ [t]) more := by
  simp [addTags]

/-- **Merging tags.** The tags present stay as they are, duplicates included; a new tag is
appended where it first occurs, and its later occurrences are dropped. -/
theorem addTags_eq (present more : List String) :
    addTags present more = present ++ (more.removeAll present).eraseDups := by
  induction more generalizing present with
  | nil => simp [addTags_nil]
  | cons t more ih =>
    rw [addTags_cons, List.cons_removeAll]
    by_cases ht : t ∈ present
    · simp [ht, ih]
    · -- the new tag joins what later tags are compared with
      have hrest : (more.removeAll present).filter (fun b => !b == t) =
          more.removeAll (present ++ [t]) := by
        simp only [List.removeAll, List.filter_filter, List.elem_eq_contains, List.contains_append]
        congr 1
        funext b
        simp [Bool.and_comm, Bool.beq_eq_decide_eq]
      simp [ht, ih, List.eraseDups_cons, hrest]

/-- A rule's repeated tag stays repeated; a scenario's own tag is added once, and not at all
when the rule has it. -/
example : addTags ["lockout", "lockout"] ["security", "lockout", "security"] =
    ["lockout", "lockout", "security"] := by decide

/-! ## The scenarios of a feature -/

namespace Dialect

variable (d : Dialect) (file : Path)

/-- The scenarios of a feature as they are collected, each converted and paired with the line it
starts on: the feature's own first, then those of each rule in turn, under the rule's tags. -/
def sourceScenarios (f : FeatureNode) : List (Nat × Scenario) :=
  f.scenarios.map (fun s => (s.line, d.scenario file [] s)) ++
    f.rules.flatMap fun r => r.scenarios.map fun s => (s.line, d.scenario file (r.tags.map stripTag) s)

theorem feature_scenarios (f : FeatureNode) :
    (d.feature file f).scenarios =
      ((d.sourceScenarios file f).mergeSort fun a b => a.1 ≤ b.1).map Prod.snd := rfl

theorem scenario_tags (ruleTags : List String) (s : ScenarioNode) :
    (d.scenario file ruleTags s).tags =
      ruleTags ++ ((s.tags.map stripTag).removeAll ruleTags).eraseDups :=
  addTags_eq ruleTags _

/-- **The scenarios of a feature, in line order.** They are the scenarios as collected, each
once, in order of the line they start on; scenarios that start on one line keep the order of
collection, the feature's own first and then each rule's in turn. Each scenario carries its
rule's tags without `@`, then its own tags without `@` that are not among them, each once where
it first occurs. -/
theorem feature_scenarios_in_line_order (f : FeatureNode) :
    ∃ ordered : List (Nat × Scenario),
      (d.feature file f).scenarios = ordered.map Prod.snd ∧
      ordered.Perm (d.sourceScenarios file f) ∧
      ordered.Pairwise (fun a b => a.1 ≤ b.1) ∧
      (∀ n, ordered.filter (fun a => a.1 = n) = (d.sourceScenarios file f).filter fun a => a.1 = n) ∧
      ∀ (ruleTags : List String) (s : ScenarioNode), (d.scenario file ruleTags s).tags =
        ruleTags ++ ((s.tags.map stripTag).removeAll ruleTags).eraseDups :=
  ⟨_, d.feature_scenarios file f, List.mergeSort_perm _ _, pairwise_mergeSort_key Prod.fst _,
    filter_mergeSort_key Prod.fst _, d.scenario_tags file⟩

end Dialect

end FeatureDocs.Feature
