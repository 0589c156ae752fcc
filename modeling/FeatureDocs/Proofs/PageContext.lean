import FeatureDocs.Proofs.RenderBatches

/-!
# What a page records

Rendering a feature records in the context of the run the tags of the feature, of its own
examples tables, of each scenario that passes the tag filter and of that scenario's tables that
pass, and a use of each step of the background and of those scenarios. Nothing else changes, and
a feature with no scenario left records nothing. Folding the background into each scenario
records its steps once per scenario, but a use that a glossary already holds changes nothing when
it is recorded again, so the context does not depend on where the background is written.

* `GlossaryEntry.Covers`, `Glossary.Holds`: a use that a glossary already holds;
* `Glossary.add_of_holds`, `Glossary.foldl_add_flatMap_prefix`: recording it again changes
  nothing;
* `Context.recordAll_eq`: recording uses is recording steps in the glossary and tags in the tag
  list;
* `Writer.ctx_step` … `Writer.ctx_feature`: what each part of a page records;
* **`render_context`**: the context a page leaves.
-/

namespace FeatureDocs.Feature

/-- The steps of a feature's background, none when it has no background. -/
def FeatureFile.backgroundSteps (f : FeatureFile) : List Step :=
  (f.background.map Background.steps).getD []

end FeatureDocs.Feature

namespace FeatureDocs.Render

open FeatureDocs.Feature FeatureDocs.Data FeatureDocs.Store FeatureDocs.Text Std

/-! ## Uses a glossary already holds -/

namespace GlossaryEntry

/-- An entry already records a use: it holds the spelling, the line under a path equal to the
use's, and a kind that the use would not replace. -/
structure Covers (e : GlossaryEntry) (r : Reference) : Prop where
  name : r.name ∈ e.names
  stepType : e.stepType = "" → r.stepType = ""
  line : ∃ p, findKey Path.compare r.location e.locations = some p ∧ r.line ∈ p.2

theorem stepType_addUse (e : GlossaryEntry) (name stepType : String) (location : Path)
    (line : Nat) :
    (e.addUse name stepType location line).stepType =
      if e.stepType = "" then stepType else e.stepType := by
  simp [addUse, String.isEmpty_iff]

theorem covers_single (r : Reference) : (single r.name r.stepType r.location r.line).Covers r where
  name := List.mem_singleton_self _
  stepType h := h
  line := ⟨(r.location, [r.line]), findKey_cons_self _ _, List.mem_singleton_self _⟩

theorem covers_addUse_self {e : GlossaryEntry} (he : e.WF) (r : Reference) :
    (e.addUse r.name r.stepType r.location r.line).Covers r where
  name := mem_insertBy.mpr (.inl rfl)
  stepType h := by
    rw [stepType_addUse] at h
    split at h
    · exact h
    · contradiction
  line := by
    refine ⟨_, findKey_upsertBy_of_eq ReflCmp.compare_self _ _ he.locations, ?_⟩
    cases findKey Path.compare r.location e.locations with
    | none => exact List.mem_singleton_self _
    | some p => exact mem_insertBy.mpr (.inl rfl)

theorem Covers.addUse {e : GlossaryEntry} (he : e.WF) {r : Reference} (h : e.Covers r)
    (r' : Reference) : (e.addUse r'.name r'.stepType r'.location r'.line).Covers r where
  name := mem_insertBy.mpr (.inr h.name)
  stepType hs := by
    rw [stepType_addUse] at hs
    split at hs
    · next hempty => exact h.stepType hempty
    · contradiction
  line := by
    obtain ⟨p, hp, hline⟩ := h.line
    by_cases hk : Path.compare r.location r'.location = .eq
    · -- the use goes to the same file: its lines grow
      refine ⟨_, findKey_upsertBy_of_eq hk _ _ he.locations, ?_⟩
      rw [← findKey_congr hk, hp]
      exact mem_insertBy.mpr (.inr hline)
    · exact ⟨p, (findKey_upsertBy_of_ne hk _ _ _).trans hp, hline⟩

theorem addUse_of_covers {e : GlossaryEntry} (he : e.WF) {r : Reference} (h : e.Covers r) :
    e.addUse r.name r.stepType r.location r.line = e := by
  obtain ⟨p, hp, hline⟩ := h.line
  ext1
  · exact insertBy_of_mem he.names h.name
  · rw [stepType_addUse]
    split
    · next hs => exact (h.stepType hs).trans hs.symm
    · rfl
  · exact upsertBy_of_findKey he.locations hp
      (insertBy_of_mem (he.lines p (List.mem_of_find?_eq_some hp)) hline)

end GlossaryEntry

namespace Glossary

/-- A glossary already records a use: the entry of its phrase covers it. -/
def Holds (g : Glossary) (r : Reference) : Prop :=
  ∃ p, findKey compareText (lower r.name) g.entries = some p ∧ p.2.Covers r

theorem entries_add (g : Glossary) (r : Reference) :
    (g.add r).entries = upsertBy compareText (lower r.name)
      (GlossaryEntry.single r.name r.stepType r.location r.line)
      (fun e => e.addUse r.name r.stepType r.location r.line) g.entries := rfl

section Holds

variable {g : Glossary} (hg : g.WF)
include hg

theorem add_of_holds {r : Reference} (h : g.Holds r) : g.add r = g := by
  obtain ⟨p, hp, hcov⟩ := h
  ext1
  rw [entries_add]
  exact upsertBy_of_findKey hg.keys hp
    (GlossaryEntry.addUse_of_covers (hg.entries p (List.mem_of_find?_eq_some hp)) hcov)

theorem holds_add_self (r : Reference) : (g.add r).Holds r := by
  refine ⟨_, findKey_upsertBy_of_eq ReflCmp.compare_self _ _ hg.keys, ?_⟩
  cases hf : findKey compareText (lower r.name) g.entries with
  | none => exact GlossaryEntry.covers_single r
  | some p => exact GlossaryEntry.covers_addUse_self (hg.entries p (List.mem_of_find?_eq_some hf)) r

theorem Holds.add {r : Reference} (h : g.Holds r) (r' : Reference) : (g.add r').Holds r := by
  obtain ⟨p, hp, hcov⟩ := h
  by_cases hk : compareText (lower r.name) (lower r'.name) = .eq
  · -- the same phrase: its entry records one more use
    refine ⟨_, findKey_upsertBy_of_eq hk _ _ hg.keys, ?_⟩
    rw [← findKey_congr hk, hp]
    exact hcov.addUse (hg.entries p (List.mem_of_find?_eq_some hp)) r'
  · exact ⟨p, (findKey_upsertBy_of_ne hk _ _ _).trans hp, hcov⟩

theorem Holds.foldl_add {r : Reference} (h : g.Holds r) (rs : List Reference) :
    (rs.foldl Glossary.add g).Holds r := by
  induction rs generalizing g with
  | nil => exact h
  | cons r' rs ih => exact ih (hg.add r') (h.add hg r')

theorem holds_foldl_add {rs : List Reference} {r : Reference} (hr : r ∈ rs) :
    (rs.foldl Glossary.add g).Holds r := by
  obtain ⟨s, t, rfl⟩ := List.append_of_mem hr
  have hs := hg.foldl_add s
  rw [List.foldl_append, List.foldl_cons]
  exact (holds_add_self hs r).foldl_add (hs.add r) t

theorem foldl_add_of_holds {rs : List Reference} (h : ∀ r ∈ rs, g.Holds r) :
    rs.foldl Glossary.add g = g := by
  induction rs with
  | nil => rfl
  | cons r rs ih =>
    rw [List.foldl_cons, add_of_holds hg (h r List.mem_cons_self)]
    exact ih fun r' hr' => h r' (List.mem_cons_of_mem r hr')

theorem foldl_add_flatMap_repeat {β : Type} {B : List Reference} (hB : ∀ r ∈ B, g.Holds r)
    (S : β → List Reference) (xs : List β) :
    (xs.flatMap fun x => B ++ S x).foldl Glossary.add g = (xs.flatMap S).foldl Glossary.add g := by
  induction xs generalizing g with
  | nil => rfl
  | cons x xs ih =>
    rw [List.flatMap_cons, List.flatMap_cons, List.foldl_append, List.foldl_append,
      List.foldl_append, foldl_add_of_holds hg hB]
    exact ih (hg.foldl_add _) fun r hr => (hB r hr).foldl_add hg _

theorem foldl_add_flatMap_prefix {β : Type} (B : List Reference) (S : β → List Reference)
    {xs : List β} (hxs : xs ≠ []) :
    (xs.flatMap fun x => B ++ S x).foldl Glossary.add g =
      (B ++ xs.flatMap S).foldl Glossary.add g := by
  obtain ⟨x, xs, rfl⟩ := List.exists_cons_of_ne_nil hxs
  have hfirst := hg.foldl_add (B ++ S x)
  have hB : ∀ r ∈ B, ((B ++ S x).foldl Glossary.add g).Holds r := fun r hr =>
    holds_foldl_add hg (List.mem_append_left _ hr)
  rw [List.flatMap_cons, List.flatMap_cons, List.foldl_append,
    foldl_add_flatMap_repeat hfirst hB, ← List.foldl_append, List.append_assoc]

end Holds

end Glossary

/-! ## Uses as glossary and tag list updates -/

namespace Use

/-- The tag a use records, if it records a tag. -/
def tag? : Use → Option String
  | .tag t => some t
  | .step _ => none

/-- The use of a step phrase a use records, if it records one. -/
def reference? : Use → Option Reference
  | .tag _ => none
  | .step r => some r

theorem filterMap_reference?_tags (tags : List String) :
    (tags.map Use.tag).filterMap reference? = [] := by
  simp [List.filterMap_map, Function.comp_def, reference?]

theorem filterMap_tag?_tags (tags : List String) : (tags.map Use.tag).filterMap tag? = tags := by
  simp [List.filterMap_map, Function.comp_def, tag?]

theorem filterMap_reference?_steps (refs : List Reference) :
    (refs.map Use.step).filterMap reference? = refs := by
  simp [List.filterMap_map, Function.comp_def, reference?]

theorem filterMap_tag?_steps (refs : List Reference) : (refs.map Use.step).filterMap tag? = [] := by
  simp [List.filterMap_map, Function.comp_def, tag?]

end Use

/-- Recording uses records their uses of step phrases in the glossary and their tags in the tag
list, each in order: the two never meet. -/
theorem Context.recordAll_eq (c : Context) (uses : List Use) :
    c.recordAll uses =
      { glossary := (uses.filterMap Use.reference?).foldl Glossary.add c.glossary
        tags := (uses.filterMap Use.tag?).foldl TagList.register c.tags } := by
  induction uses generalizing c with
  | nil => rfl
  | cons u uses ih =>
    change (c.record u).recordAll uses = _
    rw [ih]
    cases u <;> rfl

/-! ## What each part of a page records -/

/-- The use a step records: its phrase, its kind and its line, and its file below the root
directory when the file lies under it, else its file as written. -/
def PageSettings.reference (cfg : PageSettings) (s : Step) : Reference :=
  ⟨s.name, s.stepType, (s.filename.stripPrefix? cfg.rootPath).getD s.filename, s.line⟩

/-- The tags of some examples tables. -/
def tablesTags (es : List Examples) : List String := es.flatMap Examples.tags

namespace Writer

variable (cfg : PageSettings)

theorem ctx_foldl {β : Type} {F : Writer → β → Writer} {U : β → List Use}
    (h : ∀ w x, (F w x).ctx = w.ctx.recordAll (U x)) (xs : List β) (w : Writer) :
    (xs.foldl F w).ctx = w.ctx.recordAll (xs.flatMap U) := by
  induction xs generalizing w with
  | nil => rfl
  | cons x xs ih => rw [List.foldl_cons, ih, h, List.flatMap_cons, Context.recordAll_append]

theorem ctx_registerTags (w : Writer) (tags : List String) :
    (w.registerTags tags).ctx = w.ctx.recordAll (tags.map .tag) :=
  (recordAll_tags w.ctx tags).symm

theorem ctx_description (w : Writer) (st : Statement) : (description cfg w st).ctx = w.ctx := by
  rw [description_frame]

theorem ctx_tags (w : Writer) (own : List String) (parents : List Statement) :
    (tags cfg w own parents).ctx = w.ctx := by
  rw [tags_frame]

theorem ctx_step (decoration : Decoration) (w : Writer) (s : Step) :
    (step cfg decoration w s).ctx = w.ctx.recordAll [.step (cfg.reference s)] :=
  congrArg Writer.ctx (step_frame cfg decoration w s)

theorem ctx_steps (w : Writer) (ss : List Step) (decoration : Decoration) :
    (steps cfg w ss decoration).ctx = w.ctx.recordAll ((ss.map cfg.reference).map .step) := by
  rw [steps, ctx_foldl (ctx_step cfg decoration) ss w, List.map_map, List.map_eq_flatMap]
  rfl

theorem ctx_examples (parents : List Statement) (w : Writer) (e : Examples) :
    (examples cfg parents w e).ctx = w.ctx.recordAll (e.tags.map .tag) := by
  unfold examples
  split <;> simp [ctx_tags, ctx_registerTags, heading, table]

theorem ctx_tables (parents : List Statement) (w : Writer) (es : List Examples) :
    (es.foldl (examples cfg parents) w).ctx = w.ctx.recordAll ((tablesTags es).map .tag) := by
  rw [ctx_foldl (ctx_examples cfg parents) es w, tablesTags, List.map_flatMap]

/-- The uses a scenario of a feature records: its tags, the background's steps when they are
folded into it, its own steps, and the tags of its tables. -/
def scenarioUses (f : FeatureFile) (s : Scenario) : List Use :=
  s.tags.map .tag ++
    (((if cfg.integrateBackground then f.backgroundSteps else []) ++ s.steps).map cfg.reference).map
      .step ++
    (tablesTags s.examples).map .tag

/-- The uses a feature records with the scenarios it shows: its tags, the tags of its tables, the
background's steps when they are written apart, then each scenario's uses. -/
def featureUses (f : FeatureFile) (scenarios : List Scenario) : List Use :=
  f.tags.map .tag ++ (tablesTags f.examples).map .tag ++
    ((if cfg.integrateBackground then [] else f.backgroundSteps).map cfg.reference).map .step ++
    scenarios.flatMap (scenarioUses cfg f)

theorem ctx_scenario (f : FeatureFile) (w : Writer) (s : Scenario) :
    (scenario cfg f w s).ctx = w.ctx.recordAll (scenarioUses cfg f s) := by
  unfold scenario
  rw [ctx_tables]
  dsimp only
  rw [ctx_steps]
  -- the background is folded in or not, and there may be none
  split
  · next b hb =>
    split
    · next hi =>
      simp [scenarioUses, ctx_steps, ctx_description, ctx_tags, ctx_registerTags, heading,
        FeatureFile.backgroundSteps, hb, hi, Context.recordAll_append]
    · next hi =>
      simp [scenarioUses, ctx_description, ctx_tags, ctx_registerTags, heading, hi,
        Context.recordAll_append]
  · next hb =>
    simp [scenarioUses, ctx_description, ctx_tags, ctx_registerTags, heading,
      FeatureFile.backgroundSteps, hb, Context.recordAll_append]

theorem ctx_feature (w : Writer) (f : FeatureFile) (scenarios : List Scenario) :
    (feature cfg w f scenarios).ctx = w.ctx.recordAll (featureUses cfg f scenarios) := by
  unfold feature
  rw [ctx_foldl (ctx_scenario cfg f) scenarios]
  split
  · next b hb =>
    split
    · next hi =>
      simp [featureUses, ctx_tables, ctx_description, ctx_registerTags, heading, hi,
        Context.recordAll_append]
    · next hi =>
      simp [featureUses, ctx_tables, ctx_steps, ctx_description, ctx_registerTags, heading,
        FeatureFile.backgroundSteps, hb, hi, Context.recordAll_append]
  · next hb =>
    simp [featureUses, ctx_tables, ctx_description, ctx_registerTags, heading,
      FeatureFile.backgroundSteps, hb, Context.recordAll_append]

end Writer

/-! ## The context a page leaves -/

/-- The context a page leaves behind, as a build keeps it: the one rendering returns with the
page, or the one it was given when there is no page. -/
def PageSettings.contextAfter (cfg : PageSettings) (f : FeatureFile) (c : Context) : Context :=
  match cfg.render f c with
  | some p => p.2
  | none => c

/-- The uses of step phrases a page records with the scenarios it shows: the background's steps,
then the steps of each scenario, in order. -/
def PageSettings.pageReferences (cfg : PageSettings) (f : FeatureFile)
    (scenarios : List Scenario) : List Reference :=
  (f.backgroundSteps ++ scenarios.flatMap Scenario.steps).map cfg.reference

/-- The tags a page records with the scenarios it shows: the feature's and its tables', then
each scenario's and its tables'. -/
def pageTags (f : FeatureFile) (scenarios : List Scenario) : List String :=
  f.tags ++ tablesTags f.examples ++ scenarios.flatMap fun s => s.tags ++ tablesTags s.examples

variable (cfg : PageSettings)

theorem render_eq_none_iff (f : FeatureFile) (c : Context) :
    cfg.render f c = none ↔ cfg.tagFilter.filterScenarios f = [] := by
  unfold PageSettings.render
  by_cases h : cfg.tagFilter.filterScenarios f = [] <;> simp [h]

theorem contextAfter_eq (f : FeatureFile) (c : Context) :
    cfg.contextAfter f c =
      if cfg.tagFilter.filterScenarios f = [] then c
      else (Writer.feature cfg { ctx := c } f (cfg.tagFilter.filterScenarios f)).ctx := by
  unfold PageSettings.contextAfter PageSettings.render
  by_cases h : cfg.tagFilter.filterScenarios f = [] <;> simp [h]

theorem tags_featureUses (f : FeatureFile) (scenarios : List Scenario) :
    (Writer.featureUses cfg f scenarios).filterMap Use.tag? = pageTags f scenarios := by
  simp only [Writer.featureUses, Writer.scenarioUses, pageTags, List.filterMap_append,
    List.filterMap_flatMap, Use.filterMap_tag?_tags, Use.filterMap_tag?_steps, List.nil_append,
    List.append_assoc]

theorem glossary_featureUses {c : Context} (hc : c.WF) (f : FeatureFile)
    {scenarios : List Scenario} (hs : scenarios ≠ []) :
    ((Writer.featureUses cfg f scenarios).filterMap Use.reference?).foldl Glossary.add c.glossary =
      (cfg.pageReferences f scenarios).foldl Glossary.add c.glossary := by
  have hrefs : cfg.pageReferences f scenarios = f.backgroundSteps.map cfg.reference ++
      scenarios.flatMap fun s => s.steps.map cfg.reference := by
    simp [PageSettings.pageReferences, List.map_flatMap]
  rw [hrefs]
  simp only [Writer.featureUses, Writer.scenarioUses, List.filterMap_append,
    List.filterMap_flatMap, Use.filterMap_reference?_tags, Use.filterMap_reference?_steps,
    List.nil_append, List.append_nil, List.map_append]
  cases cfg.integrateBackground
  · simp only [Bool.false_eq_true, if_false, List.map_nil, List.nil_append, List.foldl_append]
  · simp only [if_true, List.map_nil]
    exact Glossary.foldl_add_flatMap_prefix hc.glossary _ _ hs

/-- **The context a page leaves.** Rendering a feature gives no page exactly when the tag filter
keeps none of its scenarios, and the context is then left as it was. Otherwise the glossary
records the background's steps and then the steps of each scenario kept, each at its location
below the root directory, and the tag list the tags of the feature, of its tables, and of each
scenario kept with its tables kept; nothing else changes, so what the filter drops is not
recorded. Where the background is written, and how its folded steps are decorated, does not
change the context. -/
theorem render_context (f : FeatureFile) {c : Context} (hc : c.WF) :
    (cfg.render f c = none ↔ cfg.tagFilter.filterScenarios f = []) ∧
    cfg.contextAfter f c =
      (if cfg.tagFilter.filterScenarios f = [] then c
      else
        { glossary := (cfg.pageReferences f (cfg.tagFilter.filterScenarios f)).foldl Glossary.add
            c.glossary
          tags := (pageTags f (cfg.tagFilter.filterScenarios f)).foldl TagList.register
            c.tags }) ∧
    ∀ (integrate : Bool) (decoration : Decoration),
      { cfg with integrateBackground := integrate, backgroundStep := decoration }.contextAfter f c =
        cfg.contextAfter f c := by
  -- the context a page leaves, for any settings with this root and this filter
  have hafter : ∀ cfg' : PageSettings, cfg'.contextAfter f c =
      if cfg'.tagFilter.filterScenarios f = [] then c
      else
        { glossary := (cfg'.pageReferences f (cfg'.tagFilter.filterScenarios f)).foldl
            Glossary.add c.glossary
          tags := (pageTags f (cfg'.tagFilter.filterScenarios f)).foldl TagList.register
            c.tags } := by
    intro cfg'
    rw [contextAfter_eq]
    split
    · rfl
    · next hs =>
      rw [Writer.ctx_feature, Context.recordAll_eq, glossary_featureUses cfg' hc f hs,
        tags_featureUses]
  refine ⟨render_eq_none_iff cfg f c, hafter cfg, fun integrate decoration => ?_⟩
  rw [hafter, hafter cfg]
  rfl

/-- A feature with a background and two scenarios, the second excluded by its tag, rendered with
the background folded in, into an empty context. -/
theorem render_context_login :
    let cfg : PageSettings :=
      { rootPath := ⟨"/specs"⟩, integrateBackground := true,
        tagFilter := { excludeTags := ["wip"] } }
    let step : String → Nat → Step := fun name line =>
      { keyword := "Given", stepType := "Given", name := name,
        filename := ⟨"/specs/login/login.feature"⟩, line := line }
    let f : FeatureFile :=
      { keyword := "Feature", name := "Login", description := none, tags := ["ui"],
        background := some ⟨"Background", "", [step "setup" 2]⟩,
        scenarios := [⟨"Scenario", "a", none, [], [step "x" 5], []⟩,
          ⟨"Scenario", "b", none, ["wip"], [step "y" 8], []⟩],
        examples := [], filename := ⟨"/specs/login/login.feature"⟩ }
    ({} : Context).WF ∧
      (cfg.render f {} = none ↔ cfg.tagFilter.filterScenarios f = []) ∧
      cfg.contextAfter f {} =
        (if cfg.tagFilter.filterScenarios f = [] then {}
        else
          { glossary := (cfg.pageReferences f (cfg.tagFilter.filterScenarios f)).foldl Glossary.add
              ({} : Context).glossary
            tags := (pageTags f (cfg.tagFilter.filterScenarios f)).foldl TagList.register
              ({} : Context).tags }) ∧
      ∀ (integrate : Bool) (decoration : Decoration),
        { cfg with integrateBackground := integrate, backgroundStep := decoration }.contextAfter f
          {} = cfg.contextAfter f {} := by
  intro cfg step f
  exact ⟨Context.wf_empty, render_context cfg f Context.wf_empty⟩

end FeatureDocs.Render
