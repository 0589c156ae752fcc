import FeatureDocs.Proofs.ContextMerge

/-!
# Rendering in batches

A page is written without reading the context: writing only records the page's tags and the
uses of its steps. So a feature rendered into any context gives the page it gives alone, and
the context with the page's uses recorded. With `Context.recordAll_eq_merge`, rendering batches
of features into contexts of their own and merging those gives the pages and the context that
rendering all of them into one context gives.

* `Writer.Records`: a writer step that ignores the context and records uses in it;
* `Writer.step_frame`, `Writer.description_frame`, `Writer.tags_frame`: the parts of a page
  that write without reading the context;
* `Writer.records_step`, `Writer.records_scenario`, `Writer.records_feature`;
* `render_records`: the page of a feature in any context;
* `renderAll`: features rendered in turn into one context;
* **`renderAll_flatten`**: batches rendered apart and merged.
-/

namespace FeatureDocs.Render

open FeatureDocs.Feature FeatureDocs.Markup FeatureDocs.Store FeatureDocs.Data

namespace Writer

/-- A writer step that writes the page without reading the context, and records the same uses
whatever the context holds. -/
def Records (F : Writer → Writer) : Prop :=
  ∃ (D : Document → Document) (uses : List Use), ∀ w, F w = ⟨D w.doc, w.ctx.recordAll uses⟩

theorem Records.id : Records fun w => w :=
  ⟨fun d => d, [], fun _ => rfl⟩

theorem Records.comp {F G : Writer → Writer} (hF : Records F) (hG : Records G) :
    Records fun w => G (F w) := by
  obtain ⟨D, u, hD⟩ := hF
  obtain ⟨E, v, hE⟩ := hG
  refine ⟨fun d => E (D d), u ++ v, fun w => ?_⟩
  show G (F w) = ⟨E (D w.doc), w.ctx.recordAll (u ++ v)⟩
  rw [hD, hE, Context.recordAll_append]

theorem Records.foldl {β : Type} {F : Writer → β → Writer} (xs : List β)
    (h : ∀ x ∈ xs, Records fun w => F w x) : Records fun w => xs.foldl F w := by
  induction xs with
  | nil => exact Records.id
  | cons x xs ih =>
    exact (h x List.mem_cons_self).comp (ih fun y hy => h y (List.mem_cons_of_mem x hy))

theorem Records.of_ctx {F : Writer → Writer} (h : ∀ w, F w = ⟨(F ⟨w.doc, {}⟩).doc, w.ctx⟩) :
    Records F :=
  ⟨fun d => (F ⟨d, {}⟩).doc, [], h⟩

/-! ## The steps of a page -/

variable (cfg : PageSettings)

theorem recordAll_tags (c : Context) (tags : List String) :
    c.recordAll (tags.map Use.tag) = { c with tags := tags.foldl TagList.register c.tags } := by
  induction tags generalizing c with
  | nil => rfl
  | cons t tags ih => exact ih (c.record (.tag t))

theorem records_registerTags (tags : List String) : Records fun w => w.registerTags tags :=
  ⟨fun d => d, tags.map Use.tag, fun w => by rw [recordAll_tags]; rfl⟩

theorem records_heading (level : Nat) (st : Statement) : Records fun w => w.heading level st :=
  Records.of_ctx fun _ => rfl

theorem description_frame (w : Writer) (st : Statement) :
    description cfg w st = ⟨(description cfg ⟨w.doc, {}⟩ st).doc, w.ctx⟩ := by
  unfold description
  split <;> rfl

theorem records_description (st : Statement) : Records fun w => description cfg w st :=
  Records.of_ctx (description_frame cfg · st)

theorem tags_frame (w : Writer) (own : List String) (parents : List Statement) :
    tags cfg w own parents = ⟨(tags cfg ⟨w.doc, {}⟩ own parents).doc, w.ctx⟩ := by
  unfold tags
  dsimp only
  split <;> rfl

theorem records_tags (own : List String) (parents : List Statement) :
    Records fun w => tags cfg w own parents :=
  Records.of_ctx (tags_frame cfg · own parents)

theorem records_table (t : Table) (inline : Bool) : Records fun w => table cfg w t inline :=
  Records.of_ctx fun _ => rfl

theorem records_blankLine : Records fun w => { w with doc := w.doc.blankLine } :=
  Records.of_ctx fun _ => rfl

theorem step_frame (decoration : Decoration) (w : Writer) (s : Step) :
    step cfg decoration w s = ⟨(step cfg decoration ⟨w.doc, {}⟩ s).doc,
      w.ctx.recordAll [.step ⟨s.name, s.stepType,
        (s.filename.stripPrefix? cfg.rootPath).getD s.filename, s.line⟩]⟩ := by
  unfold step
  split <;> split <;> rfl

theorem records_step (decoration : Decoration) (s : Step) : Records fun w => step cfg decoration w s :=
  ⟨fun d => (step cfg decoration ⟨d, {}⟩ s).doc, _, (step_frame cfg decoration · s)⟩

theorem records_steps (ss : List Step) (decoration : Decoration) :
    Records fun w => steps cfg w ss decoration :=
  Records.foldl ss fun s _ => records_step cfg decoration s

theorem records_examples (parents : List Statement) (e : Examples) :
    Records fun w => examples cfg parents w e := by
  unfold examples
  have hhead := ((records_registerTags e.tags).comp (records_heading 3 e.statement)).comp
    (records_tags cfg e.tags parents)
  cases e.table with
  | none => exact hhead.comp records_blankLine
  | some t => exact (hhead.comp (records_table cfg t false)).comp records_blankLine

theorem records_scenario (f : FeatureFile) (s : Scenario) : Records fun w => scenario cfg f w s := by
  unfold scenario
  have hhead := (((records_registerTags s.tags).comp (records_heading 2 s.statement)).comp
    (records_tags cfg s.tags [f.statement])).comp (records_description cfg s.statement)
  have htail := ((records_steps cfg s.steps .plain).comp records_blankLine).comp
    (Records.foldl s.examples fun e _ => records_examples cfg [s.statement, f.statement] e)
  cases f.background with
  | none => exact hhead.comp htail
  | some b =>
    cases cfg.integrateBackground with
    | false => exact hhead.comp htail
    | true => exact (hhead.comp (records_steps cfg b.steps cfg.backgroundStep)).comp htail

theorem records_feature (f : FeatureFile) (scenarios : List Scenario) :
    Records fun w => feature cfg w f scenarios := by
  unfold feature
  have hhead := ((records_registerTags f.tags).comp (records_heading 1 f.statement)).comp
    (records_description cfg f.statement)
  have hexamples := Records.foldl f.examples fun e _ => records_examples cfg [] e
  have hscenarios := Records.foldl scenarios fun s _ => records_scenario cfg f s
  cases f.background with
  | none => exact (hhead.comp hexamples).comp hscenarios
  | some b =>
    cases cfg.integrateBackground with
    | true => exact (hhead.comp hexamples).comp hscenarios
    | false =>
      have hbackground := ((records_heading 2 b.statement).comp (records_steps cfg b.steps .plain)).comp
        records_blankLine
      exact ((hhead.comp hexamples).comp hbackground).comp hscenarios

end Writer

/-! ## Pages -/

variable (cfg : PageSettings)

/-- **The page of a feature does not depend on the context**, and rendering records the same
uses whatever the context holds; none stays none. -/
theorem render_records (f : FeatureFile) :
    ∃ uses : List Use, ∀ c, cfg.render f c = (cfg.render f {}).map fun p => (p.1, c.recordAll uses) := by
  obtain ⟨D, uses, hD⟩ := Writer.records_feature cfg f (cfg.tagFilter.filterScenarios f)
  refine ⟨uses, fun c => ?_⟩
  unfold PageSettings.render
  dsimp only
  split
  · rfl
  · simp only [hD, Option.map_some]

/-- Features rendered in turn into one context: the page of each, none for a feature with no
scenario left, and the context after the last. -/
def renderAll : List FeatureFile → Context → List (Option Document) × Context
  | [], c => ([], c)
  | f :: fs, c =>
    match cfg.render f c with
    | none => let r := renderAll fs c; (none :: r.1, r.2)
    | some (d, c') => let r := renderAll fs c'; (some d :: r.1, r.2)

theorem renderAll_append (fs gs : List FeatureFile) (c : Context) :
    renderAll cfg (fs ++ gs) c =
      ((renderAll cfg fs c).1 ++ (renderAll cfg gs (renderAll cfg fs c).2).1,
        (renderAll cfg gs (renderAll cfg fs c).2).2) := by
  induction fs generalizing c with
  | nil => rfl
  | cons f fs ih =>
    simp only [List.cons_append, renderAll]
    split <;> simp [ih]

/-- The pages of a run of features do not depend on the context, and the run records the same
uses whatever the context holds. -/
theorem renderAll_records (fs : List FeatureFile) :
    ∃ uses : List Use, ∀ c, renderAll cfg fs c = ((renderAll cfg fs {}).1, c.recordAll uses) := by
  induction fs with
  | nil => exact ⟨[], fun _ => rfl⟩
  | cons f fs ih =>
    obtain ⟨u, hu⟩ := render_records cfg f
    obtain ⟨v, hv⟩ := ih
    -- whether the feature has a page does not depend on the context either
    cases hf : cfg.render f {} with
    | none =>
      refine ⟨v, fun c => ?_⟩
      have hc : cfg.render f c = none := by rw [hu c, hf, Option.map_none]
      simp only [renderAll, hc, hf]
      rw [hv c]
    | some p =>
      obtain ⟨d, c'⟩ := p
      have hc' : c' = ({} : Context).recordAll u := by
        have h := hu {}
        rw [hf, Option.map_some, Option.some.injEq, Prod.mk.injEq] at h
        exact h.2
      refine ⟨u ++ v, fun c => ?_⟩
      have hc : cfg.render f c = some (d, c.recordAll u) := by rw [hu c, hf, Option.map_some]
      simp only [renderAll, hc, hf]
      rw [hv (c.recordAll u), hv c', hc', Context.recordAll_append]

theorem wf_renderAll {c : Context} (hc : c.WF) (fs : List FeatureFile) : (renderAll cfg fs c).2.WF := by
  obtain ⟨uses, h⟩ := renderAll_records cfg fs
  rw [h c]
  exact hc.recordAll uses

theorem renderAll_eq_merge {c : Context} (hc : c.WF) (fs : List FeatureFile) :
    renderAll cfg fs c = ((renderAll cfg fs {}).1, c.merge (renderAll cfg fs {}).2) := by
  obtain ⟨uses, h⟩ := renderAll_records cfg fs
  rw [h c, h {}, Context.recordAll_eq_merge hc]

theorem renderAll_flatten_from {c : Context} (hc : c.WF) (batches : List (List FeatureFile)) :
    renderAll cfg batches.flatten c =
      (batches.flatMap fun B => (renderAll cfg B {}).1,
        (batches.map fun B => (renderAll cfg B {}).2).foldl Context.merge c) := by
  induction batches generalizing c with
  | nil => rfl
  | cons B bs ih =>
    have hB := renderAll_eq_merge cfg hc B
    rw [List.flatten_cons, renderAll_append, ih (wf_renderAll cfg hc B), hB]
    simp

/-- **Rendering batches apart and merging their contexts is rendering all features into one
context**: the same page for each feature, and the same context. Merging into the empty context
keeps a batch's context, so the merge may as well start from the first batch. Recording
references is a homomorphism for the merge of glossaries. -/
theorem renderAll_flatten (batches : List (List FeatureFile)) :
    renderAll cfg batches.flatten {} =
        (batches.flatMap fun B => (renderAll cfg B {}).1,
          (batches.map fun B => (renderAll cfg B {}).2).foldl Context.merge {}) ∧
      (∀ B, ({} : Context).merge (renderAll cfg B {}).2 = (renderAll cfg B {}).2) ∧
      ∀ A B : List Reference,
        (A ++ B).foldl Glossary.add {} = (A.foldl Glossary.add {}).merge (B.foldl Glossary.add {}) := by
  refine ⟨renderAll_flatten_from cfg Context.wf_empty batches,
    fun B => Context.empty_merge (wf_renderAll cfg Context.wf_empty B), fun A B => ?_⟩
  rw [List.foldl_append]
  exact Glossary.foldl_add_eq_merge (Glossary.wf_empty.foldl_add A) B

end FeatureDocs.Render
