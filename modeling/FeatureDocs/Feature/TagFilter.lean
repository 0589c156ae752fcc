import FeatureDocs.Feature.Model

/-!
# Tag filters

A tag filter keeps the scenarios and examples tables that carry an included tag, on themselves
or on an ancestor, and none that carries an excluded tag; an empty include list includes
everything and an empty exclude list excludes nothing.

* `TagFilter`, `TagFilter.included`, `TagFilter.excluded`;
* `TagFilter.filterScenarios`: the scenarios kept, each with the examples tables kept.
-/

namespace FeatureDocs.Feature

/-- Tags to keep and tags to leave out. -/
structure TagFilter where
  includeTags : List String := []
  excludeTags : List String := []
deriving DecidableEq, Repr, Inhabited

namespace TagFilter

/-- The filter changes something: it names a tag to include or to exclude. -/
def isActive (t : TagFilter) : Bool := !t.includeTags.isEmpty || !t.excludeTags.isEmpty

/-- The tags meet the include list, or that list is empty. -/
def included (t : TagFilter) (tags : List String) : Bool :=
  t.includeTags.isEmpty || tags.any t.includeTags.contains

/-- The tags meet the exclude list. -/
def excluded (t : TagFilter) (tags : List String) : Bool :=
  !t.excludeTags.isEmpty && tags.any t.excludeTags.contains

/-- A scenario with the examples tables that survive, or none when it is left out: it is left
out for an excluded tag, when all of its tables are excluded, and when neither it nor a table
of it is included. -/
def filterScenario (t : TagFilter) (featureIncluded : Bool) (s : Scenario) : Option Scenario :=
  if t.excluded s.tags then none
  else if !s.examples.isEmpty && s.examples.all (fun e => t.excluded e.tags) then none
  else
    let scenarioIncluded := featureIncluded || t.included s.tags
    let kept := s.examples.filter fun e =>
      !t.excluded e.tags && (scenarioIncluded || t.included e.tags)
    if !scenarioIncluded && kept.isEmpty then none
    else some { s with examples := kept }

/-- The scenarios of a feature that the filter keeps, in order. -/
def filterScenarios (t : TagFilter) (f : FeatureFile) : List Scenario :=
  if !t.isActive then f.scenarios
  else if t.excluded f.tags then []
  else f.scenarios.filterMap (t.filterScenario (t.included f.tags))

end TagFilter

end FeatureDocs.Feature
