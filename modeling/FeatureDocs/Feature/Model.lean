import FeatureDocs.Store.Path

/-!
# Features

The documents a build reads: a feature holds a background, scenarios and examples tables; a
scenario holds steps and examples tables; a step may carry a table or a block of text. Tags are
kept without their `@`.

* `Table.ofRows?`: the first row is the heading;
* `Statement`: what the renderer reads from features, backgrounds, scenarios and examples
  (keyword, name, tags and description).
-/

namespace FeatureDocs.Feature

open FeatureDocs.Store

/-- A table: a heading row and data rows. -/
structure Table where
  headings : List String
  rows : List (List String)
deriving DecidableEq, Repr, Inhabited

/-- The table of a list of rows, the first of them the heading; none when there is no row. -/
def Table.ofRows? : List (List String) → Option Table
  | [] => none
  | h :: rows => some ⟨h, rows⟩

/-- A step: its keyword as written, its kind (`Given`, `When` or `Then`), its text, and where it
was read. -/
structure Step where
  keyword : String
  stepType : String
  name : String
  table : Option Table := none
  text : Option (List String) := none
  filename : Path
  line : Nat
deriving DecidableEq, Repr, Inhabited

/-- An examples table of an outline. -/
structure Examples where
  keyword : String
  name : String
  tags : List String
  table : Option Table
deriving DecidableEq, Repr, Inhabited

/-- Steps shared by the scenarios of a feature. -/
structure Background where
  keyword : String
  name : String
  steps : List Step
deriving DecidableEq, Repr, Inhabited

/-- A scenario or an outline. -/
structure Scenario where
  keyword : String
  name : String
  description : Option (List String)
  tags : List String
  steps : List Step
  examples : List Examples
deriving DecidableEq, Repr, Inhabited

/-- A feature document. -/
structure FeatureFile where
  keyword : String
  name : String
  description : Option (List String)
  tags : List String
  background : Option Background
  scenarios : List Scenario
  examples : List Examples
  filename : Path
deriving DecidableEq, Repr, Inhabited

/-- What the renderer reads of a titled part of a feature. -/
structure Statement where
  keyword : String
  name : String
  tags : List String := []
  description : Option (List String) := none
deriving DecidableEq, Repr, Inhabited

/-- The statement of a feature. -/
def FeatureFile.statement (f : FeatureFile) : Statement := ⟨f.keyword, f.name, f.tags, f.description⟩

/-- The statement of a scenario. -/
def Scenario.statement (s : Scenario) : Statement := ⟨s.keyword, s.name, s.tags, s.description⟩

/-- The statement of a background: it has no tags and no description. -/
def Background.statement (b : Background) : Statement := ⟨b.keyword, b.name, [], none⟩

/-- The statement of an examples table: it has no description. -/
def Examples.statement (e : Examples) : Statement := ⟨e.keyword, e.name, e.tags, none⟩

end FeatureDocs.Feature
