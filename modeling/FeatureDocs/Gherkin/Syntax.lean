/-!
# The parse tree of a feature file

What the grammar reads from a feature file, before it becomes a feature: keywords as written,
optional names and descriptions as raw text, doc strings already freed of their shared
indentation, tables as rows of trimmed cells, and the line of every keyword. Rules group
scenarios under a keyword of their own.
-/

namespace FeatureDocs.Gherkin

/-- The kind of a step. -/
inductive StepKind where
  | given
  | when
  | then
deriving DecidableEq, Repr, Inhabited

/-- The name of a step kind. -/
def StepKind.name : StepKind → String
  | .given => "Given"
  | .when => "When"
  | .then => "Then"

/-- A step line with its doc string and table. -/
structure StepNode where
  keyword : String
  kind : StepKind
  value : String
  docstring : Option String
  table : Option (List (List String))
  line : Nat
deriving DecidableEq, Repr, Inhabited

/-- An examples table. -/
structure ExamplesNode where
  keyword : String
  name : String
  tags : List String
  rows : List (List String)
  line : Nat
deriving DecidableEq, Repr, Inhabited

/-- A background. -/
structure BackgroundNode where
  keyword : String
  name : String
  description : Option String
  steps : List StepNode
  line : Nat
deriving DecidableEq, Repr, Inhabited

/-- A scenario or an outline. -/
structure ScenarioNode where
  keyword : String
  name : String
  description : Option String
  tags : List String
  steps : List StepNode
  examples : List ExamplesNode
  line : Nat
deriving DecidableEq, Repr, Inhabited

/-- A rule and its scenarios. -/
structure RuleNode where
  keyword : String
  name : String
  description : Option String
  tags : List String
  background : Option BackgroundNode
  scenarios : List ScenarioNode
  line : Nat
deriving DecidableEq, Repr, Inhabited

/-- A feature file. -/
structure FeatureNode where
  keyword : String
  name : String
  description : Option String
  tags : List String
  background : Option BackgroundNode
  scenarios : List ScenarioNode
  rules : List RuleNode
  line : Nat
deriving DecidableEq, Repr, Inhabited

end FeatureDocs.Gherkin
