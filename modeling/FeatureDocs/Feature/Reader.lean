import FeatureDocs.Feature.Model
import FeatureDocs.Feature.Dialect
import FeatureDocs.Gherkin.Parse
import FeatureDocs.Store.Volume
import FeatureDocs.Text.Blank
import FeatureDocs.Text.Lines

/-!
# Reading features

A feature file is parsed and its tree becomes a feature: keywords and names are trimmed, tags
lose their `@`, descriptions become their non-empty trimmed lines, and a background's name is
dropped. The scenarios of rules join the feature's own, each taking its rule's tags first, and
all of them are put in line order.

The `pytest-bdd` dialect differs in three places: a plain scenario with a non-empty examples
table is called a `Scenario Outline`, examples tables carry no tags, and doc strings lose their
lines made only of quotes and spaces, the others being trimmed.

* `Dialect.feature`: the feature of a parse tree;
* `readFeature`: the feature of a file in a volume;
* `FeatureParser`, `Dialect.parser`: a reader of feature files, and the reader of a dialect.
-/

namespace FeatureDocs.Feature

open FeatureDocs.Gherkin FeatureDocs.Store FeatureDocs.Text

/-- The tag without its leading `@`. -/
def stripTag (t : String) : String := if t.startsWith "@" then t.drop 1 |>.toString else t

/-- The non-empty trimmed lines of a description; none when there are none. -/
def descriptionLines (d : Option String) : Option (List String) :=
  d.bind fun t =>
    let ls := ((lines t).map trimBlank).filter fun l => !l.isEmpty
    if ls.isEmpty then none else some ls

/-- A line made only of quotes and spaces. -/
def quotesOnly (l : String) : Bool := l.toList.all fun c => c == '\x27' || c == '"' || c == ' '

/-- Append tags that are not yet present. -/
def addTags (present : List String) (more : List String) : List String :=
  more.foldl (fun acc t => if acc.contains t then acc else acc ++ [t]) present

namespace Dialect

variable (d : Dialect) (file : Path)

/-- The lines of a doc string. -/
def textLines (doc : String) : Option (List String) :=
  let ls := match d with
    | .gherkin => lines doc
    | .pytestBdd => ((lines doc).filter fun l => !quotesOnly l).map trimBlank
  if ls.isEmpty then none else some ls

/-- A step. -/
def step (s : StepNode) : Step :=
  { keyword := trimBlank s.keyword
    stepType := s.kind.name
    name := match d with
      | .gherkin => trimBlank s.value
      | .pytestBdd => trimBlank (((lines s.value).head?).getD "")
    table := s.table.bind Table.ofRows?
    text := s.docstring.bind d.textLines
    filename := file
    line := s.line }

/-- An examples table. -/
def examples (e : ExamplesNode) : Examples :=
  { keyword := trimBlank e.keyword
    name := trimBlank e.name
    tags := match d with
      | .gherkin => e.tags.map stripTag
      | .pytestBdd => []
    table := Table.ofRows? e.rows }

/-- A scenario, after the tags of its rule. -/
def scenario (ruleTags : List String) (s : ScenarioNode) : Scenario :=
  let exs := s.examples.map d.examples
  let kw := trimBlank s.keyword
  let kw := match d with
    | .gherkin => kw
    | .pytestBdd =>
      if kw == "Scenario" && exs.any (fun e => e.table.any fun t => !t.rows.isEmpty) then "Scenario Outline" else kw
  { keyword := kw
    name := trimBlank s.name
    description := descriptionLines s.description
    tags := addTags ruleTags (s.tags.map stripTag)
    steps := s.steps.map (d.step file)
    examples := exs }

/-- The feature of a parse tree read from a file. -/
def feature (f : FeatureNode) : FeatureFile :=
  let own := f.scenarios.map fun s => (s.line, d.scenario file [] s)
  let ruled := f.rules.flatMap fun r => r.scenarios.map fun s => (s.line, d.scenario file (r.tags.map stripTag) s)
  let ordered := (own ++ ruled).mergeSort fun a b => a.1 ≤ b.1
  { keyword := trimBlank f.keyword
    name := trimBlank f.name
    description := descriptionLines f.description
    tags := f.tags.map stripTag
    background := f.background.map fun b => ⟨trimBlank b.keyword, "", b.steps.map (d.step file)⟩
    scenarios := ordered.map Prod.snd
    examples := []
    filename := file }

end Dialect

/-- Read the feature file at a path of a volume. -/
def readFeature (v : Volume) (d : Dialect) (p : Path) : Except ParseError FeatureFile :=
  match v.readFile p with
  | .error _ => .error (.invalid p ("Could not read path: " ++ p.display))
  | .ok text =>
    match parseFeature text with
    | .ok tree => .ok (d.feature p tree)
    | .error _ => .error (.invalid p ("Could not parse feature file: " ++ p.display))

/-- A reader of feature files, as a build is given one: the feature at a path of a volume, or why
it cannot be read. A reader reads the file at the path and nothing else. -/
structure FeatureParser where
  parse : Volume → Path → Except ParseError FeatureFile
  reads_source : ∀ v w p, v.readFile p = w.readFile p → parse v p = parse w p

/-- The reader of a dialect. -/
def Dialect.parser (d : Dialect) : FeatureParser where
  parse v p := readFeature v d p
  reads_source v w p h := by simp only [readFeature, h]

end FeatureDocs.Feature
