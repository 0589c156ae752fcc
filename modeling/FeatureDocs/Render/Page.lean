import FeatureDocs.Feature.TagFilter
import FeatureDocs.Markup.Escape
import FeatureDocs.Markup.Document
import FeatureDocs.Render.Decoration
import FeatureDocs.Render.Glossary
import FeatureDocs.Render.Link
import FeatureDocs.Render.TagList
import FeatureDocs.Text.Blank
import FeatureDocs.Text.Lines

/-!
# Feature pages

A feature becomes one page: a title, its description, its examples tables, its background as a
section of its own (or folded into each scenario), then one section per scenario that passes the
tag filter, with its tags, description, steps and examples. While writing, every step is recorded
in the glossary under its location below the root directory, and every tag in the tag list.

* `PageSettings`: the choices shared by the pages of a run;
* `Context`: the glossary and tag list of a run, and `Context.merge`;
* `emphasizePlaceholders`: outline placeholders in bold;
* `PageSettings.render`: the page of a feature, none when no scenario is left.
-/

namespace FeatureDocs.Render

open FeatureDocs.Feature FeatureDocs.Markup FeatureDocs.Store FeatureDocs.Text

/-- The choices shared by the pages of a run. -/
structure PageSettings where
  /-- Step locations in the glossary are relative to this directory. -/
  rootPath : Path
  /-- Background steps are folded into each scenario instead of a section of their own. -/
  integrateBackground : Bool := false
  /-- The decoration of folded background steps. -/
  backgroundStep : Decoration := .plain
  /-- Descriptions are written without escaping. -/
  rawDescriptions : Bool := false
  /-- The cell delimiter of tables. -/
  quote : Char := tableQuote
  tagFilter : TagFilter := {}
  tagUrl : Option LinkRule := none
  stepUrl : Option LinkRule := none

/-- What a run collects over its pages. -/
structure Context where
  glossary : Glossary := {}
  tags : TagList := {}

/-- Fold another context into this one. -/
def Context.merge (c other : Context) : Context :=
  { glossary := c.glossary.merge other.glossary, tags := c.tags.merge other.tags }

/-- The URL a rule gives a text, if there is a rule and it gives one. -/
def resolveUrl (rule : Option LinkRule) (text : String) : Option String :=
  (rule.bind fun r => r.resolve text).filter fun url => !url.isEmpty

/-- Wrap each escaped outline placeholder, a backslash and `<` up to the first `>` on the same
line, in bold markers. `held` is the placeholder being read, reversed. This is the replacement
of every match of `(\\<.*?>)` by `**$1**` (`replaceAll_placeholderRegex`). -/
def emphasizeFrom : List Char → Option (List Char) → List Char
  | [], none => []
  | [], some held => '\\' :: '<' :: held.reverse
  | '\\' :: '<' :: cs, none => emphasizeFrom cs (some [])
  | c :: cs, none => c :: emphasizeFrom cs none
  | '>' :: cs, some held => "**\\<".toList ++ held.reverse ++ ">**".toList ++ emphasizeFrom cs none
  | '\n' :: cs, some held => '\\' :: '<' :: held.reverse ++ '\n' :: emphasizeFrom cs none
  | c :: cs, some held => emphasizeFrom cs (some (c :: held))

/-- The escaped text with its outline placeholders in bold. -/
def emphasizePlaceholders (s : String) : String := String.ofList (emphasizeFrom s.toList none)

/-- Cells escaped, each between quotes, separated by commas. -/
def quotedRow (cells : List String) (quote : Char) : String :=
  let q := String.singleton quote
  q ++ (q ++ ", " ++ q).intercalate (cells.map escape) ++ q

/-- A page being written and the context it fills. -/
structure Writer where
  doc : Document := {}
  ctx : Context

namespace Writer

variable (cfg : PageSettings)

/-- Record tags in the tag list. -/
def registerTags (w : Writer) (tags : List String) : Writer :=
  { w with ctx := { w.ctx with tags := tags.foldl TagList.register w.ctx.tags } }

/-- A section titled by the keyword and the escaped name. -/
def heading (w : Writer) (level : Nat) (st : Statement) : Writer :=
  let title := if st.name.isEmpty then st.keyword else st.keyword ++ ": " ++ escape st.name
  { w with doc := w.doc.createSection level title }

/-- The description, a blank line after each sentence and after the last line. -/
def description (w : Writer) (st : Statement) : Writer :=
  match st.description with
  | none => w
  | some ls =>
    let doc := (ls.zipIdx).foldl (fun d (line, i) =>
      let d := d.addOutput (if cfg.rawDescriptions then line else escape line) 1 indentDepth
      if line.endsWith "." || i + 1 == ls.length then d.blankLine else d) w.doc
    { w with doc := doc }

/-- Tags, each linked when the tag rule gives a URL, separated by commas. -/
def tagText (tags : List String) : String :=
  ", ".intercalate (tags.map fun tag =>
    match resolveUrl cfg.tagUrl tag with
    | some url => hyperlink tag url
    | none => escape tag)

/-- The tags of a part and of its tagged parents, as a pull-quote. -/
def tags (w : Writer) (own : List String) (parents : List Statement) : Writer :=
  let tagged := parents.filter fun p => !p.tags.isEmpty
  if own.isEmpty && tagged.isEmpty then w
  else
    let text := tagged.foldl (fun t p =>
      t ++ " (Inherited from " ++ p.keyword ++ ": " ++ tagText cfg p.tags ++ " )") (tagText cfg own)
    { w with doc := (w.doc.addOutput ".. pull-quote::" 2 0).addOutput ("Tagged: " ++ trimBlank text) 2 indentDepth }

/-- A table as a csv-table directive, indented under a step when inline. -/
def table (w : Writer) (t : Table) (inline : Bool) : Writer :=
  let indent := if inline then indentDepth else 0
  let inner := indent + indentDepth
  let doc := w.doc.addOutput ".. csv-table::" 1 indent
  let doc := doc.addOutput (":header: " ++ quotedRow t.headings cfg.quote) 1 inner
  let doc := doc.addOutput (":quote: " ++ String.singleton cfg.quote) 2 inner
  { w with doc := t.rows.foldl (fun d row => d.addOutput (quotedRow row cfg.quote) 1 inner) doc }

/-- A block of text as a literal block, line by line. -/
def text (w : Writer) (chunks : List String) : Writer :=
  let doc := (w.doc.blankLine).addOutput "::" 2 0
  { w with doc := (chunks.flatMap lines).foldl (fun d line => d.addOutput (escape line) 2 indentDepth) doc }

/-- The keyword and escaped text of a step, a link when the step rule gives a URL, otherwise
with its placeholders in bold. -/
def formatStep (s : Step) : String :=
  let name := escape s.name
  match resolveUrl cfg.stepUrl s.name with
  | some url => hyperlink (s.keyword ++ " " ++ name) url
  | none => s.keyword ++ " " ++ emphasizePlaceholders name

/-- One step: recorded in the glossary, written as a list item with its table or text. -/
def step (decoration : Decoration) (w : Writer) (s : Step) : Writer :=
  let location := (s.filename.stripPrefix? cfg.rootPath).getD s.filename
  let w := { w with ctx := { w.ctx with glossary := w.ctx.glossary.addReference s.name s.stepType location s.line } }
  let w := { w with doc := w.doc.add ("- " ++ decoration.apply (formatStep cfg s)) }
  let w := match s.table with
    | some t => let w := table cfg { w with doc := w.doc.blankLine } t true; { w with doc := w.doc.blankLine }
    | none => w
  match s.text with
  | some chunks => text w chunks
  | none => w

/-- Steps in order. -/
def steps (w : Writer) (ss : List Step) (decoration : Decoration) : Writer :=
  ss.foldl (step cfg decoration) w

/-- An examples table with its tags and those of its tagged parents. -/
def examples (parents : List Statement) (w : Writer) (e : Examples) : Writer :=
  let w := (w.registerTags e.tags).heading 3 e.statement
  let w := tags cfg w e.tags parents
  let w := match e.table with
    | some t => table cfg w t false
    | none => w
  { w with doc := w.doc.blankLine }

/-- One scenario of a feature. -/
def scenario (f : FeatureFile) (w : Writer) (s : Scenario) : Writer :=
  let w := (w.registerTags s.tags).heading 2 s.statement
  let w := tags cfg w s.tags [f.statement]
  let w := description cfg w s.statement
  let w := match f.background with
    | some b => if cfg.integrateBackground then steps cfg w b.steps cfg.backgroundStep else w
    | none => w
  let w := steps cfg w s.steps .plain
  let w := { w with doc := w.doc.blankLine }
  s.examples.foldl (examples cfg [s.statement, f.statement]) w

/-- The page of a feature with the scenarios that passed the filter. -/
def feature (w : Writer) (f : FeatureFile) (scenarios : List Scenario) : Writer :=
  let w := (w.registerTags f.tags).heading 1 f.statement
  let w := description cfg w f.statement
  let w := f.examples.foldl (examples cfg []) w
  let w := match f.background with
    | some b =>
      if cfg.integrateBackground then w
      else
        let w := steps cfg (w.heading 2 b.statement) b.steps .plain
        { w with doc := w.doc.blankLine }
    | none => w
  scenarios.foldl (scenario cfg f) w

end Writer

/-- The page of a feature and the context with its steps and tags recorded; none, and nothing
recorded, when no scenario passes the tag filter. -/
def PageSettings.render (cfg : PageSettings) (f : FeatureFile) (ctx : Context) : Option (Document × Context) :=
  let scenarios := cfg.tagFilter.filterScenarios f
  if scenarios.isEmpty then none
  else
    let w := Writer.feature cfg { ctx := ctx } f scenarios
    some (w.doc, w.ctx)

end FeatureDocs.Render
