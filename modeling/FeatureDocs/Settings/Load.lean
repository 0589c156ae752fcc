import FeatureDocs.Settings.Toml
import FeatureDocs.Settings.Expand
import FeatureDocs.Store.Volume
import FeatureDocs.Data.Sorted
import FeatureDocs.Render.Decoration

/-!
# Loading settings

Settings come from a file named on the command line, or else from the first `gherkindoc.toml`
found in the working directory or one of its ancestors, or else from the defaults. A file's
tables and keys must all be known and of the right type. After reading, the project name and
the link templates are expanded from the environment, and the source and output directories
are read against the file's directory. Command-line settings then replace what they set, and
the result is checked: names not empty, a positive depth, a one-character quote, a step format
with exactly one placeholder, link rules that exist and are complete.

* `Config`, `CommandLineSettings`, `SettingsError`;
* `Config.load`, `Config.requireSourceDir`, `Config.requireOutputDir`.
-/

namespace FeatureDocs.Settings

open FeatureDocs.Store FeatureDocs.Data

/-- The name of the settings file looked for. -/
def settingsFileName : String := "gherkindoc.toml"

/-- Where the features are read. -/
structure SourceSettings where
  dir : Option Path := none
  exclude : List String := []
  includePrivate : Bool := false
  parser : String := "gherkin"
deriving DecidableEq, Repr

/-- Where and how the documentation is written. -/
structure OutputSettings where
  dir : Option Path := none
  tocName : String := "gherkin"
  maxTocDepth : Nat := 4
  project : Option String := none
  glossaryName : Option String := none
  groupGlossary : Bool := false
  tagListName : Option String := none
deriving DecidableEq, Repr

/-- How pages are written. -/
structure RenderSettings where
  integrateBackground : Bool := false
  backgroundStepFormat : String := "\x7b\x7d"
  rawDescriptions : Bool := false
  includeTags : List String := []
  excludeTags : List String := []
  quote : String := "“"
  tagUrl : Option String := none
  stepUrl : Option String := none
  displayName : Option String := none
deriving DecidableEq, Repr

/-- A link rule as written in the settings. -/
structure LinkSetting where
  pattern : String
  url : String
deriving DecidableEq, Repr

/-- The settings of a run: all its sections, its link rules, and the file they came from. -/
structure Config where
  source : SourceSettings := {}
  output : OutputSettings := {}
  render : RenderSettings := {}
  /-- Link rules by name, in name order. -/
  links : List (String × LinkSetting) := []
  /-- The file the settings came from. -/
  path : Option Path := none
deriving DecidableEq, Repr

/-- Settings given on the command line; each one given replaces the file's. -/
structure CommandLineSettings where
  sourceDir : Option Path := none
  outputDir : Option Path := none
  exclude : Option (List String) := none
  includePrivate : Option Bool := none
  parser : Option String := none
  tocName : Option String := none
  maxTocDepth : Option Nat := none
  project : Option String := none
  glossaryName : Option String := none
  groupGlossary : Option Bool := none
  tagListName : Option String := none
  integrateBackground : Option Bool := none
  backgroundStepFormat : Option String := none
  rawDescriptions : Option Bool := none
  includeTags : Option (List String) := none
  excludeTags : Option (List String) := none
  tagUrl : Option String := none
  stepUrl : Option String := none
  displayName : Option String := none
deriving Repr

/-- A failure to load settings. -/
inductive SettingsError where
  | notFound (path : Path)
  | io (e : OsError)
  | parse
  | validation (msg : String)
  | envVar (field msg : String)
deriving DecidableEq, Repr

/-- The text shown for the error. -/
def SettingsError.message : SettingsError → String
  | .notFound p => "Configuration file not found: " ++ p.display
  | .io e => "I/O error: " ++ e.message
  | .parse => "TOML parse error"
  | .validation msg => "Configuration error: " ++ msg
  | .envVar field msg => "Environment variable error in " ++ field ++ ": " ++ msg

/-! ## Reading the file's values -/

/-- A string value. -/
def asString : TomlValue → Option String
  | .str s => some s
  | _ => none

/-- A boolean value. -/
def asBool : TomlValue → Option Bool
  | .bool b => some b
  | _ => none

/-- A non-negative integer value. -/
def asCount : TomlValue → Option Nat
  | .int n => if 0 ≤ n then some n.toNat else none
  | _ => none

/-- An array of strings. -/
def asStrings : TomlValue → Option (List String)
  | .arr items => items.mapM asString
  | _ => none

/-- The entries of a table value. -/
def asTable : TomlValue → Option Entries
  | .table _ es => some es
  | _ => none

/-- The source table as written: the directory is not yet read against the file's. -/
structure SourceFile where
  dir : Option String := none
  exclude : List String := []
  includePrivate : Bool := false
  parser : Option String := none

/-- The output table as written. -/
structure OutputFile where
  dir : Option String := none
  tocName : Option String := none
  maxTocDepth : Option Nat := none
  project : Option String := none
  glossaryName : Option String := none
  groupGlossary : Bool := false
  tagListName : Option String := none

/-- A settings file as written. -/
structure SettingsFile where
  source : SourceFile := {}
  output : OutputFile := {}
  render : RenderSettings := {}
  links : List (String × LinkSetting) := []

/-- Read the source table. -/
def readSource (es : Entries) : Option SourceFile :=
  es.foldlM (fun (s : SourceFile) (k, v) =>
    match k with
    | "dir" => (asString v).map fun x => { s with dir := some x }
    | "exclude" => (asStrings v).map fun x => { s with exclude := x }
    | "include_private" => (asBool v).map fun x => { s with includePrivate := x }
    | "parser" => (asString v).map fun x => { s with parser := some x }
    | _ => none) {}

/-- Read the output table. -/
def readOutput (es : Entries) : Option OutputFile :=
  es.foldlM (fun (o : OutputFile) (k, v) =>
    match k with
    | "dir" => (asString v).map fun x => { o with dir := some x }
    | "toc_name" => (asString v).map fun x => { o with tocName := some x }
    | "max_toc_depth" => (asCount v).map fun x => { o with maxTocDepth := some x }
    | "project" => (asString v).map fun x => { o with project := some x }
    | "glossary_name" => (asString v).map fun x => { o with glossaryName := some x }
    | "group_glossary" => (asBool v).map fun x => { o with groupGlossary := x }
    | "tag_list_name" => (asString v).map fun x => { o with tagListName := some x }
    | _ => none) {}

/-- Read the render table. -/
def readRender (es : Entries) : Option RenderSettings :=
  es.foldlM (fun (r : RenderSettings) (k, v) =>
    match k with
    | "integrate_background" => (asBool v).map fun x => { r with integrateBackground := x }
    | "background_step_format" => (asString v).map fun x => { r with backgroundStepFormat := x }
    | "raw_descriptions" => (asBool v).map fun x => { r with rawDescriptions := x }
    | "include_tags" => (asStrings v).map fun x => { r with includeTags := x }
    | "exclude_tags" => (asStrings v).map fun x => { r with excludeTags := x }
    | "quote" => (asString v).map fun x => { r with quote := x }
    | "tag_url" => (asString v).map fun x => { r with tagUrl := some x }
    | "step_url" => (asString v).map fun x => { r with stepUrl := some x }
    | "display_name" => (asString v).map fun x => { r with displayName := some x }
    | _ => none) {}

/-- Read one link rule: a pattern and a URL, nothing else. -/
def readLink (es : Entries) : Option LinkSetting := do
  let (p, u) ← es.foldlM (fun (acc : Option String × Option String) (k, v) =>
    match k with
    | "pattern" => (asString v).map fun x => (some x, acc.2)
    | "url" => (asString v).map fun x => (acc.1, some x)
    | _ => none) (none, none)
  pure ⟨← p, ← u⟩

/-- Read the link rules, in name order. -/
def readLinks (es : Entries) : Option (List (String × LinkSetting)) := do
  let rules ← es.mapM fun (name, v) => do pure (name, ← readLink (← asTable v))
  pure (rules.mergeSort fun a b => compareText a.1 b.1 != .gt)

/-- Read a whole settings file. -/
def readFile (es : Entries) : Option SettingsFile :=
  es.foldlM (fun (f : SettingsFile) (k, v) => do
    let t ← asTable v
    match k with
    | "source" => pure { f with source := ← readSource t }
    | "output" => pure { f with output := ← readOutput t }
    | "render" => pure { f with render := ← readRender t }
    | "resolvers" => pure { f with links := ← readLinks t }
    | _ => none) {}

/-! ## Loading -/

/-- The message for a variable that is not set. -/
def unsetMessage (name : String) : String := "$\x7b" ++ name ++ "\x7d not set"

/-- Expand the project name and the link templates, in that order. -/
def SettingsFile.expand (f : SettingsFile) (env : String → Option String) : Except SettingsError SettingsFile := do
  let project ← match f.output.project with
    | some p => (expandEnv env p).map some |>.mapError fun n => .envVar "output.project" (unsetMessage n)
    | none => pure none
  let links ← f.links.mapM fun (name, l) =>
    (expandEnv env l.url).map (fun u => (name, { l with url := u })) |>.mapError
      fun n => .envVar ("resolvers." ++ name ++ ".url") (unsetMessage n)
  pure { f with output := { f.output with project := project }, links := links }

/-- The settings of a file read from `dir`: its directories read against `dir`. -/
def SettingsFile.settings (f : SettingsFile) (dir : Path) (file : Path) : Config :=
  { source := { dir := f.source.dir.map fun d => dir.join ⟨d⟩, exclude := f.source.exclude,
                includePrivate := f.source.includePrivate, parser := f.source.parser.getD "gherkin" }
    output := { dir := f.output.dir.map fun d => dir.join ⟨d⟩, tocName := f.output.tocName.getD "gherkin",
                maxTocDepth := f.output.maxTocDepth.getD 4, project := f.output.project,
                glossaryName := f.output.glossaryName, groupGlossary := f.output.groupGlossary,
                tagListName := f.output.tagListName }
    render := f.render
    links := f.links
    path := some file }

/-- The settings of a file. -/
def loadFile (v : Volume) (env : String → Option String) (p : Path) : Except SettingsError Config := do
  let text ← (v.readFile p).mapError .io
  let es ← match parseToml text with
    | some es => pure es
    | none => throw .parse
  let f ← match readFile es with
    | some f => pure f
    | none => throw .parse
  let f ← f.expand env
  pure (f.settings ((p.parent?).getD ⟨"."⟩) p)

/-- The settings file of the working directory or its nearest ancestor that has one. -/
def discover (v : Volume) : Option Path :=
  (List.range (v.cwd.length + 1)).reverse.findSome? fun n =>
    let candidate := (Location.path (v.cwd.take n)).push settingsFileName
    if v.pathExists candidate then some candidate else none

/-- Replace what the command line sets. -/
def Config.override (s : Config) (c : CommandLineSettings) : Config :=
  { s with
    source := { dir := c.sourceDir.orElse fun _ => s.source.dir
                exclude := c.exclude.getD s.source.exclude
                includePrivate := c.includePrivate.getD s.source.includePrivate
                parser := c.parser.getD s.source.parser }
    output := { dir := c.outputDir.orElse fun _ => s.output.dir
                tocName := c.tocName.getD s.output.tocName
                maxTocDepth := c.maxTocDepth.getD s.output.maxTocDepth
                project := c.project.orElse fun _ => s.output.project
                glossaryName := c.glossaryName.orElse fun _ => s.output.glossaryName
                groupGlossary := c.groupGlossary.getD s.output.groupGlossary
                tagListName := c.tagListName.orElse fun _ => s.output.tagListName }
    render := { integrateBackground := c.integrateBackground.getD s.render.integrateBackground
                backgroundStepFormat := c.backgroundStepFormat.getD s.render.backgroundStepFormat
                rawDescriptions := c.rawDescriptions.getD s.render.rawDescriptions
                includeTags := c.includeTags.getD s.render.includeTags
                excludeTags := c.excludeTags.getD s.render.excludeTags
                quote := s.render.quote
                tagUrl := c.tagUrl.orElse fun _ => s.render.tagUrl
                stepUrl := c.stepUrl.orElse fun _ => s.render.stepUrl
                displayName := c.displayName.orElse fun _ => s.render.displayName } }

/-- A name that must not be empty. -/
def requireNonEmpty (value field : String) : Except SettingsError Unit :=
  if value.isEmpty then .error (.validation (field ++ " cannot be empty")) else .ok ()

/-- A link rule name that must be defined. -/
def requireLink (links : List (String × LinkSetting)) (name : Option String) (field : String) :
    Except SettingsError Unit :=
  match name with
  | some n => if (links.lookup n).isSome then .ok () else .error (.validation (field ++ " names unknown resolver '" ++ n ++ "'"))
  | none => .ok ()

/-- Check the output settings: a name for the tables of contents, a positive depth, and names
for the glossary and the tag list, when given, that are not empty. -/
def Config.validateOutput (s : Config) : Except SettingsError Unit := do
  requireNonEmpty s.output.tocName "output.toc_name"
  if s.output.maxTocDepth == 0 then throw (.validation "output.max_toc_depth must be greater than 0")
  if let some n := s.output.glossaryName then requireNonEmpty n "output.glossary_name"
  if let some n := s.output.tagListName then requireNonEmpty n "output.tag_list_name"

/-- Check the render settings: a one-character quote, a step format with exactly one placeholder,
and link rules, when named for tags or steps, that are defined. -/
def Config.validateRender (s : Config) : Except SettingsError Unit := do
  if s.render.quote.length != 1 then
    throw (.validation ("render.quote must be a single character, got '" ++ s.render.quote ++ "'"))
  let found := Render.placeholderCount s.render.backgroundStepFormat.toList
  if found != 1 then
    throw (.validation ("render.background_step_format must contain exactly one \x7b\x7d, found " ++ toString found))
  requireLink s.links s.render.tagUrl "render.tag_url"
  requireLink s.links s.render.stepUrl "render.step_url"

/-- Check the link rules, in name order: a pattern and a URL that are not empty. -/
def Config.validateLinks (s : Config) : Except SettingsError Unit := do
  for (name, l) in s.links do
    requireNonEmpty l.pattern ("resolvers." ++ name ++ ".pattern")
    requireNonEmpty l.url ("resolvers." ++ name ++ ".url")

/-- Check the settings: output, then render, then link rules. -/
def Config.validate (s : Config) : Except SettingsError Unit := do
  s.validateOutput
  s.validateRender
  s.validateLinks

/-- Load the settings: from the named file, else from the file found upwards from the working
directory, else the defaults; then the command line; then the checks. -/
def Config.load (v : Volume) (env : String → Option String) (file : Option Path)
    (cli : Option CommandLineSettings) : Except SettingsError Config := do
  let base ← match file with
    | some p => if v.pathExists p then loadFile v env p else throw (.notFound p)
    | none =>
      match discover v with
      | some p => loadFile v env p
      | none => pure {}
  let s := match cli with
    | some c => base.override c
    | none => base
  s.validate
  pure s

/-- The source directory, which a build needs. -/
def Config.requireSourceDir (s : Config) : Except SettingsError Path :=
  match s.source.dir with
  | some d => .ok d
  | none => .error (.validation "source directory required (source.dir)")

/-- The output directory, which a build needs. -/
def Config.requireOutputDir (s : Config) : Except SettingsError Path :=
  match s.output.dir with
  | some d => .ok d
  | none => .error (.validation "output directory required (output.dir)")

end FeatureDocs.Settings
