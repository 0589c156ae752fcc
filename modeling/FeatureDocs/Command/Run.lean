import FeatureDocs.Command.Help
import FeatureDocs.Command.SampleConf
import FeatureDocs.Tree.Build

/-!
# Running a command

A run of the program over a volume: what it prints on its two streams, its exit status, and the
volume it leaves.

A build loads the settings, takes the source and output directories from them, makes the output
directory, scans the source tree, and renders it. Status lines go to the error stream unless the
run is quiet: the two directories, then a summary of the counts (the skipped features and the
unchanged files only when there are any) and of the glossary and the tag list, and a last line.
An error stops the run with status 1 and `Error: ` and its message, shown even on a quiet run;
what the build wrote before stays. A command line that cannot be read stops with status 2.

* `RunError`, `Transcript`;
* `reportLines`, `BuildRequest.run`, `Invocation.run`, `runArgs`.
-/

namespace FeatureDocs.Command

open FeatureDocs.Store FeatureDocs.Settings FeatureDocs.Tree FeatureDocs.Render FeatureDocs.Feature

/-- Why a build stopped. -/
inductive RunError where
  | settings (e : SettingsError)
  | scan (e : ScanError)
  | build (e : BuildError)
  | parse (e : ParseError)
  | link (e : LinkError)
  | decoration (e : DecorationError)
  | unknownStyle (name : String)
deriving Repr

/-- The text shown for a stopped build. -/
def RunError.message : RunError → String
  | .settings e => e.message
  | .scan e => e.message
  | .build e => e.message
  | .parse e => e.message
  | .link e => e.message
  | .decoration e => e.message
  | .unknownStyle name =>
    "Unknown display name converter \x27" ++ name ++ "\x27 (available: " ++
      ", ".intercalate headingStyleNames ++ ")"

/-- What a run leaves: its exit status, its two streams and the volume. -/
structure Transcript where
  status : Nat
  stdout : String := ""
  stderr : String := ""
  volume : Volume

/-- Lines as one text, each ended by a newline. -/
def joinLines (lines : List String) : String := String.join (lines.map (· ++ "\n"))

/-- The summary line of the glossary or the tag list. -/
def outcomeLines (label emptyReason : String) : Outcome → List String
  | .written p => ["  " ++ label ++ ": " ++ p.display]
  | .empty => ["  " ++ label ++ " skipped: " ++ emptyReason]
  | .dryRun => ["  " ++ label ++ ": not generated (dry run)"]
  | .notRequested => []

/-- The summary of a build. -/
def reportLines (r : BuildReport) : List String :=
  ["Summary", "  Tables of contents: " ++ toString r.tocs,
    "  Features rendered:  " ++ toString r.featuresRendered] ++
  (if r.featuresSkipped > 0 then ["  Features skipped:   " ++ toString r.featuresSkipped] else []) ++
  ["  Files copied:       " ++ toString r.filesCopied] ++
  (if r.unchanged > 0 then ["  Unchanged:          " ++ toString r.unchanged] else []) ++
  outcomeLines "Step glossary" "no steps recorded" r.glossary ++
  outcomeLines "Tag list" "no tags recorded" r.tagList

/-- The link rules of the settings, registered by name. -/
def linkRegistry (links : List (String × LinkSetting)) : Except LinkError LinkRegistry :=
  links.foldlM (fun reg (name, l) => (LinkRule.make name l.pattern l.url).map (reg.register name)) {}

/-- The rule a setting names, if it names one. -/
def chosenRule (reg : LinkRegistry) : Option String → Except LinkError (Option LinkRule)
  | none => .ok none
  | some name => some <$> reg.get name

/-- Everything a build needs besides the volume, read off the settings and a scan. -/
structure Plan where
  build : BuildSettings
  page : PageSettings
  dialect : Dialect
  work : WorkList

/-- The plan of a build: scan the source, and read the parser, the link rules, the page settings,
the heading style and the project name off the settings. -/
def plan (v : Volume) (s : Config) (source output : Path) (dryRun : Bool) : Except RunError Plan := do
  let exclude ← (ExcludePatterns.parse s.source.exclude).mapError (.scan ∘ .invalidPattern)
  let scanner : Scanner := { includePrivate := s.source.includePrivate, exclude }
  let work ← (scanner.scan v source).mapError .scan
  let dialect ← (Dialect.ofName s.source.parser).mapError .parse
  let links ← (linkRegistry s.links).mapError .link
  let r := s.render
  let background ← (Decoration.ofTemplate r.backgroundStepFormat).mapError .decoration
  let tagUrl ← (chosenRule links r.tagUrl).mapError .link
  let stepUrl ← (chosenRule links r.stepUrl).mapError .link
  let style ← match r.displayName with
    | none => pure none
    | some name =>
      match HeadingStyle.ofName? name with
      | some st => pure (some st)
      | none => throw (.unknownStyle name)
  let page : PageSettings :=
    { rootPath := work.rootPath
      integrateBackground := r.integrateBackground
      backgroundStep := background
      rawDescriptions := r.rawDescriptions
      quote := r.quote.toList.head?.getD Markup.tableQuote
      tagFilter := { includeTags := r.includeTags, excludeTags := r.excludeTags }
      tagUrl
      stepUrl }
  let firstName := (work.entries.head?.bind fun e => e.pathList.head?).getD ""
  let build : BuildSettings :=
    { outputDir := output
      tocName := s.output.tocName
      maxTocDepth := s.output.maxTocDepth
      projectName := s.output.project.getD firstName
      glossaryName := s.output.glossaryName
      groupGlossary := s.output.groupGlossary
      tagListName := s.output.tagListName
      style
      dryRun }
  pure { build, page, dialect, work }

/-- The settings of a build with its two directories. -/
def BuildRequest.settings (r : BuildRequest) (v : Volume) (env : String → Option String) :
    Except SettingsError (Config × Path × Path) := do
  let s ← Config.load v env r.config (some r.commandLineSettings)
  let source ← s.requireSourceDir
  let output ← s.requireOutputDir
  pure (s, source, output)

/-- Run a build. -/
def BuildRequest.run (r : BuildRequest) (v : Volume) (env : String → Option String) : Transcript :=
  let status (lines : List String) : String := if r.quiet then "" else joinLines lines
  let stop (shown : List String) (e : RunError) (v : Volume) : Transcript :=
    { status := 1, stderr := status shown ++ "Error: " ++ e.message ++ "\n", volume := v }
  match r.settings v env with
  | .error e => stop [] (.settings e) v
  | .ok (s, source, output) =>
    let head := ["Source: " ++ source.display, "Output: " ++ output.display]
    match prepareOutputDir v output r.dryRun with
    | .error e => stop head (.build e) v
    | .ok v =>
      match plan v s source output r.dryRun with
      | .error e => stop head e v
      | .ok p =>
        match Tree.build p.build p.page p.dialect.parser p.work v with
        | .error h => stop head (.build h.error) h.volume
        | .ok (report, v) =>
          let last := if r.dryRun then "Dry run complete, nothing written"
            else "Documentation written to " ++ output.display
          { status := 0, stderr := status (head ++ reportLines report ++ [last]), volume := v }

/-- Run a command. -/
def Invocation.run (c : Invocation) (v : Volume) (env : String → Option String) : Transcript :=
  match c with
  | .build r => r.run v env
  | .sphinxConfig r =>
    { status := 0, stdout := fillSampleConf r.project r.author r.version r.release, volume := v }
  | .help topic => { status := 0, stdout := topic.text, volume := v }
  | .version => { status := 0, stdout := versionText, volume := v }

/-- Run the program on its arguments (without its own name). A command line that cannot be read
gives status 2; without any argument the help goes to the error stream. -/
def runArgs (args : List String) (v : Volume) (env : String → Option String) : Transcript :=
  match Invocation.parse args with
  | .ok c => c.run v env
  | .error .missingSubcommand => { status := 2, stderr := programHelp, volume := v }
  | .error e => { status := 2, stderr := e.message, volume := v }

end FeatureDocs.Command
