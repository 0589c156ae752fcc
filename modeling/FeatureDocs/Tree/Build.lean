import FeatureDocs.Feature.Reader
import FeatureDocs.Markup.Write
import FeatureDocs.Render.Page
import FeatureDocs.Tree.Failure
import FeatureDocs.Tree.Kind
import FeatureDocs.Tree.Naming
import FeatureDocs.Tree.Scan
import FeatureDocs.Tree.Toc

/-!
# Building the documentation tree

The directories of a scan are taken from the end of the work list, so that every directory is
handled after its subdirectories. A directory with no files and no retained subdirectory is
pruned; otherwise each feature file becomes a page (or is skipped when no scenario is left after
tag filtering), other non-reStructuredText files are copied, and the directory gets a table of
contents. The last directory handled, the root, has its table of contents under the chosen name.
At the end the glossary and the tag list are written when they are asked for.

Nothing is written or copied on a dry run, and a document whose file already holds its text is
left alone and counted as unchanged. A build that stops on an error keeps what it wrote before.
The log of a build tells each document it wrote (or, on a dry run, would have written), each file
it copied and each feature it skipped, in order.

* `BuildSettings`, `BuildReport`, `Outcome`, `Halted`, `LogEntry`;
* `prepareOutputDir`, `Job.directories`, `buildJob`, `build`.
-/

namespace FeatureDocs.Tree

open FeatureDocs.Store FeatureDocs.Markup FeatureDocs.Feature FeatureDocs.Render

/-- The choices of one build. -/
structure BuildSettings where
  outputDir : Path
  tocName : String
  maxTocDepth : Nat
  projectName : String
  glossaryName : Option String
  groupGlossary : Bool
  tagListName : Option String
  style : Option HeadingStyle
  dryRun : Bool

/-- What became of the glossary or the tag list. -/
inductive Outcome where
  | written (path : Path)
  | empty
  | notRequested
  | dryRun
deriving DecidableEq, Repr

/-- The counts of a build. -/
structure BuildReport where
  tocs : Nat := 0
  featuresRendered : Nat := 0
  featuresSkipped : Nat := 0
  filesCopied : Nat := 0
  unchanged : Nat := 0
  steps : Nat := 0
  tags : Nat := 0
  glossary : Outcome := .notRequested
  tagList : Outcome := .notRequested
deriving DecidableEq, Repr

/-- A build stopped by an error, with the volume as the build left it. -/
structure Halted where
  error : BuildError
  volume : Volume

/-- Make the output directory unless it exists or the run is dry. -/
def prepareOutputDir (v : Volume) (dir : Path) (dryRun : Bool) : Except BuildError Volume :=
  if dryRun || v.isDir dir then .ok v
  else (v.makeDirs dir).mapError (.outputDir dir)

/-- One line of the log of a build. -/
inductive LogEntry where
  /-- A document written to a path, with what writing it did; none on a dry run. -/
  | write (path : Path) (doc : Document) (outcome : Option WriteOutcome)
  | copy (source target : Path)
  /-- A feature left out because no scenario is left after tag filtering. -/
  | skip (source : Path)

/-- The state of a build between directories. -/
structure Job where
  volume : Volume
  context : Context := {}
  report : BuildReport := {}
  /-- The directories that got a table of contents. -/
  kept : List Path := []
  log : List LogEntry := []

namespace Job

variable (cfg : BuildSettings)

/-- Write a document, unless the run is dry; an unchanged file is counted. -/
def write (j : Job) (doc : Document) (p : Path) : Except Halted Job :=
  if cfg.dryRun then .ok { j with log := j.log ++ [.write p doc none] }
  else
    match doc.writeTo j.volume p with
    | .error e => .error ⟨.write p e, j.volume⟩
    | .ok (.unchanged, v) =>
      .ok { j with volume := v, report := { j.report with unchanged := j.report.unchanged + 1 },
                   log := j.log ++ [.write p doc (some .unchanged)] }
    | .ok (.written, v) => .ok { j with volume := v, log := j.log ++ [.write p doc (some .written)] }

/-- Copy a file, unless the run is dry. -/
def copy (j : Job) (src dst : Path) : Except Halted Job :=
  if cfg.dryRun then .ok { j with log := j.log ++ [.copy src dst] }
  else
    match j.volume.copyFile src dst with
    | .error e => .error ⟨.copy src dst e, j.volume⟩
    | .ok v => .ok { j with volume := v, log := j.log ++ [.copy src dst] }

/-- One file of a directory: the job after it and whether it goes into the table of contents. -/
def file (page : PageSettings) (parser : FeatureParser) (dir : DirEntry) (j : Job) (name : String) :
    Except Halted (Job × Bool) := do
  let source := dir.absolutePath.push name
  let names := dir.pathList ++ [name]
  if isFeatureFile name then
    let feature ← (parser.parse j.volume source).mapError fun e => ⟨.parse e, j.volume⟩
    match page.render feature j.context with
    | none =>
      pure ({ j with report := { j.report with featuresSkipped := j.report.featuresSkipped + 1 },
                     log := j.log ++ [.skip source] }, false)
    | some (doc, ctx) =>
      let j ← write cfg { j with context := ctx } doc (cfg.outputDir.push (flatName names none false (some outputExtension)))
      pure ({ j with report := { j.report with featuresRendered := j.report.featuresRendered + 1 } }, true)
  else if !isRstFile name then
    let j ← copy cfg j source (cfg.outputDir.push (flatName names none false none))
    pure ({ j with report := { j.report with filesCopied := j.report.filesCopied + 1 } }, true)
  else pure (j, true)

/-- The files of a directory in order: the job after them and the files that go into the table
of contents. -/
def files (page : PageSettings) (parser : FeatureParser) (dir : DirEntry) (j : Job) :
    Except Halted (Job × List String) :=
  dir.files.foldlM (fun (j, listed) name => do
    let (j, keep) ← file cfg page parser dir j name
    pure (j, if keep then listed ++ [name] else listed)) (j, [])

/-- A directory that is kept: it is recorded, its files are handled, and its table of contents,
listing the given subdirectories, is written under the chosen name when `isRoot` is set and under
its flat name otherwise. -/
def document (page : PageSettings) (parser : FeatureParser) (toc : TocBuilder) (j : Job) (dir : DirEntry)
    (subs : List String) (isRoot : Bool) : Except Halted Job := do
  let j := { j with kept := dir.absolutePath :: j.kept }
  let (j, listed) ← files cfg page parser dir j
  let doc ← (toc.build j.volume dir.pathList subs listed).mapError fun e => ⟨e, j.volume⟩
  let target := if isRoot then cfg.outputDir.push (cfg.tocName ++ outputExtension)
    else cfg.outputDir.push (flatName dir.pathList none true (some outputExtension))
  let j ← write cfg j doc target
  pure { j with report := { j.report with tocs := j.report.tocs + 1 } }

/-- One directory of the work list; `isRoot` tells whether it is the last one. It is pruned when
it has no files and no subdirectory that got a table of contents. -/
def directory (page : PageSettings) (parser : FeatureParser) (toc : TocBuilder) (j : Job) (dir : DirEntry)
    (isRoot : Bool) : Except Halted Job :=
  let subs := dir.subDirectories.filter fun sub => j.kept.any fun p => p.sameAs (dir.absolutePath.push sub)
  if dir.files.isEmpty && subs.isEmpty then pure j
  else document cfg page parser toc j dir subs isRoot

/-- The glossary or the tag list: written under its name when asked for and not empty. -/
def finish (j : Job) (name : Option String) (doc : Option Document) : Except Halted (Job × Outcome) :=
  match name with
  | none => .ok (j, .notRequested)
  | some n =>
    if cfg.dryRun then .ok (j, .dryRun)
    else
      match doc with
      | none => .ok (j, .empty)
      | some d =>
        let p := cfg.outputDir.push (n ++ outputExtension)
        (write cfg j d p).map fun j => (j, .written p)

end Job

/-- The directories of a work list from the end, each with whether it is the last one. -/
def fromTheEnd (entries : List DirEntry) : List (DirEntry × Bool) :=
  let rev := entries.reverse
  rev.zipIdx.map fun (e, i) => (e, i + 1 == rev.length)

/-- Handle the directories of a work list from the end. -/
def Job.directories (cfg : BuildSettings) (page : PageSettings) (parser : FeatureParser) (toc : TocBuilder)
    (j : Job) (entries : List DirEntry) : Except Halted Job :=
  (fromTheEnd entries).foldlM (fun j (dir, isRoot) => Job.directory cfg page parser toc j dir isRoot) j

/-- Build the documentation of a scanned tree into the output directory: the job at the end holds
the report, the volume and the log. -/
def buildJob (cfg : BuildSettings) (page : PageSettings) (parser : FeatureParser) (work : WorkList) (v : Volume) :
    Except Halted Job := do
  let v ← (prepareOutputDir v cfg.outputDir cfg.dryRun).mapError fun e => ⟨e, v⟩
  let toc : TocBuilder := { rootPath := work.rootPath, maxTocDepth := cfg.maxTocDepth, style := cfg.style }
  let j ← Job.directories cfg page parser toc { volume := v } work.entries
  let j := { j with report := { j.report with steps := j.context.glossary.size, tags := j.context.tags.size } }
  let (j, g) ← Job.finish cfg j cfg.glossaryName (j.context.glossary.render cfg.projectName cfg.groupGlossary)
  let (j, t) ← Job.finish cfg j cfg.tagListName (j.context.tags.render cfg.projectName)
  pure { j with report := { j.report with glossary := g, tagList := t } }

/-- Build the documentation of a scanned tree into the output directory: the report and the
volume after the build. -/
def build (cfg : BuildSettings) (page : PageSettings) (parser : FeatureParser) (work : WorkList) (v : Volume) :
    Except Halted (BuildReport × Volume) :=
  (buildJob cfg page parser work v).map fun j => (j.report, j.volume)

end FeatureDocs.Tree
