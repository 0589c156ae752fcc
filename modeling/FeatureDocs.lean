import FeatureDocs.Command.Help
import FeatureDocs.Command.Line
import FeatureDocs.Command.Run
import FeatureDocs.Command.SampleConf
import FeatureDocs.Data.Sorted
import FeatureDocs.Feature.Dialect
import FeatureDocs.Feature.Model
import FeatureDocs.Feature.Reader
import FeatureDocs.Feature.TagFilter
import FeatureDocs.Gherkin.Languages
import FeatureDocs.Gherkin.Parse
import FeatureDocs.Gherkin.Syntax
import FeatureDocs.Main
import FeatureDocs.Markup.Document
import FeatureDocs.Markup.Escape
import FeatureDocs.Markup.Write
import FeatureDocs.Regex.Machine
import FeatureDocs.Regex.Parse
import FeatureDocs.Regex.Syntax
import FeatureDocs.Regex.Template
import FeatureDocs.Render.Decoration
import FeatureDocs.Render.Glossary
import FeatureDocs.Render.Link
import FeatureDocs.Render.Page
import FeatureDocs.Render.TagList
import FeatureDocs.Settings.Expand
import FeatureDocs.Settings.Load
import FeatureDocs.Settings.Toml
import FeatureDocs.Store.Path
import FeatureDocs.Store.Volume
import FeatureDocs.Text.Blank
import FeatureDocs.Text.Case
import FeatureDocs.Text.CaseTable
import FeatureDocs.Text.Category
import FeatureDocs.Text.Dedent
import FeatureDocs.Text.Lines
import FeatureDocs.Text.Lookup
import FeatureDocs.Text.PropertyTable
import FeatureDocs.Text.ScriptTable
import FeatureDocs.Text.Similarity
import FeatureDocs.Tree.Build
import FeatureDocs.Tree.Failure
import FeatureDocs.Tree.Glob
import FeatureDocs.Tree.Heading
import FeatureDocs.Tree.Kind
import FeatureDocs.Tree.Naming
import FeatureDocs.Tree.Scan
import FeatureDocs.Tree.Toc
import FeatureDocs.Proofs.TagSelection
import FeatureDocs.Proofs.Compare
import FeatureDocs.Proofs.Locations
import FeatureDocs.Proofs.ScanOrder
import FeatureDocs.Proofs.BuildSteps
import FeatureDocs.Proofs.BuildPlan
import FeatureDocs.Proofs.ContextMerge
import FeatureDocs.Proofs.RenderBatches
import FeatureDocs.Proofs.TocLinks
import FeatureDocs.Proofs.OutputNames
import FeatureDocs.Proofs.VolumeFrame
import FeatureDocs.Proofs.PathWalk
import FeatureDocs.Proofs.DryRun
import FeatureDocs.Proofs.Rebuild
import FeatureDocs.Proofs.PageContext
import FeatureDocs.Proofs.GlossaryLayout
import FeatureDocs.Proofs.CsvTable
import FeatureDocs.Proofs.Placeholders
import FeatureDocs.Proofs.PlaceholderRegex
import FeatureDocs.Proofs.EscapeDecoding
import FeatureDocs.Proofs.CheckedSettings
import FeatureDocs.Proofs.GlossaryGroups
import FeatureDocs.Proofs.RecordingOrder
import FeatureDocs.Proofs.ScenarioOrder
import FeatureDocs.Proofs.SettingsOverride
import FeatureDocs.Proofs.ScanPaths
