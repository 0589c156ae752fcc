import FeatureDocs.Command.Line

/-!
# Command-line settings replace what they give

A build's command line may give any of nineteen settings; each one given replaces one field of
the loaded settings, and what it does not give stays as loaded. The quote, the link rules and the
file the settings came from have no setting on the command line and never change. (The tables of
the settings file are read into these fields when the file is loaded and are not kept beside
them.)

The fields are named by `Setting`, read by `Config.value` and given by
`CommandLineSettings.value`, so that the nineteen replacements are one law.

* `Config.ext_value`: settings are determined by their nineteen fields, the quote, the link rules
  and the file;
* `Config.override_value`, `Config.override_eq_iff`: the override replaces exactly the fields
  that are given;
* `BuildRequest.commandLineSettings_value_eq_none`: a build's command line gives a field exactly
  when its argument is not left at its default;
* **`BuildRequest.override_by_command_line`**: the settings after a build's command line.
-/

namespace FeatureDocs.Settings

open FeatureDocs.Store

/-- The fields of the settings that the command line can give. -/
inductive Setting where
  | sourceDir
  | outputDir
  | exclude
  | includePrivate
  | parser
  | tocName
  | maxTocDepth
  | project
  | glossaryName
  | groupGlossary
  | tagListName
  | integrateBackground
  | backgroundStepFormat
  | rawDescriptions
  | includeTags
  | excludeTags
  | tagUrl
  | stepUrl
  | displayName
deriving DecidableEq, Repr

/-- What a field of the settings holds. -/
abbrev Setting.Value : Setting → Type
  | .sourceDir | .outputDir => Option Path
  | .exclude | .includeTags | .excludeTags => List String
  | .includePrivate | .groupGlossary | .integrateBackground | .rawDescriptions => Bool
  | .parser | .tocName | .backgroundStepFormat => String
  | .maxTocDepth => Nat
  | .project | .glossaryName | .tagListName | .tagUrl | .stepUrl | .displayName => Option String

/-- A field of the settings. -/
def Config.value (s : Config) : (k : Setting) → k.Value
  | .sourceDir => s.source.dir
  | .outputDir => s.output.dir
  | .exclude => s.source.exclude
  | .includePrivate => s.source.includePrivate
  | .parser => s.source.parser
  | .tocName => s.output.tocName
  | .maxTocDepth => s.output.maxTocDepth
  | .project => s.output.project
  | .glossaryName => s.output.glossaryName
  | .groupGlossary => s.output.groupGlossary
  | .tagListName => s.output.tagListName
  | .integrateBackground => s.render.integrateBackground
  | .backgroundStepFormat => s.render.backgroundStepFormat
  | .rawDescriptions => s.render.rawDescriptions
  | .includeTags => s.render.includeTags
  | .excludeTags => s.render.excludeTags
  | .tagUrl => s.render.tagUrl
  | .stepUrl => s.render.stepUrl
  | .displayName => s.render.displayName

/-- The value the command line gives a field, if it gives one; a directory or a name it gives
is set. -/
def CommandLineSettings.value (c : CommandLineSettings) : (k : Setting) → Option k.Value
  | .sourceDir => c.sourceDir.map some
  | .outputDir => c.outputDir.map some
  | .exclude => c.exclude
  | .includePrivate => c.includePrivate
  | .parser => c.parser
  | .tocName => c.tocName
  | .maxTocDepth => c.maxTocDepth
  | .project => c.project.map some
  | .glossaryName => c.glossaryName.map some
  | .groupGlossary => c.groupGlossary
  | .tagListName => c.tagListName.map some
  | .integrateBackground => c.integrateBackground
  | .backgroundStepFormat => c.backgroundStepFormat
  | .rawDescriptions => c.rawDescriptions
  | .includeTags => c.includeTags
  | .excludeTags => c.excludeTags
  | .tagUrl => c.tagUrl.map some
  | .stepUrl => c.stepUrl.map some
  | .displayName => c.displayName.map some

/-- The empty command line gives no field. -/
@[simp] theorem CommandLineSettings.value_default (k : Setting) :
    ({} : CommandLineSettings).value k = none := by
  cases k <;> rfl

/-- **Settings are their fields.** Two settings with the same nineteen fields, quote, link rules
and file are the same. -/
theorem Config.ext_value {a b : Config} (h : ∀ k, a.value k = b.value k)
    (hquote : a.render.quote = b.render.quote) (hlinks : a.links = b.links)
    (hpath : a.path = b.path) : a = b := by
  obtain ⟨⟨_, _, _, _⟩, ⟨_, _, _, _, _, _, _⟩, ⟨_, _, _, _, _, _, _, _, _⟩, _, _⟩ := a
  obtain ⟨⟨_, _, _, _⟩, ⟨_, _, _, _, _, _, _⟩, ⟨_, _, _, _, _, _, _, _, _⟩, _, _⟩ := b
  simp only [Config.mk.injEq, SourceSettings.mk.injEq, OutputSettings.mk.injEq,
    RenderSettings.mk.injEq]
  exact ⟨⟨h .sourceDir, h .exclude, h .includePrivate, h .parser⟩,
    ⟨h .outputDir, h .tocName, h .maxTocDepth, h .project, h .glossaryName, h .groupGlossary,
      h .tagListName⟩,
    ⟨h .integrateBackground, h .backgroundStepFormat, h .rawDescriptions, h .includeTags,
      h .excludeTags, hquote, h .tagUrl, h .stepUrl, h .displayName⟩, hlinks, hpath⟩

theorem orElse_eq_getD_map_some {α : Type} (o old : Option α) :
    (o.orElse fun _ => old) = (o.map some).getD old := by
  cases o <;> rfl

/-- **The override replaces a field exactly when the command line gives it.** -/
theorem Config.override_value (s : Config) (c : CommandLineSettings) (k : Setting) :
    (s.override c).value k = (c.value k).getD (s.value k) := by
  cases k <;> simp only [Config.override, Config.value, CommandLineSettings.value,
    orElse_eq_getD_map_some]

/-- **What an override is.** The settings after the command line are those whose given fields
hold the given values and whose other fields, quote, link rules and file are as loaded. -/
theorem Config.override_eq_iff (s t : Config) (c : CommandLineSettings) :
    s.override c = t ↔ (∀ k, t.value k = (c.value k).getD (s.value k)) ∧
      t.render.quote = s.render.quote ∧ t.links = s.links ∧ t.path = s.path := by
  constructor
  · rintro rfl
    exact ⟨s.override_value c, rfl, rfl, rfl⟩
  · rintro ⟨hvalue, hquote, hlinks, hpath⟩
    exact Config.ext_value (fun k => (s.override_value c k).trans (hvalue k).symm)
      hquote.symm hlinks.symm hpath.symm

theorem Config.override_default (s : Config) : s.override {} = s :=
  (s.override_eq_iff s {}).mpr ⟨fun k => by simp, rfl, rfl, rfl⟩

end FeatureDocs.Settings

namespace FeatureDocs.Command

open FeatureDocs.Settings

/-- The argument of a build behind a field is left at its default: an option not given, a flag
not set, a list left empty. -/
def BuildRequest.Unset (r : BuildRequest) : Setting → Prop
  | .sourceDir => r.sourceDir = none
  | .outputDir => r.outputDir = none
  | .exclude => r.excludePatterns = []
  | .includePrivate => r.includePrivate = false
  | .parser => r.parser = none
  | .tocName => r.tocName = none
  | .maxTocDepth => r.maxTocDepth = none
  | .project => r.project = none
  | .glossaryName => r.glossaryName = none
  | .groupGlossary => r.groupGlossary = false
  | .tagListName => r.tagListName = none
  | .integrateBackground => r.integrateBackground = false
  | .backgroundStepFormat => r.backgroundStepFormat = none
  | .rawDescriptions => r.rawDescriptions = false
  | .includeTags => r.includeTags = []
  | .excludeTags => r.excludeTags = []
  | .tagUrl => r.tagUrl = none
  | .stepUrl => r.stepUrl = none
  | .displayName => r.displayName = none

/-- **A build gives a field exactly when its argument is not left at its default.** -/
theorem BuildRequest.commandLineSettings_value_eq_none (r : BuildRequest) (k : Setting) :
    r.commandLineSettings.value k = none ↔ r.Unset k := by
  cases k <;> simp [BuildRequest.commandLineSettings, CommandLineSettings.value, BuildRequest.Unset]

/-- **The settings after a build's command line.** They are the loaded settings with exactly the
fields the command line gives replaced by the given values, the quote, the link rules and the
file kept; an argument left at its default changes nothing, and an empty command line leaves the
settings as they are. -/
theorem BuildRequest.override_by_command_line (r : BuildRequest) (s : Config) :
    (∀ t, s.override r.commandLineSettings = t ↔
      (∀ k, t.value k = (r.commandLineSettings.value k).getD (s.value k)) ∧
        t.render.quote = s.render.quote ∧ t.links = s.links ∧ t.path = s.path) ∧
    (∀ k, r.Unset k → (s.override r.commandLineSettings).value k = s.value k) ∧
    s.override {} = s := by
  refine ⟨fun t => s.override_eq_iff t _, fun k hk => ?_, s.override_default⟩
  rw [s.override_value, (r.commandLineSettings_value_eq_none k).mpr hk, Option.getD_none]

/-- A command line that gives a source directory, a depth, excluded tags and the background flag
keeps the project name of the settings file. -/
theorem override_by_command_line_keeps_project :
    let s : Config := { output := { dir := some ⟨"/project/out"⟩, maxTocDepth := 2,
                                    project := some "Shop" } }
    let r : BuildRequest := { sourceDir := some ⟨"/cli/features"⟩, maxTocDepth := some 6,
                              excludeTags := ["wip"], integrateBackground := true }
    r.Unset .project ∧ (s.override r.commandLineSettings).value .project = some "Shop" := by
  intro s r
  exact ⟨rfl, (r.override_by_command_line s).2.1 .project rfl⟩

end FeatureDocs.Command
