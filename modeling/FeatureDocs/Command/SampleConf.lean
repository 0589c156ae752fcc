/-!
# The sample Sphinx configuration

A starting configuration for Sphinx that reads the generated pages, with four placeholders for
the project, its author, its version and its release. The placeholders are replaced one after
the other, each in the text left by the ones before, so a value that itself holds a later
placeholder is replaced too.

* `sampleConfLines`, `sampleConf`, `fillSampleConf`.
-/

namespace FeatureDocs.Command

/-- The lines of the sample configuration. -/
def sampleConfLines : List String :=
  [
    "\"\"\"Sphinx configuration for documentation generated by gherkindoc.\"\"\"",
    "",
    "# -- Project information -------------------------------------------------",
    "",
    "project = \"%%PROJECT%%\"",
    "author = \"%%AUTHOR%%\"",
    "",
    "# The short X.Y version.",
    "version = \"%%VERSION%%\"",
    "",
    "# The full version, including alpha/beta/rc tags.",
    "release = \"%%RELEASE%%\"",
    "",
    "# -- General configuration -----------------------------------------------",
    "",
    "extensions = [",
    "    \"myst_parser\",",
    "    \"sphinx.ext.todo\",",
    "]",
    "",
    "# gherkindoc copies Markdown files next to the generated rST.",
    "source_suffix = \x7b",
    "    \".rst\": \"restructuredtext\",",
    "    \".md\": \"markdown\",",
    "\x7d",
    "",
    "templates_path = [\"_templates\"]",
    "",
    "# Point this at the top-level table of contents (--toc-name) if you do not",
    "# include it from your own index.",
    "root_doc = \"index\"",
    "",
    "exclude_patterns = [\"_build\", \"Thumbs.db\", \".DS_Store\"]",
    "",
    "pygments_style = \"sphinx\"",
    "",
    "todo_include_todos = True",
    "",
    "# -- Options for HTML output ---------------------------------------------",
    "",
    "html_theme = \"sphinx_rtd_theme\""
  ]

/-- The sample configuration: its lines, each ended by a newline. -/
def sampleConf : String := String.join (sampleConfLines.map (· ++ "\n"))

/-- The sample configuration with its placeholders replaced, in the order project, author,
version, release. -/
def fillSampleConf (project author version release : String) : String :=
  [("%%PROJECT%%", project), ("%%AUTHOR%%", author), ("%%VERSION%%", version),
    ("%%RELEASE%%", release)].foldl (fun conf (placeholder, value) => conf.replace placeholder value)
    sampleConf

end FeatureDocs.Command
